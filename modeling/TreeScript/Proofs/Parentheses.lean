/-
  TreeScript.Proofs.Parentheses — no operand stands in parentheses for nothing.

  Take the parentheses off an operand that lowering puts in them, and what is left of the
  infix text is no expression, or another one. On the right of an operator the text goes
  on to be an expression: the operator takes the first part of the operand for itself
  (`Derives.regraft`), and the operator of the operand is now around it. On the left it
  may be none, since the right end of the operand may be a sign, which `**` does not take.
  There the tokens are looked at from their start: at a level, a token list begins with at
  most one expression that nothing goes on with (`Derives.prefix_unique`), and the operand
  begins with a shorter one than the whole (`Derives.first`).
-/

import TreeScript.Proofs.ReadBack

namespace TreeScript.Script

/-! ## Derivations of operators -/

theorem Operator.level_le_seven (op : Operator) : op.level ≤ 7 := by cases op <;> decide

theorem Operator.eq_pow_of_level {op : Operator} (h : 7 ≤ op.level) : op = .pow := by
  cases op <;> first | rfl | exact absurd h (by decide)

theorem Operator.leftLevel_of_lt {op : Operator} (h : op.level < 7) : op.leftLevel = op.level := by
  cases op <;> first | rfl | exact absurd h (by decide)

theorem Operator.rightLevel_le (op : Operator) : op.rightLevel ≤ op.level + 1 := by cases op <;> decide

theorem stops_operator {op : Operator} {l : Nat} (h : op.level < l) (rest : List Token) :
    Stops l (.mark op.token :: rest) := by
  refine stops_cons fun k hk => ?_
  rw [Token.level?_operator] at hk
  cases hk
  exact h

theorem Stops.append {l : Nat} {ts us : List Token} (hts : Stops l ts) (hus : Stops l us) : Stops l (ts ++ us) := by
  cases ts with
  | nil => exact hus
  | cons x ts => exact stops_cons (hts x rfl)

/-- At a level, a token list begins with at most one expression that nothing goes on with. -/
theorem Derives.prefix_unique {l : Nat} {as bs rest rest' : List Token} {t u : Node} (ht : Derives as (.expr l t))
    (hu : Derives bs (.expr l u)) (heq : as ++ rest = bs ++ rest') (hrest : Stops l rest) (hrest' : Stops l rest') :
    t = u ∧ rest = rest' := by
  have hboth := (ParsedExpr.done ht.parsed rest hrest).and (ParsedExpr.done hu.parsed rest' hrest')
  obtain ⟨n, hnt, hnu⟩ := hboth.exists
  rw [heq, hnu] at hnt
  cases hnt
  exact ⟨rfl, rfl⟩

/-- An operator over two nodes is derived from its operands, or stands in parentheses. -/
theorem Derives.binary_cases {ts : List Token} {l : Nat} {op : Operator} {t u : Node}
    (h : Derives ts (.expr l (.binary op t u))) :
    (∃ as bs, ts = as ++ .mark op.token :: bs ∧ Derives as (.expr op.leftLevel t) ∧
        Derives bs (.expr op.rightLevel u)) ∨
      Derives ts (.expr 10 (.binary op t u)) := by
  generalize hp : Phrase.expr l (.binary op t u) = p at h
  induction h generalizing l with
  | loosen _ ih =>
    cases hp
    exact ih rfl
  | binary op ha hb =>
    cases hp
    exact .inl ⟨_, _, rfl, ha, hb⟩
  | paren h =>
    cases hp
    exact .inr h.paren
  | _ => cases hp

/-- What is an operator over two nodes at some level is so at the operator's own. -/
theorem Derives.tighten {ts : List Token} {l : Nat} {op : Operator} {t u : Node}
    (h : Derives ts (.expr l (.binary op t u))) : Derives ts (.expr op.level (.binary op t u)) := by
  rcases h.binary_cases with ⟨as, bs, rfl, ha, hb⟩ | h
  · exact .binary op ha hb
  · exact h.loosenTo (Nat.le_trans op.level_le_seven (by decide))

/-- At a level of operators that group to the left, tokens begin with an expression of the next level, after
which there is nothing or an operator of this level. -/
theorem Derives.first {ts : List Token} {l : Nat} {t : Node} (h1 : 1 ≤ l) (h6 : l ≤ 6) (h : Derives ts (.expr l t)) :
    ∃ as rest u, ts = as ++ rest ∧ Derives as (.expr (l + 1) u) ∧ Stops (l + 1) rest := by
  generalize hp : Phrase.expr l t = p at h
  induction h generalizing l t with
  | loosen h =>
    cases hp
    exact ⟨_, [], _, (List.append_nil _).symm, h, stops_nil _⟩
  | @binary op as bs t u ha hb iha =>
    cases hp
    rw [op.leftLevel_of_lt (by omega)] at iha
    obtain ⟨cs, rest, v, rfl, hv, hrest⟩ := iha h1 h6 rfl
    exact ⟨cs, rest ++ .mark op.token :: bs, v, List.append_assoc .., hv,
      hrest.append (stops_operator (Nat.lt_succ_self _) bs)⟩
  | conditional => cases hp; omega
  | unary | call | member | index => cases hp; omega
  | name | number | boolean | null | string | template | array | object | paren | construct => cases hp; omega
  | _ => cases hp

/-- Between two operands an operator takes as much of the right one as it can. -/
theorem Derives.regraft {op : Operator} {as bs : List Token} {l : Nat} {t u : Node} (hl : l ≤ op.level)
    (ha : Derives as (.expr op.leftLevel t)) (hb : Derives bs (.expr l u)) :
    ∃ v, Derives (as ++ .mark op.token :: bs) (.expr l v) := by
  have h7 := op.level_le_seven
  generalize hp : Phrase.expr l u = p at hb
  induction hb generalizing l u with
  | @loosen k bs u h ih =>
    cases hp
    by_cases hnext : k + 1 ≤ op.level
    · obtain ⟨v, hv⟩ := ih hnext rfl
      exact ⟨v, hv.loosen⟩
    · obtain rfl : k = op.level := by omega
      exact ⟨_, .binary op ha (h.loosenTo op.rightLevel_le)⟩
  | conditional _ hc hd ih =>
    cases hp
    have h1 : 1 ≤ op.level := by cases op <;> decide
    obtain ⟨v, hv⟩ := ih h1 rfl
    have hwhole := Derives.conditional hv hc hd
    rw [List.append_assoc] at hwhole
    exact ⟨_, hwhole⟩
  | binary op' hc hd ihc =>
    cases hp
    by_cases hpow : 7 ≤ op'.level
    · -- `**` groups to the right, so it takes all of the operand
      obtain rfl := Operator.eq_pow_of_level hpow
      obtain rfl := Operator.eq_pow_of_level (Nat.le_trans hpow hl)
      exact ⟨_, .binary .pow ha (.binary .pow hc hd)⟩
    · have hleft := Operator.leftLevel_of_lt (Nat.lt_of_not_le hpow)
      obtain ⟨v, hv⟩ := ihc (hleft ▸ hl) rfl
      have hwhole := Derives.binary op' hv hd
      rw [List.append_assoc] at hwhole
      exact ⟨_, hwhole⟩
  | unary | call | member | index => cases hp; omega
  | name | number | boolean | null | string | template | array | object | paren | construct => cases hp; omega
  | _ => cases hp

/-! ## Operands without their parentheses -/

section Operands

variable {op op' : Operator} {as bs cs : List Token} {a b t u : Node}

/-- On the right, an operand of a looser operator, or of a like one that groups to the left, is taken apart. -/
theorem not_derives_right (hlevel : op'.level ≤ op.level) (hpow : op' ≠ .pow) (hc : Derives cs (.expr op.leftLevel t))
    (ha : Derives as (.expr op'.leftLevel a)) (hb : Derives bs (.expr op'.rightLevel b)) :
    ¬Derives (cs ++ .mark op.token :: (as ++ .mark op'.token :: bs)) (.expr 0 (.binary op t (.binary op' a b))) := by
  intro h
  have hlt : op'.level < 7 := by cases op' <;> first | decide | exact absurd rfl hpow
  obtain ⟨v, hv⟩ := Derives.regraft (Operator.leftLevel_of_lt hlt ▸ hlevel) hc ha
  have hother := (Derives.binary op' hv hb).loosenTo (Nat.zero_le _)
  rw [List.append_assoc] at hother
  have heq := congrArg sizeOf (Node.binary.inj (h.unique hother)).2.2
  simp only [Node.binary.sizeOf_spec] at heq
  omega

/-- On the left, an operand of a looser operator is no expression that the operator could take. -/
theorem not_derives_left (hlevel : op'.level < op.level) (ha : Derives as (.expr op'.leftLevel a)) :
    ¬Derives (as ++ .mark op'.token :: bs) (.expr 0 (.binary op t u)) := by
  intro h
  have h7 := op.level_le_seven
  have hleft := Operator.leftLevel_of_lt (Nat.lt_of_lt_of_le hlevel h7)
  have h1 : 1 ≤ op'.level := by cases op' <;> decide
  rw [hleft] at ha
  obtain ⟨ds, rest, v, rfl, hv, hrest⟩ := ha.first h1 (by omega)
  have hstops := hrest.append (stops_operator (Nat.lt_succ_self op'.level) bs)
  have hwhole := h.tighten.loosenTo hlevel
  have heq := (hv.prefix_unique hwhole (by simp) hstops (stops_nil _)).2
  simp at heq

/-- On the left of `**`, another `**` is one on the right. -/
theorem not_derives_pow (ha : Derives as (.expr 9 a)) :
    ¬Derives (as ++ .mark Operator.pow.token :: bs) (.expr 0 (.binary .pow (.binary .pow a b) u)) := by
  intro h
  have hstops (rest : List Token) : Stops 9 (.mark Operator.pow.token :: rest) := stops_operator (by decide) rest
  rcases h.binary_cases with ⟨ds, es, heq, hd, -⟩ | h
  · obtain ⟨hnode, -⟩ := ha.prefix_unique hd heq (hstops _) (hstops _)
    have hsize := congrArg sizeOf hnode
    simp only [Node.binary.sizeOf_spec] at hsize
    omega
  · have hwhole := h.loosenTo (by decide : 9 ≤ 10)
    have hempty := (ha.prefix_unique hwhole (List.append_nil _).symm (hstops _) (stops_nil 9)).2
    cases hempty

/-- On the left of `**`, there is no sign. -/
theorem not_derives_signed (sign : Tree.UnaryOp) :
    ¬Derives (.mark sign.symbol :: as) (.expr 0 (.binary .pow t u)) := by
  intro h
  have hunsigned : ∀ {bs : List Token} {l : Nat} {v : Node}, Derives bs (.expr l v) → 9 ≤ l →
      ∃ x ds, bs = x :: ds ∧ x.sign? = none := by
    intro bs l v hv hl
    obtain ⟨x, ds, rfl, -, hx⟩ := hv.headed
    exact ⟨x, ds, rfl, hx hl⟩
  have hsign : ∃ x ds, .mark sign.symbol :: as = x :: ds ∧ x.sign? = none := by
    rcases h.binary_cases with ⟨ds, es, heq, hd, -⟩ | h
    · obtain ⟨x, fs, rfl, hx⟩ := hunsigned hd (Nat.le_refl 9)
      exact ⟨x, _, heq, hx⟩
    · exact hunsigned h (by decide)
  obtain ⟨x, ds, heq, hx⟩ := hsign
  cases heq
  rw [Token.sign?_symbol] at hx
  cases hx

end Operands

end TreeScript.Script

namespace TreeScript

/-- Not-a-number has no sign in a script, whatever its sign bit. -/
def Tree.Expr.isNaN : Tree.Expr → Bool
  | .literal (.number value) => value.isNaN
  | _ => false

namespace Lowering

open TreeScript.Script (Node Derives Token Operator)
open TreeScript.Tree (BinaryOp)

/-! ## Infix texts -/

/-- The operator that stands between the operands, and the one whose parentheses they have; none where both
operands become arguments. Equality is `loose` when a side is nil. -/
def between? (loose : Bool) : BinaryOp → Option (BinaryOp × Operator)
  | .concat | .append => none
  | .intDiv => some (.div, .div)
  | .eq => some (.eq, if loose then .looseEq else .strictEq)
  | .notEq => some (.notEq, if loose then .looseNe else .strictNe)
  | .add => some (.add, .add)
  | .sub => some (.sub, .sub)
  | .mul => some (.mul, .mul)
  | .div => some (.div, .div)
  | .mod => some (.mod, .mod)
  | .pow => some (.pow, .pow)
  | .lt => some (.lt, .lt)
  | .gt => some (.gt, .gt)
  | .le => some (.le, .le)
  | .ge => some (.ge, .ge)
  | .and => some (.and, .and)
  | .or => some (.or, .or)

theorem binary_of_between {op parent : BinaryOp} {o : Operator} {left right : Tree.Expr}
    (h : between? (left.isNil || right.isNil) op = some (parent, o)) (left' right' : Script.Expr) :
    binary op left right left' right' =
      if op = .intDiv then .call (.member (.name "Math") "floor") [infixed parent o left right left' right']
      else infixed parent o left right left' right' := by
  cases op <;> cases h <;> rfl

theorem binaryNode_of_between {op parent : BinaryOp} {o : Operator} {loose : Bool}
    (h : between? loose op = some (parent, o)) (hop : op ≠ .intDiv) (t u : Node) :
    binaryNode op loose t u = .binary o t u := by
  cases op with
  | intDiv => exact absurd rfl hop
  | concat | append => cases h
  | _ => cases h; rfl

theorem levels_of_between {op parent : BinaryOp} {o : Operator} {loose : Bool}
    (h : between? loose op = some (parent, o)) :
    opLevel parent < 9 ∧ o.level = opLevel parent ∧ o.leftLevel = sideLevel parent .left ∧
      o.rightLevel = sideLevel parent .right := by
  cases op <;> cases loose <;> cases h <;> decide

theorem between_of_lt {op : BinaryOp} (h : opLevel op < 9) (loose : Bool) :
    op ≠ .intDiv ∧ ∃ o, between? loose op = some (op, o) := by
  cases op <;> first | exact ⟨by decide, _, rfl⟩ | exact absurd h (by decide)

def Side.pick {α : Type} : Side → α → α → α
  | .left, a, _ => a
  | .right, _, b => b

/-- An infix text in which the operand of one side is written without parentheses. -/
def bared (side : Side) (parent : BinaryOp) (op : Operator) (left right : Tree.Expr) (left' right' : Script.Expr) :
    Script.Expr :=
  .binary op (wrapped (side ≠ .left && wrapsOperand parent .left left) left')
    (wrapped (side ≠ .right && wrapsOperand parent .right right) right')

theorem bared_of_not_wraps {side : Side} {parent : BinaryOp} {left right : Tree.Expr}
    (h : wrapsOperand parent side (side.pick left right) = false) (op : Operator) (left' right' : Script.Expr) :
    bared side parent op left right left' right' = infixed parent op left right left' right' := by
  cases side
  · rw [bared, infixed, show wrapsOperand parent .left left = false from h]
    rfl
  · rw [bared, infixed, show wrapsOperand parent .right right = false from h]
    rfl

theorem quasis_wrapped (w : Bool) (e : Script.Expr) : Script.quasis (wrapped w e).tokens = Script.quasis e.tokens := by
  cases w with
  | false => rfl
  | true => simp [wrapped, Script.Expr.tokens, Script.quasis, Script.Token.isQuasi]

theorem quasis_bared (side : Side) (parent : BinaryOp) (op : Operator) (left right : Tree.Expr)
    (left' right' : Script.Expr) :
    Script.quasis (bared side parent op left right left' right').tokens =
      Script.quasis (infixed parent op left right left' right').tokens := by
  simp only [bared, infixed, Script.Expr.tokens, Script.quasis_append, quasis_wrapped]

/-! ## The operands that stand in parentheses -/

/-- An operator in parentheses binds no tighter than the one around it, and as tightly only where that one does
not group with its like. -/
theorem opLevel_of_wraps : ∀ parent ∈ BinaryOp.all, ∀ side ∈ [Side.left, .right], ∀ op ∈ BinaryOp.all,
    opLevel parent < 9 →
    (precedence op < precedence parent || (precedence op = precedence parent && side = looseSide parent)) = true →
    opLevel op < opLevel parent ∨ (opLevel op = opLevel parent ∧ side = looseSide parent) := by decide

variable {s : Scope} {parent : BinaryOp} {o : Operator}

theorem derives_operand (hs : s.library.wellNamed = true) {e : Tree.Expr} (he : e.wellNamed = true)
    (hp : opLevel parent < 9) (side : Side) :
    Derives (wrapped (wrapsOperand parent side e) (expr s e)).tokens (.expr (sideLevel parent side) (node s e)) := by
  obtain ⟨h9, h7, -⟩ := sideLevel_le_nine parent (mem_all parent) hp
  refine wrapped_derives ?_ (derives hs e he) (le_grade_of_wrapsOperand hp)
  cases side <;> omega

/-- The tokens of an infix operand are those of its own operands with its operator between them. -/
theorem tokens_binary (hs : s.library.wellNamed = true) {op : BinaryOp} {l r : Tree.Expr}
    (he : (Tree.Expr.binary op l r).wellNamed = true) (hop : opLevel op < 9) :
    ∃ o as bs, (expr s (.binary op l r)).tokens = as ++ .mark o.token :: bs ∧
      node s (.binary op l r) = .binary o (node s l) (node s r) ∧ o.level = opLevel op ∧
      Derives as (.expr o.leftLevel (node s l)) ∧ Derives bs (.expr o.rightLevel (node s r)) := by
  obtain ⟨hdiv, o, hbetween⟩ := between_of_lt hop (l.isNil || r.isNil)
  obtain ⟨-, hlevel, hleft, hright⟩ := levels_of_between hbetween
  obtain ⟨hl, hr⟩ := Bool.and_eq_true_iff.mp he
  refine ⟨o, _, _, ?_, binaryNode_of_between hbetween hdiv _ _, hlevel, hleft ▸ derives_operand hs hl hop .left,
    hright ▸ derives_operand hs hr hop .right⟩
  rw [expr, binary_of_between hbetween, if_neg hdiv, infixed, Script.Expr.tokens, List.append_assoc]
  rfl

theorem not_derives_bared_left (hs : s.library.wellNamed = true) {op : BinaryOp} {loose : Bool}
    (hbetween : between? loose op = some (parent, o)) {left : Tree.Expr} (hl : left.wellNamed = true)
    (hnan : left.isNaN = false) (hw : wrapsOperand parent .left left = true) (ts : List Token) (u : Node) :
    ¬Derives ((expr s left).tokens ++ .mark o.token :: ts) (.expr 0 (.binary o (node s left) u)) := by
  obtain ⟨hp, hlevel, -, -⟩ := levels_of_between hbetween
  -- a sign stands in parentheses on the left of `**` only
  have hpow (h : parent = .pow) : o = .pow := by
    subst h
    exact Operator.eq_pow_of_level (Nat.le_of_eq hlevel.symm)
  cases left with
  | binary op' l r =>
    have hcases := opLevel_of_wraps parent (mem_all parent) .left (by decide) op' (mem_all op') hp hw
    obtain ⟨o', as, bs, htokens, hnode, hlevel', ha, -⟩ := tokens_binary hs hl (s := s) (by omega)
    rw [htokens, hnode, List.append_assoc, List.cons_append]
    rcases hcases with hlt | ⟨heq, hside⟩
    · exact Script.not_derives_left (by omega) ha
    · have hparent : parent = .pow := by
        by_contra hne
        simp [looseSide, hne] at hside
      obtain rfl := hpow hparent
      obtain rfl : o' = .pow := Operator.eq_pow_of_level (by rw [hlevel', heq, ← hlevel]; decide)
      exact Script.not_derives_pow ha
  | unary sign e =>
    obtain rfl := hpow (by simpa [wrapsOperand] using hw)
    exact Script.not_derives_signed sign
  | literal value =>
    cases value with
    | number x =>
      simp only [wrapsOperand, isNegative, Bool.and_eq_true, decide_eq_true_eq, and_true] at hw
      obtain rfl := hpow hw.1
      have hx : x.isNaN = false := hnan
      simp only [expr, literal, Script.Expr.tokens, Script.numberTokens, hx, hw.2, if_true, Bool.false_eq_true,
        if_false]
      exact Script.not_derives_signed .neg
    | _ => simp [wrapsOperand, isNegative] at hw
  | _ => simp [wrapsOperand, isNegative] at hw

theorem not_derives_bared_right (hs : s.library.wellNamed = true) {op : BinaryOp} {loose : Bool}
    (hbetween : between? loose op = some (parent, o)) {right : Tree.Expr} (hr : right.wellNamed = true)
    (hw : wrapsOperand parent .right right = true) {ts : List Token} {t : Node}
    (ht : Derives ts (.expr o.leftLevel t)) :
    ¬Derives (ts ++ .mark o.token :: (expr s right).tokens) (.expr 0 (.binary o t (node s right))) := by
  obtain ⟨hp, hlevel, -, -⟩ := levels_of_between hbetween
  cases right with
  | binary op' l r =>
    have hcases := opLevel_of_wraps parent (mem_all parent) .right (by decide) op' (mem_all op') hp hw
    obtain ⟨o', as, bs, htokens, hnode, hlevel', ha, hb⟩ := tokens_binary hs hr (s := s) (by omega)
    rw [htokens, hnode]
    refine Script.not_derives_right (by omega) ?_ ht ha hb
    intro hpow
    subst hpow
    have h7 := o.level_le_seven
    have hseven : Operator.pow.level = 7 := rfl
    rcases hcases with hlt | ⟨heq, hside⟩
    · omega
    · obtain rfl : o = .pow := Operator.eq_pow_of_level (by omega)
      have hparent : parent = .pow := by
        revert hlevel
        cases parent <;> decide
      subst hparent
      cases hside
  | unary _ _ => simp [wrapsOperand] at hw
  | literal value => simp [wrapsOperand] at hw
  | _ => simp [wrapsOperand] at hw

/-- An infix text with the operand of one side bare is read as what was meant just when lowering leaves that
operand bare, no template is split and all names are identifiers: the parentheses that lowering writes are all needed. -/
theorem reads_bared_iff (s : Scope) (hs : s.library.wellNamed = true) (op : BinaryOp) (left right : Tree.Expr)
    (hl : left.wellNamed = true) (hr : right.wellNamed = true) (parent : BinaryOp) (o : Operator)
    (hbetween : between? (left.isNil || right.isNil) op = some (parent, o)) (side : Side)
    (hnan : (side.pick left right).isNaN = false) :
    Script.Reads (bared side parent o left right (expr s left) (expr s right)).text
        (.binary o (node s left) (node s right)) ↔
      wrapsOperand parent side (side.pick left right) = false ∧ (left.unsplit = true ∧ right.unsplit = true) ∧
        Script.unstrayed (words s left ++ words s right) = true := by
  obtain ⟨hp, hlevel, hleft, hright⟩ := levels_of_between hbetween
  have hlegible : (bared side parent o left right (expr s left) (expr s right)).legible = true := by
    simp [bared, Script.Expr.legible, wrapped_legible (expr_legible hs left hl),
      wrapped_legible (expr_legible hs right hr)]
  have hunsplit : (bared side parent o left right (expr s left) (expr s right)).unsplit = true ↔
      left.unsplit = true ∧ right.unsplit = true := by
    simp [bared, Script.Expr.unsplit, wrapped_unsplit, expr_unsplit]
  have hproper : Script.proper (bared side parent o left right (expr s left) (expr s right)).tokens =
      Script.unstrayed (words s left ++ words s right) := by
    simp [bared, Script.Expr.tokens, proper_wrapped, proper_expr hs left hl, proper_expr hs right hr]
  have hinfixed : Derives (infixed parent o left right (expr s left) (expr s right)).tokens
      (.expr (opLevel parent) (.binary o (node s left) (node s right))) :=
    derives_infixed ⟨hleft, hright, hlevel⟩ hp (derives hs left hl) (derives hs right hr)
  rw [← hunsplit, ← hproper]
  constructor
  · intro hreads
    obtain ⟨ts, hlex, hderives⟩ := hreads
    have hquasis : Script.quasis ts =
        Script.quasis (bared side parent o left right (expr s left) (expr s right)).tokens := by
      rw [quasis_bared]
      exact hderives.quasis_eq.trans hinfixed.quasis_eq.symm
    have hread := by_contra fun hnot => Script.Expr.quasis_ne_of_misread hlegible hnot hlex hquasis
    rw [Script.Expr.lex_text hlegible hread.1 hread.2] at hlex
    cases hlex
    refine ⟨?_, hread⟩
    by_contra hw
    rw [Bool.not_eq_false] at hw
    cases side with
    | left =>
      simp only [bared, Script.Expr.tokens, List.append_assoc] at hderives
      exact not_derives_bared_left hs hbetween hl hnan hw _ _ hderives
    | right =>
      simp only [bared, Script.Expr.tokens, List.append_assoc] at hderives
      exact not_derives_bared_right hs hbetween hr hw (hleft ▸ derives_operand hs hl hp .left) hderives
  · intro ⟨hw, hu, hi⟩
    refine ⟨_, Script.Expr.lex_text hlegible hu hi, ?_⟩
    rw [bared_of_not_wraps hw]
    exact hinfixed.loosenTo (Nat.zero_le _)

/-- In `a // (b * -c)` the parentheses keep the quotient from being that of `a` and `b`. -/
theorem not_reads_bared_quotient :
    let s : Scope := ⟨.standard, []⟩
    let left : Tree.Expr := .identifier "a"
    let right : Tree.Expr := .binary .mul (.identifier "b") (.unary .neg (.identifier "c"))
    (s.library.wellNamed = true ∧ left.wellNamed = true ∧ right.wellNamed = true ∧
      between? (left.isNil || right.isNil) .intDiv = some (.div, .div) ∧ right.isNaN = false) ∧
      (expr s (.binary .intDiv left right)).text = "Math.floor(a / (b * -c))" ∧
      (bared .right .div .div left right (expr s left) (expr s right)).text = "a / b * -c" ∧
      ¬Script.Reads (bared .right .div .div left right (expr s left) (expr s right)).text
        (.binary .div (node s left) (node s right)) := by
  intro s left right
  have hs : s.library.wellNamed = true := by decide +kernel
  have hl : left.wellNamed = true := by decide +kernel
  have hr : right.wellNamed = true := by decide +kernel
  have hwraps : wrapsOperand .div .right right ≠ false := by decide
  refine ⟨⟨hs, hl, hr, rfl, rfl⟩, by decide +kernel, by decide +kernel, fun hreads => ?_⟩
  exact hwraps ((reads_bared_iff s hs .intDiv left right hl hr .div .div rfl .right rfl).mp hreads).1

end Lowering

end TreeScript
