/-
  TreeScript.Proofs.Unambiguous — every token list is at most one expression.

  The proof goes through a parser by recursive descent that follows every derivation
  (`Derives.parsed`). It is a device and no more: it takes fuel, and takes tokens too that
  are no expression. A production that is recursive on its left is a turn of a loop there.
  So what is shown of a derivation at such a level is that the parser comes to the loop with
  the derived node in hand, whatever operator follows; at the other levels it is done with
  the node, if what follows does not go on with it (`Stops`). All statements are about all
  large enough fuels, so they combine without any count of it.
-/

import Mathlib.Order.Filter.AtTopBot.Basic
import TreeScript.Proofs.Grammar

namespace TreeScript.Script

open Filter

/-! ## What a token can do -/

def Operator.all : List Operator :=
  [.add, .sub, .mul, .div, .mod, .pow, .looseEq, .strictEq, .looseNe, .strictNe, .lt, .gt, .le, .ge, .and, .or]

namespace Token

/-- The operator of a level that a token is. -/
def operator? (l : Nat) : Token → Option Operator
  | .mark m => Operator.all.find? fun op => op.token = m && op.level = l
  | _ => none

def sign? : Token → Option Tree.UnaryOp
  | .mark m => Tree.UnaryOp.all.find? (·.symbol = m)
  | _ => none

/-- The level at which a token goes on with an expression before it. -/
def level? : Token → Option Nat
  | .mark m =>
    if m = "?" then some 0
    else if m ∈ ["(", ".", "["] then some 9
    else (Operator.all.find? (·.token = m)).map Operator.level
  | _ => none

def closing : Token → Bool
  | .mark m => m ∈ [")", "]", "\x7d"]
  | _ => false

theorem operator?_level (op : Operator) : operator? op.level (.mark op.token) = some op := by cases op <;> rfl

theorem level?_operator (op : Operator) : level? (.mark op.token) = some op.level := by cases op <;> rfl

theorem sign?_symbol (op : Tree.UnaryOp) : sign? (.mark op.symbol) = some op := by cases op <;> rfl

theorem level?_of_operator? {l : Nat} {x : Token} {op : Operator} (h : operator? l x = some op) :
    x = .mark op.token ∧ op.level = l := by
  cases x with
  | mark m =>
    have := List.find?_some h
    simp only [Bool.and_eq_true, decide_eq_true_eq] at this
    exact ⟨by rw [this.1], this.2⟩
  | _ => cases h

theorem level?_of_closing {x : Token} (h : x.closing = true) : x.level? = none := by
  cases x with
  | mark m =>
    have hm : ∀ m ∈ [")", "]", "\x7d"], level? (.mark m) = none := by decide
    exact hm m (by simpa [closing] using h)
  | _ => rfl

end Token

/-- What follows does not go on with an expression at a level, or at a tighter one. -/
def Stops (l : Nat) (rest : List Token) : Prop := ∀ x, rest.head? = some x → ∀ k, x.level? = some k → k < l

/-- What follows closes a bracket. -/
def Closed (rest : List Token) : Prop := ∃ x us, rest = x :: us ∧ x.closing = true

theorem Stops.mono {l m : Nat} (h : l ≤ m) {rest : List Token} (hs : Stops l rest) : Stops m rest := by
  intro x hx k hk
  have := hs x hx k hk
  omega

theorem stops_nil (l : Nat) : Stops l [] := by
  intro x hx
  cases hx

theorem stops_cons {l : Nat} {x : Token} {rest : List Token} (h : ∀ k, x.level? = some k → k < l) :
    Stops l (x :: rest) := by
  intro y hy
  cases hy
  exact h

theorem Closed.stops {rest : List Token} (h : Closed rest) (l : Nat) : Stops l rest := by
  obtain ⟨x, us, rfl, hx⟩ := h
  refine stops_cons fun k hk => ?_
  rw [Token.level?_of_closing hx] at hk
  cases hk

/-- Beyond the level of accesses nothing goes on. -/
theorem stops_ten (rest : List Token) : Stops 10 rest := by
  intro x _ k hk
  cases x with
  | mark m =>
    simp only [Token.level?] at hk
    split at hk
    · cases hk; decide
    split at hk
    · cases hk; decide
    · obtain ⟨op, -, rfl⟩ := Option.map_eq_some_iff.mp hk
      cases op <;> decide
  | _ => cases hk

theorem Stops.no_operator {l : Nat} {rest : List Token} (h : Stops l rest) :
    rest.head?.bind (Token.operator? l) = none := by
  cases hr : rest.head?.bind (Token.operator? l) with
  | none => rfl
  | some op =>
    obtain ⟨x, hx, hop⟩ := Option.bind_eq_some_iff.mp hr
    obtain ⟨rfl, rfl⟩ := Token.level?_of_operator? hop
    exact absurd (h _ hx _ (Token.level?_operator op)) (Nat.lt_irrefl _)

/-! ## The parser -/

/-- What follows a mark that must stand here. -/
def expect (m : String) : List Token → Option (List Token)
  | .mark m' :: ts => if m' = m then some ts else none
  | _ => none

@[simp] theorem expect_mark (m : String) (ts : List Token) : expect m (.mark m :: ts) = some ts := by simp [expect]

mutual

/-- An expression of a level at the start of tokens, and what follows it. -/
def parse : Nat → Nat → List Token → Option (Node × List Token)
  | 0, _, _ => none
  | n + 1, l, ts =>
    if l = 0 then (parse n 1 ts).bind fun (t, ts) => parseAlternatives n t ts
    else if l ≤ 6 then (parse n (l + 1) ts).bind fun (t, ts) => parseInfixes n l t ts
    else if l = 7 then
      if (ts.head?.bind Token.sign?).isSome then parse n 8 ts
      else (parse n 9 ts).bind fun (t, ts) => parsePower n t ts
    else if l = 8 then
      match ts.head?.bind Token.sign? with
      | some op => (parse n 8 ts.tail).map fun (t, ts) => (.unary op t, ts)
      | none => parse n 9 ts
    else if l = 9 then (parsePrimary n ts).bind fun (t, ts) => parseAccesses n t ts
    else parsePrimary n ts

def parseAlternatives : Nat → Node → List Token → Option (Node × List Token)
  | 0, _, _ => none
  | n + 1, t, ts =>
    match expect "?" ts with
    | none => some (t, ts)
    | some ts => (parse n 0 ts).bind fun (u, ts) => (expect ":" ts).bind fun ts =>
        (parse n 0 ts).map fun (v, ts) => (.conditional t u v, ts)

def parseInfixes : Nat → Nat → Node → List Token → Option (Node × List Token)
  | 0, _, _, _ => none
  | n + 1, l, t, ts =>
    match ts.head?.bind (Token.operator? l) with
    | none => some (t, ts)
    | some op => (parse n (l + 1) ts.tail).bind fun (u, ts) => parseInfixes n l (.binary op t u) ts

def parsePower : Nat → Node → List Token → Option (Node × List Token)
  | 0, _, _ => none
  | n + 1, t, ts =>
    match expect "**" ts with
    | none => some (t, ts)
    | some ts => (parse n 7 ts).map fun (u, ts) => (.binary .pow t u, ts)

def parseAccesses : Nat → Node → List Token → Option (Node × List Token)
  | 0, _, _ => none
  | n + 1, t, .mark "(" :: ts =>
    (parseItems n ts).bind fun (us, ts) => (expect ")" ts).bind fun ts => parseAccesses n (.call t us) ts
  | n + 1, t, .mark "[" :: ts =>
    (parse n 0 ts).bind fun (u, ts) => (expect "]" ts).bind fun ts => parseAccesses n (.index t u) ts
  | n + 1, t, .mark "." :: .name property :: ts => parseAccesses n (.member t property) ts
  | _ + 1, t, ts => some (t, ts)

def parsePrimary : Nat → List Token → Option (Node × List Token)
  | 0, _ => none
  | n + 1, .name "new" :: .name className :: .mark "(" :: ts =>
    (parseItems n ts).bind fun (us, ts) => (expect ")" ts).map fun ts => (.construct className us, ts)
  | _ + 1, .name "true" :: ts => some (.boolean true, ts)
  | _ + 1, .name "false" :: ts => some (.boolean false, ts)
  | _ + 1, .name "null" :: ts => some (.null, ts)
  | _ + 1, .name text :: ts => some (.name text, ts)
  | _ + 1, .number value :: ts => some (.number value, ts)
  | _ + 1, .string text :: ts => some (.string text, ts)
  | n + 1, .mark "(" :: ts => (parse n 0 ts).bind fun (t, ts) => (expect ")" ts).map fun ts => (t, ts)
  | n + 1, .mark "[" :: ts => (parseItems n ts).bind fun (us, ts) => (expect "]" ts).map fun ts => (.array us, ts)
  | n + 1, .mark "\x7b" :: ts =>
    (parseFields n ts).bind fun (fs, ts) => (expect "\x7d" ts).map fun ts => (.object fs, ts)
  | n + 1, ts => (parseStretch n ts).map fun ((head, holes), ts) => (.template head holes, ts)

def parseItems : Nat → List Token → Option (List Node × List Token)
  | 0, _ => none
  | n + 1, ts =>
    if ts.head?.any Token.closing then some ([], ts)
    else (parse n 0 ts).bind fun (t, ts) =>
      match expect "," ts with
      | none => some ([t], ts)
      | some ts => (parseItems n ts).map fun (us, ts) => (t :: us, ts)

def parseField : Nat → List Token → Option (Field × List Token)
  | 0, _ => none
  | n + 1, .name key :: .mark ":" :: ts => (parse n 0 ts).map fun (t, ts) => (⟨key, t⟩, ts)
  | n + 1, .string key :: .mark ":" :: ts => (parse n 0 ts).map fun (t, ts) => (⟨key, t⟩, ts)
  | _ + 1, .name key :: ts => some (⟨key, .name key⟩, ts)
  | _ + 1, _ => none

def parseFields : Nat → List Token → Option (List Field × List Token)
  | 0, _ => none
  | n + 1, ts =>
    if ts.head?.any Token.closing then some ([], ts)
    else (parseField n ts).bind fun (f, ts) =>
      match expect "," ts with
      | none => some ([f], ts)
      | some ts => (parseFields n ts).map fun (fs, ts) => (f :: fs, ts)

def parseStretch : Nat → List Token → Option ((String × List Hole) × List Token)
  | 0, _ => none
  | n + 1, .quasi _ text last :: ts =>
    if last then some ((text, []), ts)
    else (parse n 0 ts).bind fun (t, ts) =>
      (parseStretch n ts).map fun ((after, hs), ts) => ((text, ⟨t, after⟩ :: hs), ts)
  | _ + 1, _ => none

end

/-! ## The first token -/

/-- What the first token of a phrase tells: it closes nothing, and before an access it is no sign. -/
def Headed (ts : List Token) : Phrase → Prop
  | .expr l _ => ∃ x us, ts = x :: us ∧ x.closing = false ∧ (9 ≤ l → x.sign? = none)
  | .items us => us ≠ [] → ∃ x vs, ts = x :: vs ∧ x.closing = false
  | .field _ => ∃ x us, ts = x :: us ∧ x.closing = false
  | .fields fs => fs ≠ [] → ∃ x us, ts = x :: us ∧ x.closing = false
  | .stretch _ _ _ => ∃ first text last us, ts = .quasi first text last :: us

theorem Derives.headed {ts : List Token} {p : Phrase} (h : Derives ts p) : Headed ts p := by
  induction h with
  | loosen _ ih =>
    obtain ⟨x, us, h, hc, hs⟩ := ih
    exact ⟨x, us, h, hc, fun hl => hs (by omega)⟩
  | conditional _ _ _ ih _ _ =>
    obtain ⟨x, us, rfl, hc, -⟩ := ih
    exact ⟨x, _, rfl, hc, fun hl => absurd hl (by decide)⟩
  | binary op _ _ ih _ =>
    obtain ⟨x, us, rfl, hc, -⟩ := ih
    exact ⟨x, _, rfl, hc, fun hl => absurd hl (by cases op <;> decide)⟩
  | unary op _ _ => exact ⟨_, _, rfl, by cases op <;> decide, fun hl => absurd hl (by decide)⟩
  | call _ _ ih _ =>
    obtain ⟨x, us, rfl, hc, hs⟩ := ih
    exact ⟨x, _, rfl, hc, hs⟩
  | member _ _ ih =>
    obtain ⟨x, us, rfl, hc, hs⟩ := ih
    exact ⟨x, _, rfl, hc, hs⟩
  | index _ _ ih _ =>
    obtain ⟨x, us, rfl, hc, hs⟩ := ih
    exact ⟨x, _, rfl, hc, hs⟩
  | template _ ih =>
    obtain ⟨first, text, last, us, rfl⟩ := ih
    exact ⟨_, _, rfl, rfl, fun _ => rfl⟩
  | name _ | number _ | boolean _ | null | string _ | construct _ _ _ => exact ⟨_, _, rfl, rfl, fun _ => rfl⟩
  | array _ _ | object _ _ | paren _ _ => exact ⟨_, _, rfl, by decide, fun _ => by decide⟩
  | noItems | noFields => exact fun h => absurd rfl h
  | lastItem _ ih =>
    obtain ⟨x, us, h, hc, -⟩ := ih
    exact fun _ => ⟨x, us, h, hc⟩
  | moreItems _ _ ih _ =>
    obtain ⟨x, us, rfl, hc, -⟩ := ih
    exact fun _ => ⟨x, _, rfl, hc⟩
  | shorthand _ | namedField _ _ _ | quotedField _ _ _ => exact ⟨_, _, rfl, rfl⟩
  | lastField _ ih => exact fun _ => ih
  | moreFields _ _ ih _ =>
    obtain ⟨x, us, rfl, hc⟩ := ih
    exact fun _ => ⟨x, _, rfl, hc⟩
  | lastStretch _ _ | moreStretches _ _ _ _ _ _ => exact ⟨_, _, _, _, rfl⟩

/-! ## Enough fuel -/

theorem eventually_add {p : Nat → Prop} (j : Nat) (h : ∀ᶠ n in atTop, p (n + j)) : ∀ᶠ n in atTop, p n := by
  rw [← map_add_atTop_eq_nat j, eventually_map]
  exact h

theorem eventually_succ {p : Nat → Prop} (h : ∀ᶠ n in atTop, p n) : ∀ᶠ n in atTop, p (n + 1) := by
  rw [← map_add_atTop_eq_nat 1, eventually_map] at h
  exact h

theorem parseInfixes_stops {l : Nat} {rest : List Token} (h : Stops l rest) (n : Nat) (t : Node) :
    parseInfixes (n + 1) l t rest = some (t, rest) := by
  rw [parseInfixes, h.no_operator]

theorem parseAccesses_stops {rest : List Token} (h : Stops 9 rest) (n : Nat) (t : Node) :
    parseAccesses (n + 1) t rest = some (t, rest) := by
  have hno : ∀ m us, rest = .mark m :: us → m ∉ ["(", ".", "["] := by
    intro m us heq hm
    subst heq
    have hlevel : ∀ m ∈ ["(", ".", "["], Token.level? (.mark m) = some 9 := by decide
    exact absurd (h _ rfl 9 (hlevel m hm)) (by decide)
  unfold parseAccesses
  split
  · rename_i e; cases e
  · exact absurd (List.mem_cons_self) (hno _ _ rfl)
  · exact absurd (by decide) (hno _ _ rfl)
  · exact absurd (by decide) (hno _ _ rfl)
  · rfl

theorem expect_stops {m : String} {l k : Nat} (hm : Token.level? (.mark m) = some k) (hk : l ≤ k) {rest : List Token}
    (h : Stops l rest) : expect m rest = none := by
  unfold expect
  split
  · rename_i m' us
    refine if_neg ?_
    intro heq
    subst heq
    exact absurd (h _ rfl k hm) (by omega)
  · rfl

/-! ## The parser follows derivations -/

/-- The parser finds an expression at the start of tokens: it is done with it if nothing goes on, and at a
level of left-recursive productions it comes to their loop with it. -/
structure ParsedExpr (ts : List Token) (l : Nat) (t : Node) : Prop where
  done : ∀ rest, Stops l rest → ∀ᶠ n in atTop, parse n l (ts ++ rest) = some (t, rest)
  infixes : 1 ≤ l → l ≤ 6 → ∀ rest, Stops (l + 1) rest →
    ∃ j, ∀ᶠ n in atTop, parse (n + j) l (ts ++ rest) = parseInfixes n l t rest
  accesses : l = 9 → ∀ rest, ∃ j, ∀ᶠ n in atTop, parse (n + j) 9 (ts ++ rest) = parseAccesses n t rest

def Parsed (ts : List Token) : Phrase → Prop
  | .expr l t => ParsedExpr ts l t
  | .items us => ∀ rest, Closed rest → ∀ᶠ n in atTop, parseItems n (ts ++ rest) = some (us, rest)
  | .field f => ∀ rest, Stops 0 rest → rest.head? ≠ some (.mark ":") →
      ∀ᶠ n in atTop, parseField n (ts ++ rest) = some (f, rest)
  | .fields fs => ∀ rest, Closed rest → ∀ᶠ n in atTop, parseFields n (ts ++ rest) = some (fs, rest)
  | .stretch _ text hs => ∀ rest, ∀ᶠ n in atTop, parseStretch n (ts ++ rest) = some ((text, hs), rest)

namespace ParsedExpr

variable {ts : List Token} {l : Nat} {t : Node}

theorem of_done (hl : l = 0 ∨ l = 7 ∨ l = 8 ∨ 10 ≤ l) (j : Nat)
    (h : ∀ rest, Stops l rest → ∀ᶠ n in atTop, parse (n + j) l (ts ++ rest) = some (t, rest)) : ParsedExpr ts l t :=
  ⟨fun rest hr => eventually_add j (h rest hr), fun h1 h6 => by omega, fun h9 => by omega⟩

theorem of_infixes (h1 : 1 ≤ l) (h6 : l ≤ 6) (h : ∀ rest, Stops (l + 1) rest →
    ∃ j, ∀ᶠ n in atTop, parse (n + j) l (ts ++ rest) = parseInfixes n l t rest) : ParsedExpr ts l t := by
  refine ⟨fun rest hr => ?_, fun _ _ => h, fun h9 => by omega⟩
  obtain ⟨j, hj⟩ := h rest (hr.mono (Nat.le_succ l))
  refine eventually_add (j + 1) ?_
  filter_upwards [eventually_succ hj] with n hn
  rw [show n + (j + 1) = n + 1 + j by omega, hn, parseInfixes_stops hr]

theorem of_accesses (h : ∀ rest, ∃ j, ∀ᶠ n in atTop, parse (n + j) 9 (ts ++ rest) = parseAccesses n t rest) :
    ParsedExpr ts 9 t := by
  refine ⟨fun rest hr => ?_, fun _ h6 => by omega, fun _ => h⟩
  obtain ⟨j, hj⟩ := h rest
  refine eventually_add (j + 1) ?_
  filter_upwards [eventually_succ hj] with n hn
  rw [show n + (j + 1) = n + 1 + j by omega, hn, parseAccesses_stops hr]

/-- What stands by itself. -/
theorem of_primary (h : ∀ rest, ∀ᶠ n in atTop, parsePrimary n (ts ++ rest) = some (t, rest)) : ParsedExpr ts 10 t :=
  of_done (by omega) 1 fun rest _ => h rest

theorem parse_unsigned {ts : List Token} (h : ts.head?.bind Token.sign? = none) (n : Nat) :
    parse (n + 1) 8 ts = parse n 9 ts := by
  rw [parse, h]
  rfl

theorem loosen (hd : Derives ts (.expr (l + 1) t)) (h : ParsedExpr ts (l + 1) t) : ParsedExpr ts l t := by
  have hcases : l = 0 ∨ (1 ≤ l ∧ l ≤ 6) ∨ l = 7 ∨ l = 8 ∨ l = 9 ∨ 10 ≤ l := by omega
  rcases hcases with rfl | ⟨h1, h6⟩ | rfl | rfl | rfl | h10
  · refine of_done (by decide) 2 fun rest hr => ?_
    filter_upwards [eventually_succ (h.done rest (hr.mono (Nat.zero_le 1)))] with n hn
    show (parse (n + 1) 1 (ts ++ rest)).bind _ = _
    rw [hn]
    show parseAlternatives (n + 1) t rest = _
    rw [parseAlternatives, expect_stops rfl (Nat.le_refl 0) hr]
  · refine of_infixes h1 h6 fun rest hr => ⟨1, ?_⟩
    filter_upwards [h.done rest hr] with n hn
    rw [parse, if_neg (by omega), if_pos h6, hn]
    rfl
  · refine of_done (by decide) 2 fun rest hr => ?_
    have hdone := eventually_succ (h.done rest (hr.mono (by decide)))
    filter_upwards [hdone, eventually_succ hdone] with n hn hn'
    show (if _ then parse (n + 1) 8 (ts ++ rest) else (parse (n + 1) 9 (ts ++ rest)).bind _) = _
    split
    · exact hn
    · -- without a sign, the level of signs is the one of accesses
      rename_i hs
      rw [← parse_unsigned (Option.not_isSome_iff_eq_none.mp hs), hn']
      show parsePower (n + 1) t rest = _
      rw [parsePower, expect_stops rfl (Nat.le_refl 7) hr]
  · refine of_done (by decide) 1 fun rest hr => ?_
    obtain ⟨x, us, rfl, -, hs⟩ := hd.headed
    filter_upwards [h.done rest (hr.mono (by decide))] with n hn
    have hsign : (x :: us ++ rest).head?.bind Token.sign? = none := hs (by decide)
    rw [parse_unsigned hsign, hn]
  · refine of_accesses fun rest => ⟨1, ?_⟩
    filter_upwards [eventually_succ (h.done rest (stops_ten rest))] with n hn
    have hprimary : parsePrimary n (ts ++ rest) = some (t, rest) := hn
    show (parsePrimary n (ts ++ rest)).bind _ = _
    rw [hprimary]
    rfl
  · refine of_done (by omega) 1 fun rest hr => ?_
    have hlevel : ∀ m, 10 ≤ m → ∀ n, parse (n + 1) m (ts ++ rest) = parsePrimary n (ts ++ rest) := by
      intro m hm n
      rw [parse, if_neg (by omega), if_neg (by omega), if_neg (by omega), if_neg (by omega), if_neg (by omega)]
    filter_upwards [eventually_succ (h.done rest (hr.mono (by omega)))] with n hn
    rw [hlevel l h10, ← hlevel (l + 1) (by omega), hn]

theorem conditional {as bs cs : List Token} {t u v : Node} (ha : ParsedExpr as 1 t) (hb : ParsedExpr bs 0 u)
    (hc : ParsedExpr cs 0 v) : ParsedExpr (as ++ .mark "?" :: (bs ++ .mark ":" :: cs)) 0 (.conditional t u v) := by
  refine of_done (by decide) 2 fun rest hr => ?_
  simp only [List.append_assoc, List.cons_append]
  have hquestion : Stops 1 (.mark "?" :: (bs ++ .mark ":" :: (cs ++ rest))) :=
    stops_cons fun k hk => by cases hk; decide
  have hcolon : Stops 0 (.mark ":" :: (cs ++ rest)) := stops_cons fun k hk => by cases hk
  filter_upwards [eventually_succ (ha.done _ hquestion), hb.done _ hcolon, hc.done rest hr] with n hna hnb hnc
  show (parse (n + 1) 1 _).bind _ = _
  rw [hna]
  show parseAlternatives (n + 1) t (.mark "?" :: _) = _
  rw [parseAlternatives, expect_mark]
  simp only [hnb, Option.bind_some, expect_mark, hnc, Option.map_some]

theorem binary (op : Operator) {as bs : List Token} {t u : Node} (hda : Derives as (.expr op.leftLevel t))
    (ha : ParsedExpr as op.leftLevel t) (hb : ParsedExpr bs op.rightLevel u) :
    ParsedExpr (as ++ .mark op.token :: bs) op.level (.binary op t u) := by
  by_cases hp : op = .pow
  · subst hp
    have ha : ParsedExpr as 9 t := ha
    have hb : ParsedExpr bs 7 u := hb
    refine of_done (by decide) 2 fun rest hr => ?_
    simp only [List.append_assoc, List.cons_append]
    have hstops : Stops 9 (.mark Operator.pow.token :: (bs ++ rest)) := stops_cons fun k hk => by
      rw [Token.level?_operator] at hk
      cases hk
      decide
    obtain ⟨x, us, rfl, -, hs⟩ := hda.headed
    filter_upwards [eventually_succ (ha.done _ hstops), hb.done rest hr] with n hna hnb
    show (if ((x.sign?).isSome) then _ else (parse (n + 1) 9 _).bind _) = _
    rw [hs (by decide), hna, Option.isSome_none, if_neg Bool.false_ne_true]
    show parsePower (n + 1) t (.mark "**" :: (bs ++ rest)) = _
    rw [parsePower, expect_mark]
    show Option.map _ (parse n 7 (bs ++ rest)) = _
    rw [hnb]
    rfl
  · have hlevels : 1 ≤ op.level ∧ op.level ≤ 6 := by cases op <;> first | decide | exact absurd rfl hp
    rw [Operator.leftLevel, if_neg hp] at ha
    rw [Operator.rightLevel, if_neg hp] at hb
    refine of_infixes hlevels.1 hlevels.2 fun rest hr => ?_
    simp only [List.append_assoc, List.cons_append]
    have hstops : Stops (op.level + 1) (.mark op.token :: (bs ++ rest)) := stops_cons fun k hk => by
      rw [Token.level?_operator] at hk
      cases hk
      exact Nat.lt_succ_self _
    obtain ⟨j, hj⟩ := ha.infixes hlevels.1 hlevels.2 _ hstops
    refine ⟨j + 1, ?_⟩
    filter_upwards [eventually_succ hj, hb.done rest hr] with n hna hnb
    rw [show n + (j + 1) = n + 1 + j by omega, hna, parseInfixes, List.head?_cons, Option.bind_some,
      Token.operator?_level]
    show (parse n (op.level + 1) (bs ++ rest)).bind _ = _
    rw [hnb]
    rfl

theorem unary (op : Tree.UnaryOp) {as : List Token} {t : Node} (ha : ParsedExpr as 8 t) :
    ParsedExpr (.mark op.symbol :: as) 8 (.unary op t) := by
  refine of_done (by decide) 1 fun rest hr => ?_
  filter_upwards [ha.done rest hr] with n hn
  rw [parse, List.cons_append, List.head?_cons, Option.bind_some, Token.sign?_symbol]
  show Option.map _ (parse n 8 (as ++ rest)) = _
  rw [hn]
  rfl

/-- An access: whatever comes after it is met with the access in hand. -/
theorem access {as bs : List Token} {t u : Node} (ha : ParsedExpr as 9 t)
    (h : ∀ rest, ∀ᶠ n in atTop, parseAccesses (n + 1) t (bs ++ rest) = parseAccesses n u rest) :
    ParsedExpr (as ++ bs) 9 u := by
  refine of_accesses fun rest => ?_
  rw [List.append_assoc]
  obtain ⟨j, hj⟩ := ha.accesses rfl (bs ++ rest)
  refine ⟨j + 1, ?_⟩
  filter_upwards [eventually_succ hj, h rest] with n hna hn
  rw [show n + (j + 1) = n + 1 + j by omega, hna, hn]

end ParsedExpr

theorem closed_mark {m : String} (h : m ∈ [")", "]", "\x7d"]) (rest : List Token) : Closed (.mark m :: rest) :=
  ⟨_, rest, rfl, by simpa [Token.closing] using h⟩

theorem head_closing_append {x : Token} (h : x.closing = false) (us rest : List Token) :
    ¬(x :: us ++ rest).head?.any Token.closing = true := by
  rw [List.cons_append, List.head?_cons, Option.any_some, h]
  exact Bool.false_ne_true

theorem Closed.no_comma {rest : List Token} (h : Closed rest) : expect "," rest = none := by
  obtain ⟨x, us, rfl, hx⟩ := h
  cases x with
  | mark m =>
    refine if_neg ?_
    intro heq
    subst heq
    exact absurd hx (by decide)
  | _ => rfl

theorem Closed.no_colon {rest : List Token} (h : Closed rest) : rest.head? ≠ some (.mark ":") := by
  obtain ⟨x, us, rfl, hx⟩ := h
  intro hc
  cases hc
  exact absurd hx (by decide)

/-- A token that goes on with no expression. -/
theorem stops_mark {x : Token} (h : x.level? = none) {l : Nat} {rest : List Token} : Stops l (x :: rest) :=
  stops_cons fun k hk => by
    rw [h] at hk
    cases hk

theorem parsePrimary_name {text : String} (h : text ∉ reserved) (n : Nat) (rest : List Token) :
    parsePrimary (n + 1) (.name text :: rest) = some (.name text, rest) := by
  have hne : ∀ word ∈ ["new", "true", "false", "null"], text ≠ word := by
    intro word hw heq
    subst heq
    exact h ((show ∀ w ∈ ["new", "true", "false", "null"], w ∈ reserved by decide) text hw)
  rw [parsePrimary]
  · exact fun _ _ _ e => hne "new" (by decide) e
  · exact hne _ (by decide)
  · exact hne _ (by decide)
  · exact hne _ (by decide)

theorem parseField_shorthand {rest : List Token} (h : rest.head? ≠ some (.mark ":")) (n : Nat) (text : String) :
    parseField (n + 1) (.name text :: rest) = some (⟨text, .name text⟩, rest) := by
  rw [parseField]
  intro us heq
  subst heq
  exact h rfl

/-- The parser follows every derivation. -/
theorem Derives.parsed {ts : List Token} {p : Phrase} (h : Derives ts p) : Parsed ts p := by
  induction h with
  | loosen hd ih => exact ih.loosen hd
  | conditional _ _ _ iha ihb ihc => exact .conditional iha ihb ihc
  | binary op hda _ iha ihb => exact .binary op hda iha ihb
  | unary op _ ih => exact .unary op ih
  | call _ _ iha ihb =>
    refine iha.access fun rest => ?_
    filter_upwards [ihb (.mark ")" :: rest) (closed_mark (by decide) rest)] with n hn
    simp only [List.cons_append, List.append_assoc, List.nil_append, parseAccesses, hn, Option.bind_some, expect_mark]
  | member property _ ih => exact ih.access fun rest => Eventually.of_forall fun n => rfl
  | index _ _ iha ihb =>
    refine iha.access fun rest => ?_
    filter_upwards [ihb.done (.mark "]" :: rest) ((closed_mark (by decide) rest).stops 0)] with n hn
    simp only [List.cons_append, List.append_assoc, List.nil_append, parseAccesses, hn, Option.bind_some, expect_mark]
  | name hr =>
    exact .of_primary fun rest => eventually_add 1 (Eventually.of_forall fun n => parsePrimary_name hr n rest)
  | number _ | null | string _ =>
    exact .of_primary fun rest => eventually_add 1 (Eventually.of_forall fun n => rfl)
  | boolean value =>
    refine .of_primary fun rest => eventually_add 1 (Eventually.of_forall fun n => ?_)
    cases value <;> rfl
  | template hd ih =>
    obtain ⟨first, text, last, us, rfl⟩ := hd.headed
    refine .of_primary fun rest => eventually_add 1 ?_
    filter_upwards [ih rest] with n hn
    show Option.map _ (parseStretch n (.quasi first text last :: us ++ rest)) = _
    rw [hn]
    rfl
  | array _ ih =>
    refine .of_primary fun rest => eventually_add 1 ?_
    filter_upwards [ih (.mark "]" :: rest) (closed_mark (by decide) rest)] with n hn
    simp only [List.cons_append, List.append_assoc, List.nil_append, parsePrimary, hn, Option.bind_some, expect_mark,
      Option.map_some]
  | object _ ih =>
    refine .of_primary fun rest => eventually_add 1 ?_
    filter_upwards [ih (.mark "\x7d" :: rest) (closed_mark (by decide) rest)] with n hn
    simp only [List.cons_append, List.append_assoc, List.nil_append, parsePrimary, hn, Option.bind_some, expect_mark,
      Option.map_some]
  | paren _ ih =>
    refine .of_primary fun rest => eventually_add 1 ?_
    filter_upwards [ih.done (.mark ")" :: rest) ((closed_mark (by decide) rest).stops 0)] with n hn
    simp only [List.cons_append, List.append_assoc, List.nil_append, parsePrimary, hn, Option.bind_some, expect_mark,
      Option.map_some]
  | construct _ _ ih =>
    refine .of_primary fun rest => eventually_add 1 ?_
    filter_upwards [ih (.mark ")" :: rest) (closed_mark (by decide) rest)] with n hn
    simp only [List.cons_append, List.append_assoc, List.nil_append, parsePrimary, hn, Option.bind_some, expect_mark,
      Option.map_some]
  | noItems =>
    intro rest hclosed
    obtain ⟨x, us, rfl, hx⟩ := hclosed
    refine eventually_add 1 (Eventually.of_forall fun n => ?_)
    rw [parseItems, if_pos (by simpa using hx)]
    rfl
  | lastItem hd ih =>
    intro rest hr
    obtain ⟨x, us, rfl, hx, -⟩ := hd.headed
    refine eventually_add 1 ?_
    filter_upwards [ih.done rest (hr.stops 0)] with n hn
    rw [parseItems, if_neg (head_closing_append hx us rest), hn]
    simp only [Option.bind_some, hr.no_comma]
  | @moreItems _ bs _ _ _ hd _ ih ihs =>
    intro rest hr
    obtain ⟨x, us, rfl, hx, -⟩ := hd.headed
    refine eventually_add 1 ?_
    filter_upwards [ih.done (.mark "," :: (bs ++ rest)) (stops_mark rfl), ihs rest hr] with n hn hns
    rw [List.append_assoc, parseItems, if_neg (head_closing_append hx us _), @List.cons_append _ (.mark ",") bs rest, hn]
    simp only [Option.bind_some, expect_mark, hns, Option.map_some]
  | shorthand _ =>
    intro rest _ hcolon
    exact eventually_add 1 (Eventually.of_forall fun n => parseField_shorthand hcolon n _)
  | namedField _ _ ih =>
    intro rest hr _
    refine eventually_add 1 ?_
    filter_upwards [ih.done rest hr] with n hn
    simp only [List.cons_append, parseField, hn, Option.map_some]
  | quotedField _ _ ih =>
    intro rest hr _
    refine eventually_add 1 ?_
    filter_upwards [ih.done rest hr] with n hn
    simp only [List.cons_append, parseField, hn, Option.map_some]
  | noFields =>
    intro rest hclosed
    obtain ⟨x, us, rfl, hx⟩ := hclosed
    refine eventually_add 1 (Eventually.of_forall fun n => ?_)
    rw [parseFields, if_pos (by simpa using hx)]
    rfl
  | lastField hd ih =>
    intro rest hr
    obtain ⟨x, us, rfl, hx⟩ := hd.headed
    refine eventually_add 1 ?_
    filter_upwards [ih rest (hr.stops 0) hr.no_colon] with n hn
    rw [parseFields, if_neg (head_closing_append hx us rest), hn]
    simp only [Option.bind_some, hr.no_comma]
  | @moreFields _ bs _ _ _ hd _ ih ihs =>
    intro rest hr
    obtain ⟨x, us, rfl, hx⟩ := hd.headed
    refine eventually_add 1 ?_
    filter_upwards [ih (.mark "," :: (bs ++ rest)) (stops_mark rfl) (by simp), ihs rest hr] with n hn hns
    rw [List.append_assoc, parseFields, if_neg (head_closing_append hx us _), @List.cons_append _ (.mark ",") bs rest, hn]
    simp only [Option.bind_some, expect_mark, hns, Option.map_some]
  | lastStretch _ _ =>
    intro rest
    exact eventually_add 1 (Eventually.of_forall fun n => rfl)
  | moreStretches _ _ _ hds ih ihs =>
    intro rest
    obtain ⟨first, text, last, us, rfl⟩ := hds.headed
    refine eventually_add 1 ?_
    filter_upwards [ih.done (.quasi first text last :: us ++ rest) (stops_mark rfl), ihs rest] with n hn hns
    simp only [List.cons_append, List.append_assoc] at hn hns ⊢
    simp only [parseStretch, Bool.false_eq_true, if_false, hn, Option.bind_some, hns, Option.map_some]

theorem Derives.unique {ts : List Token} {t u : Node} (ht : Derives ts (.expr 0 t)) (hu : Derives ts (.expr 0 u)) :
    t = u := by
  have hboth := (ParsedExpr.done ht.parsed [] (stops_nil 0)).and (ParsedExpr.done hu.parsed [] (stops_nil 0))
  obtain ⟨n, hnt, hnu⟩ := hboth.exists
  rw [hnt] at hnu
  cases hnu
  rfl

end TreeScript.Script
