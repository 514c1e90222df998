/-
  TreeScript.Proofs.Leading — no expression statement is taken for a block.

  A brace at the start of a statement opens a block, so an expression whose text begins with
  one stands in parentheses there. What a text begins with is decided by the lowering, far
  down at the left end of an expression; `startsWithObject` foretells it from the tree.
  `Leads` relates the two: they go along the same left end, from an operator to its left
  operand and from an access or a call to its object, and wherever the lowering puts
  parentheses on the way the brace is not first any more.
-/

import TreeScript.Proofs.Balance

namespace TreeScript.Lowering

open TreeScript.Script (isName startsName startsName_of_lt startsName_plain)

/-- What a text begins with: no blank, a brace only where an object is foretold, and where one is foretold a
brace or a parenthesis. -/
def Leads (object : Bool) (cs : List Char) : Prop :=
  ∃ c rest, cs = c :: rest ∧ c ≠ ' ' ∧ (c = '\x7b' → object = true) ∧ (object = true → c = '\x7b' ∨ c = '(')

namespace Leads

variable {object : Bool} {cs : List Char}

theorem append (h : Leads object cs) (ds : List Char) : Leads object (cs ++ ds) := by
  obtain ⟨c, rest, rfl, hc⟩ := h
  exact ⟨c, rest ++ ds, rfl, hc⟩

/-- Behind a parenthesis anything may follow. -/
theorem paren (object : Bool) (cs : List Char) : Leads object ('(' :: cs) :=
  ⟨'(', cs, rfl, by decide, fun hc => absurd hc (by decide), fun _ => .inr rfl⟩

theorem brace (cs : List Char) : Leads true ('\x7b' :: cs) :=
  ⟨'\x7b', cs, rfl, by decide, fun _ => rfl, fun _ => .inl rfl⟩

theorem plain {c : Char} (h : c ∉ [' ', '\x7b']) (cs : List Char) : Leads false (c :: cs) := by
  simp only [List.mem_cons, List.not_mem_nil, or_false, not_or] at h
  exact ⟨c, cs, rfl, h.1, fun hc => absurd hc h.2, fun hobject => absurd hobject (by decide)⟩

theorem wrapped {e : Script.Expr} (h : Leads object e.chars) (wrap : Bool) : Leads object (wrapped wrap e).chars := by
  cases wrap with
  | false => exact h
  | true => exact paren object _

/-- In parentheses if an object is foretold, a text begins neither with a blank nor with a brace. -/
theorem guarded {e : Script.Expr} (h : Leads object e.chars) :
    ∃ c rest, (Lowering.wrapped object e).chars = c :: rest ∧ c ∉ [' ', '\x7b'] := by
  cases object with
  | true => exact ⟨'(', _, rfl, by decide⟩
  | false =>
    obtain ⟨c, rest, hcs, hblank, hbrace, -⟩ := h
    refine ⟨c, rest, hcs, ?_⟩
    simp only [List.mem_cons, List.not_mem_nil, or_false, not_or]
    exact ⟨hblank, fun hc => by cases hbrace hc⟩

end Leads

/-! ## Leaves -/

theorem leads_name {x : String} (h : isName x = true) : Leads false x.toList := by
  obtain ⟨c, cs, hx, hc⟩ := Script.isName_head h
  have hblank : startsName ' ' = false := startsName_of_lt (by decide)
  rw [hx]
  refine Leads.plain ?_ cs
  simp only [List.mem_cons, List.not_mem_nil, or_false, not_or]
  constructor
  · rintro rfl
    rw [hblank] at hc
    cases hc
  · rintro rfl
    exact startsName_plain hc (by decide)

theorem leads_number (x : Binary64) : Leads false (Script.numberChars x) := by
  have hdecimal : Leads false x.shortest.positional := by
    obtain ⟨c, cs, hcs, hdigit⟩ := Script.positional_head x.shortest
    have hmarks : ∀ c ∈ [' ', '\x7b'], c.isDigit = false := Script.forall_mem_eq_false (by decide)
    rw [hcs]
    refine Leads.plain (fun hc => ?_) cs
    rw [hmarks c hc] at hdigit
    cases hdigit
  unfold Script.numberChars
  split
  · exact .plain (by decide) _
  · split
    · exact .plain (by decide) _
    · split
      · exact .plain (by decide) _
      · exact hdecimal

theorem leads_literal (value : Tree.Literal) : Leads false (literal value).chars := by
  cases value with
  | number value => exact leads_number value
  | boolean value => cases value <;> exact .plain (by decide) _
  | nil => exact .plain (by decide) _
  | string value => exact .plain (by decide) _
  | symbol name => exact .plain (by decide) _

/-! ## The left end -/

theorem leads_binary (op : Tree.BinaryOp) {left : Tree.Expr} (right : Tree.Expr) {l : Script.Expr} (r : Script.Expr)
    (h : Leads (startsWithObject left) l.chars) :
    Leads (startsWithObject (.binary op left right)) (binary op left right l r).chars := by
  have hinfixed (parent : Tree.BinaryOp) (op : Script.Operator) :
      Leads (startsWithObject left) (infixed parent op left right l r).chars := (h.wrapped _).append _
  cases op with
  | intDiv => exact .plain (by decide) _
  | concat => exact .plain (by decide) _
  | append => exact .plain (by decide) _
  | _ => exact hinfixed _ _

/-- A call begins with its callee, or with the module that owns the built-in. -/
theorem leads_callee {s : Scope} (hlib : s.library.Named) {f : Tree.Expr} {e : Script.Expr}
    (h : Leads (startsWithObject f) e.chars) : Leads (startsWithObject f) (callee s f e).chars := by
  unfold callee
  cases hb : builtin? s f with
  | none => exact h.wrapped _
  | some e' =>
    cases f with
    | identifier name =>
      obtain ⟨owner, howner, rfl⟩ := Option.map_eq_some_iff.1 hb
      have hname : isName (s.library.spelling owner) = true :=
        isName_spelling hlib (hlib.owners (name, owner) (Library.mem_of_lookup howner))
      exact (leads_name hname).append _
    | _ => cases hb

theorem leads_expr {s : Scope} (hlib : s.library.Named) : (e : Tree.Expr) →
    (∀ x, Tree.Expr.identifier x ∈ e.nodes → isName x = true) → Leads (startsWithObject e) (expr s e).chars
  | .conditional test consequent alternate, _ => .paren false _
  | .binary op left right, hnames => by
    refine leads_binary op right _ (leads_expr hlib left fun x hx => hnames x ?_)
    exact List.mem_cons_of_mem _ (List.mem_append_left _ hx)
  | .unary op operand, _ => by cases op <;> exact .plain (by decide) _
  | .call f args, hnames => by
    refine (leads_callee hlib (leads_expr hlib f fun x hx => hnames x ?_)).append _
    exact List.mem_cons_of_mem _ (List.mem_append_left _ hx)
  | .member object property, hnames => by
    exact ((leads_expr hlib object fun x hx => hnames x (List.mem_cons_of_mem _ hx)).wrapped _).append _
  | .index object position, hnames => by
    refine ((leads_expr hlib object fun x hx => hnames x ?_).wrapped _).append _
    exact List.mem_cons_of_mem _ (List.mem_append_left _ hx)
  | .range first last none, _ => .plain (by decide) _
  | .range first last (some step), _ => .plain (by decide) _
  | .array elements, _ => .plain (by decide) _
  | .object [], _ => .brace _
  | .object (⟨key, value, shorthand⟩ :: ps), _ => .brace _
  | .identifier name, hnames => leads_name (isName_spelled hlib (hnames name List.mem_cons_self))
  | .literal value, _ => leads_literal value
  | .undefined, _ => .plain (by decide) _
  | .interpolated parts, _ => .plain (by decide) _

/-- The text of an expression statement begins, after its indentation, with something else than a brace: where the
text of the expression begins with a brace, an object is foretold and the statement has parentheses. And it has
them only where the text begins with a brace or with a parenthesis of its own. -/
theorem exprStmt_opens_no_block (s : Scope) (hlib : s.library.Named) (e : Tree.Expr)
    (hnames : ∀ x, Tree.Expr.identifier x ∈ e.nodes → isName x = true) :
    (∃ t, stmt s (.expr e) = .ok t ∧
        ∀ level, ∃ c rest, (t.text level).toList = Script.pad level ++ c :: rest ∧ c ∉ [' ', '\x7b']) ∧
      ((expr s e).text.toList.head? = some '\x7b' → startsWithObject e = true) ∧
      (startsWithObject e = true →
        (expr s e).text.toList.head? = some '\x7b' ∨ (expr s e).text.toList.head? = some '(') := by
  have hleads := leads_expr hlib e hnames
  refine ⟨⟨_, rfl, fun level => ?_⟩, ?_⟩
  · obtain ⟨c, rest, hchars, hc⟩ := hleads.guarded
    refine ⟨c, rest ++ [';'], ?_, hc⟩
    have hline : (Script.Stmt.expr (wrapped (startsWithObject e) (expr s e))).chars level =
        Script.pad level ++ ((wrapped (startsWithObject e) (expr s e)).chars ++ [';']) := List.append_nil _
    rw [Script.Stmt.text, String.toList_ofList, hline, hchars, List.cons_append]
  · obtain ⟨c, rest, hchars, -, hbrace, hobject⟩ := hleads
    have hhead : (expr s e).text.toList.head? = some c := by rw [Script.Expr.text, String.toList_ofList, hchars]; rfl
    simp only [hhead, Option.some.injEq]
    exact ⟨hbrace, hobject⟩

/-- An object at the far end of a member, a call, an index and an operator. -/
def objectChain : Tree.Expr :=
  .binary .add (.index (.call (.member (.object []) "f") [.identifier "String"]) (.literal (.number .zero)))
    (.call (.identifier "print") [.identifier "y"])

theorem exprStmt_opens_no_block_objectChain :
    let s : Scope := ⟨.standard, []⟩
    s.library.Named ∧ (∀ x, Tree.Expr.identifier x ∈ objectChain.nodes → isName x = true) ∧
      (expr s objectChain).text = "\x7b\x7d.f(Str)[0] + Kernel.print(y)" ∧ startsWithObject objectChain = true ∧
      ∃ t, stmt s (.expr objectChain) = .ok t ∧
        ∀ level, ∃ c rest, (t.text level).toList = Script.pad level ++ c :: rest ∧ c ∉ [' ', '\x7b'] := by
  intro s
  have hnames : ∀ x, Tree.Expr.identifier x ∈ objectChain.nodes → isName x = true := by
    intro x hx
    have hx : x = "String" ∨ x = "print" ∨ x = "y" := by
      simpa [objectChain, Tree.Expr.nodes, Tree.Expr.nodesAll, Tree.Property.nodesAll] using hx
    rcases hx with rfl | rfl | rfl <;> decide +kernel
  have htext : (expr s objectChain).text = "\x7b\x7d.f(Str)[0] + Kernel.print(y)" := by decide +kernel
  obtain ⟨hstmt, hbrace, -⟩ := exprStmt_opens_no_block s named_standard objectChain hnames
  refine ⟨named_standard, hnames, htext, hbrace ?_, hstmt⟩
  rw [htext]
  decide

end TreeScript.Lowering
