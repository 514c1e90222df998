/-
  TreeScript.Proofs.Serialized — how a program is written.

  The serialized form of a tree leaves some freedom: the entries of an object may stand in
  any order, some of them may be left out, and one goes by two names. A `Form` says what is
  written and what is free, `form` gives the form of each node, and `Writes` relates a form
  to the JSON values that have it. With the texts of those values this makes up what it is
  for a text to spell a program (`Program.Spelled`). Nothing here refers to how programs
  are read.
-/

import TreeScript.Proofs.JsonGrammar
import TreeScript.Proofs.Nodes

namespace TreeScript

open Json (Value)

/-! ## Forms -/

/-- An entry of an object. -/
structure Slot (α : Type) where
  name : String
  content : α
  /-- Another name that the entry may have. -/
  otherName : Option String := none
  /-- Whether the entry may be left out. -/
  omittable : Bool := false

/-- What is written. -/
inductive Form where
  | null
  | flag (value : Bool)
  | number (value : Binary64)
  | text (value : String)
  | list (items : List Form)
  | object (slots : List (Slot Form))

namespace Slot

/-- An entry that has to be there. -/
def field (name : String) (content : Form) : Slot Form := ⟨name, content, none, false⟩

/-- The place of something that is absent: `null`, or nothing at all. -/
def absent (name : String) : Slot Form := ⟨name, .null, none, true⟩

def optional (name : String) : Option Form → Slot Form
  | none => absent name
  | some content => field name content

end Slot

namespace Form

/-- An object with a tag. -/
def node (tag : String) (slots : List (Slot Form)) : Form := .object (.field "type" (.text tag) :: slots)

def block (body : List Form) : Form := .object [.field "body" (.list body)]

end Form

/-! ## Nodes -/

namespace Tree

open Slot

def Literal.form : Literal → Form
  | .number value => .node "NumericLiteral" [field "value" (.number value)]
  | .boolean value => .node "BooleanLiteral" [field "value" (.flag value)]
  | .nil => .node "NilLiteral" []
  | .string value => .node "StringLiteral" [field "value" (.text value)]
  | .symbol name => .node "SymbolLiteral" [field "name" (.text name)]

def Pattern.form : Pattern → Form
  | .literal value => .node "Literal" [field "value" value.form]
  | .wildcard => .node "Wildcard" []
  | .binding name => .node "Binding" [field "name" (.text name)]

mutual

def Expr.form : Expr → Form
  | .conditional test consequent alternate =>
    .node "ConditionalExpression"
      [field "test" test.form, field "consequent" consequent.form, field "alternate" alternate.form]
  | .binary op left right =>
    .node "BinaryExpression" [field "op" (.text op.symbol), field "left" left.form, field "right" right.form]
  | .unary op operand => .node "UnaryExpression" [field "op" (.text op.symbol), field "operand" operand.form]
  | .call callee args => .node "CallExpression" [field "callee" callee.form, field "args" (.list (Expr.forms args))]
  | .member object property =>
    .node "MemberExpression" [field "object" object.form, field "property" (.text property)]
  | .index object position => .node "IndexExpression" [field "object" object.form, field "index" position.form]
  | .range first last none =>
    .node "RangeLiteral" [field "start" first.form, field "end" last.form, absent "step"]
  | .range first last (some step) =>
    .node "RangeLiteral" [field "start" first.form, field "end" last.form, field "step" step.form]
  | .array elements => .node "ArrayLiteral" [field "elements" (.list (Expr.forms elements))]
  | .object properties => .node "ObjectLiteral" [field "properties" (.list (Property.forms properties))]
  | .identifier name => .node "Identifier" [field "name" (.text name)]
  | .literal value => value.form
  | .undefined => .node "UndefinedLiteral" []
  | .interpolated parts => .node "InterpolatedString" [field "parts" (.list (Part.forms parts))]

def Expr.forms : List Expr → List Form
  | [] => []
  | e :: es => e.form :: Expr.forms es

def Property.forms : List Property → List Form
  | [] => []
  | ⟨key, value, shorthand⟩ :: ps =>
    .object [field "key" (.text key), field "value" value.form, ⟨"shorthand", .flag shorthand, none, !shorthand⟩] ::
      Property.forms ps

def Part.forms : List Part → List Form
  | [] => []
  | .text text :: ps => .object [field "literal" (.text text)] :: Part.forms ps
  | .expr value :: ps => .object [field "expr" value.form] :: Part.forms ps

end

mutual

def Stmt.form : Stmt → Form
  | .declare kind name value =>
    .node "VariableDeclaration" [field "kind" (.text kind.keyword), field "name" (.text name), field "init" value.form]
  | .function name params body =>
    .node "FunctionDeclaration"
      [field "name" (.text name), field "params" (.list (params.map .text)), field "body" (.block (Stmt.forms body))]
  | .clause c => .node "PatternClause" c.slots
  | .dispatch name clauses =>
    .node "PatternDispatch" [field "name" (.text name), field "clauses" (.list (Clause.forms clauses))]
  | .branch test consequent none =>
    .node "IfStatement"
      [field "test" test.form, field "consequent" (.block (Stmt.forms consequent)), absent "alternate"]
  | .branch test consequent (some alternate) =>
    .node "IfStatement"
      [field "test" test.form, field "consequent" (.block (Stmt.forms consequent)), field "alternate" alternate.form]
  | .unless test consequent =>
    .node "UnlessStatement" [field "test" test.form, field "consequent" (.block (Stmt.forms consequent))]
  | .ret value => .node "ReturnStatement" [field "value" value.form]
  | .expr value => .node "ExpressionStatement" [⟨"expression", value.form, some "expr", false⟩]
  | .block body => .node "BlockStatement" [field "body" (.list (Stmt.forms body))]

def Stmt.forms : List Stmt → List Form
  | [] => []
  | s :: ss => s.form :: Stmt.forms ss

def Clause.slots : Clause → List (Slot Form)
  | ⟨name, patterns, guard, body⟩ =>
    [field "name" (.text name), field "patterns" (.list (patterns.map Pattern.form)),
      optional "guard" (guard.map Expr.form), field "body" (.block (Stmt.forms body))]

def Clause.forms : List Clause → List Form
  | [] => []
  | c :: cs => .object c.slots :: Clause.forms cs

end

/-- A program may carry a tag of its own. -/
def Program.form (p : Program) : Form :=
  .object [⟨"type", .text "Program", none, true⟩, field "body" (.list (Stmt.forms p.body))]

end Tree

/-! ## Values of a form -/

/-- A double whose magnitude is the integer `m`, which is at most `2 ^ 53`. -/
structure Binary64.Whole (x : Binary64) (m : Nat) : Prop where
  finite : x.isFinite = true
  ratio : x.ratio.1 = m * x.ratio.2
  small : m ≤ 2 ^ 53

/-- The entries of an object, in the order of its slots. -/
inductive Slot.Entries {α β : Type} (R : α → β → Prop) : List (Slot α) → List (String × β) → Prop
  | nil : Entries R [] []
  | omitted {s : Slot α} {ss : List (Slot α)} {es : List (String × β)} :
      s.omittable = true → Entries R ss es → Entries R (s :: ss) es
  | written {s : Slot α} {ss : List (Slot α)} {es : List (String × β)} {name : String} {b : β} :
      name = s.name ∨ some name = s.otherName → R s.content b → Entries R ss es → Entries R (s :: ss) ((name, b) :: es)

/-- The values that have a form. -/
inductive Writes : Form → Value → Prop
  | null : Writes .null .null
  | flag (b : Bool) : Writes (.flag b) (.boolean b)
  | number {x : Binary64} {m : Nat} : x.Whole m → Writes (.number x) (.number (.whole x.negative m))
  | text (s : String) : Writes (.text s) (.text s)
  | list {fs : List Form} {vs : List Value} : List.Forall₂ Writes fs vs → Writes (.list fs) (.items vs)
  | object {ss : List (Slot Form)} {es es' : List (String × Value)} :
      Slot.Entries Writes ss es → es.Perm es' → Writes (.object ss) (.entries es')

/-- A text spells a program. -/
def Tree.Program.Spelled (p : Tree.Program) (text : String) : Prop := ∃ v, Writes p.form v ∧ text.toList ∈ v.texts

/-! ## Every program of whole numbers has a text -/

/-- Something of this form can be written out. -/
def Form.Writable (f : Form) : Prop := ∃ v, Writes f v ∧ ∃ cs, cs ∈ v.fold Json.spellings

def Slot.Writables (ss : List (Slot Form)) : Prop := ∀ s ∈ ss, s.content.Writable

theorem writables_nil : Slot.Writables [] := by
  intro s hs
  cases hs

theorem writables_cons {s : Slot Form} {ss : List (Slot Form)} (h : s.content.Writable) (hs : Slot.Writables ss) :
    Slot.Writables (s :: ss) :=
  List.forall_mem_cons.2 ⟨h, hs⟩

theorem writable_null : Form.null.Writable := ⟨.null, .null, _, rfl⟩

theorem writable_flag (b : Bool) : (Form.flag b).Writable := ⟨.boolean b, .flag b, _, rfl⟩

theorem writable_text (s : String) : (Form.text s).Writable := ⟨.text s, .text s, Json.exists_mem_quoted s⟩

theorem writable_number {x : Binary64} {m : Nat} (h : x.Whole m) : (Form.number x).Writable := by
  have hm : m < 2 ^ 63 := by
    have := h.small
    omega
  exact ⟨_, .number h, _, x.negative, m, hm, rfl, rfl⟩

theorem writable_list {fs : List Form} (h : ∀ f ∈ fs, f.Writable) : (Form.list fs).Writable := by
  have hvalues : ∃ vs, List.Forall₂ Writes fs vs ∧ ∀ v ∈ vs, ∃ cs, cs ∈ v.fold Json.spellings := by
    induction fs with
    | nil => exact ⟨[], .nil, fun _ hv => nomatch hv⟩
    | cons f fs ih =>
      obtain ⟨v, hv, htext⟩ := h f List.mem_cons_self
      obtain ⟨vs, hvs, htexts⟩ := ih fun f' hf' => h f' (List.mem_cons_of_mem f hf')
      exact ⟨v :: vs, .cons hv hvs, List.forall_mem_cons.2 ⟨htext, htexts⟩⟩
  obtain ⟨vs, hvs, htexts⟩ := hvalues
  refine ⟨.items vs, .list hvs, ?_⟩
  rw [Value.fold, Value.foldItems_eq_map]
  exact Json.exists_mem_brackets (List.forall_mem_map.2 htexts) _ _

theorem writable_object {ss : List (Slot Form)} (h : Slot.Writables ss) : (Form.object ss).Writable := by
  have hentries : ∃ es, Slot.Entries Writes ss es ∧ ∀ e ∈ es, ∃ cs, cs ∈ e.2.fold Json.spellings := by
    induction ss with
    | nil => exact ⟨[], .nil, fun _ he => nomatch he⟩
    | cons s ss ih =>
      obtain ⟨v, hv, htext⟩ := h s List.mem_cons_self
      obtain ⟨es, hes, htexts⟩ := ih fun s' hs' => h s' (List.mem_cons_of_mem s hs')
      exact ⟨(s.name, v) :: es, .written (.inl rfl) hv hes, List.forall_mem_cons.2 ⟨htext, htexts⟩⟩
  obtain ⟨es, hes, htexts⟩ := hentries
  refine ⟨.entries es, .object hes (.refl es), ?_⟩
  rw [Value.fold, Value.foldEntries_eq_map]
  refine Json.exists_mem_brackets ?_ _ _
  rw [List.map_map]
  exact List.forall_mem_map.2 fun e he =>
    Json.exists_mem_mul (Json.exists_mem_quoted e.1) (Json.exists_mem_mul Json.exists_mem_blanks
      (Json.exists_mem_mul (Json.exists_mem_mark _) (Json.exists_mem_mul Json.exists_mem_blanks (htexts e he))))

theorem writable_node (tag : String) {ss : List (Slot Form)} (h : Slot.Writables ss) : (Form.node tag ss).Writable :=
  writable_object (writables_cons (writable_text tag) h)

theorem writable_block {body : List Form} (h : ∀ f ∈ body, f.Writable) : (Form.block body).Writable :=
  writable_object (writables_cons (writable_list h) writables_nil)

namespace Tree

/-- The numbers among nodes are integers of magnitude at most `2 ^ 53`. -/
def WholeNumbers (ns : List Node) : Prop := ∀ x, .expr (.literal (.number x)) ∈ ns → ∃ m, x.Whole m

theorem WholeNumbers.mono {ns ns' : List Node} (h : WholeNumbers ns') (hns : ns ⊆ ns') : WholeNumbers ns :=
  fun x hx => h x (hns hx)

theorem wholeNumbers_append {ns ns' : List Node} : WholeNumbers (ns ++ ns') ↔ WholeNumbers ns ∧ WholeNumbers ns' := by
  simp [WholeNumbers, or_imp, forall_and]

theorem WholeNumbers.tail {n : Node} {ns : List Node} (h : WholeNumbers (n :: ns)) : WholeNumbers ns :=
  h.mono (List.subset_cons_self n ns)

theorem Literal.writable (l : Literal) (h : WholeNumbers [.expr (.literal l)]) : l.form.Writable := by
  cases l with
  | number x =>
    obtain ⟨m, hm⟩ := h x List.mem_cons_self
    exact writable_node _ (writables_cons (writable_number hm) writables_nil)
  | boolean b => exact writable_node _ (writables_cons (writable_flag b) writables_nil)
  | nil => exact writable_node _ writables_nil
  | string s => exact writable_node _ (writables_cons (writable_text s) writables_nil)
  | symbol s => exact writable_node _ (writables_cons (writable_text s) writables_nil)

theorem Pattern.writable (p : Pattern) (h : WholeNumbers p.nodes) : p.form.Writable := by
  cases p with
  | literal l => exact writable_node _ (writables_cons (l.writable h) writables_nil)
  | wildcard => exact writable_node _ writables_nil
  | binding s => exact writable_node _ (writables_cons (writable_text s) writables_nil)

mutual

theorem Expr.writable : (e : Expr) → WholeNumbers (e.nodes.map .expr) → e.form.Writable
  | .conditional test consequent alternate, h => by
    have h := h.tail
    rw [List.map_append, List.map_append, wholeNumbers_append, wholeNumbers_append] at h
    exact writable_node _ (writables_cons (test.writable h.1.1) (writables_cons (consequent.writable h.1.2)
      (writables_cons (alternate.writable h.2) writables_nil)))
  | .binary op left right, h => by
    have h := h.tail
    rw [List.map_append, wholeNumbers_append] at h
    exact writable_node _ (writables_cons (writable_text _) (writables_cons (left.writable h.1)
      (writables_cons (right.writable h.2) writables_nil)))
  | .unary op operand, h =>
    writable_node _ (writables_cons (writable_text _) (writables_cons (operand.writable h.tail) writables_nil))
  | .call callee args, h => by
    have h := h.tail
    rw [List.map_append, wholeNumbers_append] at h
    exact writable_node _ (writables_cons (callee.writable h.1)
      (writables_cons (writable_list (Expr.writableAll args h.2)) writables_nil))
  | .member object property, h =>
    writable_node _ (writables_cons (object.writable h.tail) (writables_cons (writable_text _) writables_nil))
  | .index object position, h => by
    have h := h.tail
    rw [List.map_append, wholeNumbers_append] at h
    exact writable_node _ (writables_cons (object.writable h.1) (writables_cons (position.writable h.2) writables_nil))
  | .range first last none, h => by
    have h := h.tail
    rw [List.map_append, wholeNumbers_append] at h
    exact writable_node _ (writables_cons (first.writable h.1) (writables_cons (last.writable h.2)
      (writables_cons writable_null writables_nil)))
  | .range first last (some step), h => by
    have h := h.tail
    rw [List.map_append, List.map_append, wholeNumbers_append, wholeNumbers_append] at h
    exact writable_node _ (writables_cons (first.writable h.1.1) (writables_cons (last.writable h.1.2)
      (writables_cons (step.writable h.2) writables_nil)))
  | .array elements, h =>
    writable_node _ (writables_cons (writable_list (Expr.writableAll elements h.tail)) writables_nil)
  | .object properties, h =>
    writable_node _ (writables_cons (writable_list (Property.writableAll properties h.tail)) writables_nil)
  | .identifier name, _ => writable_node _ (writables_cons (writable_text name) writables_nil)
  | .literal value, h => value.writable h
  | .undefined, _ => writable_node _ writables_nil
  | .interpolated parts, h =>
    writable_node _ (writables_cons (writable_list (Part.writableAll parts h.tail)) writables_nil)

theorem Expr.writableAll : (es : List Expr) → WholeNumbers ((Expr.nodesAll es).map .expr) →
    ∀ f ∈ Expr.forms es, f.Writable
  | [], _ => fun _ hf => nomatch hf
  | e :: es, h => by
    rw [Expr.nodesAll, List.map_append, wholeNumbers_append] at h
    exact List.forall_mem_cons.2 ⟨e.writable h.1, Expr.writableAll es h.2⟩

theorem Property.writableAll : (ps : List Property) → WholeNumbers ((Property.nodesAll ps).map .expr) →
    ∀ f ∈ Property.forms ps, f.Writable
  | [], _ => fun _ hf => nomatch hf
  | ⟨key, value, shorthand⟩ :: ps, h => by
    rw [Property.nodesAll, List.map_append, wholeNumbers_append] at h
    exact List.forall_mem_cons.2 ⟨writable_object (writables_cons (writable_text key) (writables_cons
      (value.writable h.1) (writables_cons (writable_flag shorthand) writables_nil))), Property.writableAll ps h.2⟩

theorem Part.writableAll : (ps : List Part) → WholeNumbers ((Part.nodesAll ps).map .expr) →
    ∀ f ∈ Part.forms ps, f.Writable
  | [], _ => fun _ hf => nomatch hf
  | .text text :: ps, h =>
    List.forall_mem_cons.2 ⟨writable_object (writables_cons (writable_text text) writables_nil), Part.writableAll ps h⟩
  | .expr value :: ps, h => by
    rw [Part.nodesAll, List.map_append, wholeNumbers_append] at h
    exact List.forall_mem_cons.2
      ⟨writable_object (writables_cons (value.writable h.1) writables_nil), Part.writableAll ps h.2⟩

end

mutual

theorem Stmt.writable : (s : Stmt) → WholeNumbers s.inner → s.form.Writable
  | .declare kind name value, h =>
    writable_node _ (writables_cons (writable_text _) (writables_cons (writable_text name)
      (writables_cons (value.writable h) writables_nil)))
  | .function name params body, h => by
    have hparams : ∀ f ∈ params.map Form.text, f.Writable := List.forall_mem_map.2 fun p _ => writable_text p
    exact writable_node _ (writables_cons (writable_text name) (writables_cons (writable_list hparams)
      (writables_cons (writable_block (Stmt.writableAll body h)) writables_nil)))
  | .clause c, h => writable_node _ (c.writables h)
  | .dispatch name clauses, h =>
    writable_node _ (writables_cons (writable_text name)
      (writables_cons (writable_list (Clause.writableAll clauses h)) writables_nil))
  | .branch test consequent none, h => by
    rw [Stmt.inner, wholeNumbers_append] at h
    exact writable_node _ (writables_cons (test.writable h.1) (writables_cons
      (writable_block (Stmt.writableAll consequent h.2)) (writables_cons writable_null writables_nil)))
  | .branch test consequent (some alternate), h => by
    rw [Stmt.inner, wholeNumbers_append, wholeNumbers_append] at h
    exact writable_node _ (writables_cons (test.writable h.1.1) (writables_cons
      (writable_block (Stmt.writableAll consequent h.1.2))
      (writables_cons (alternate.writable h.2.tail) writables_nil)))
  | .unless test consequent, h => by
    rw [Stmt.inner, wholeNumbers_append] at h
    exact writable_node _ (writables_cons (test.writable h.1) (writables_cons
      (writable_block (Stmt.writableAll consequent h.2)) writables_nil))
  | .ret value, h => writable_node _ (writables_cons (value.writable h) writables_nil)
  | .expr value, h => writable_node _ (writables_cons (value.writable h) writables_nil)
  | .block body, h => writable_node _ (writables_cons (writable_list (Stmt.writableAll body h)) writables_nil)

theorem Stmt.writableAll : (ss : List Stmt) → WholeNumbers (Stmt.nodesAll ss) → ∀ f ∈ Stmt.forms ss, f.Writable
  | [], _ => fun _ hf => nomatch hf
  | s :: ss, h => by
    have h := h.tail
    rw [wholeNumbers_append] at h
    exact List.forall_mem_cons.2 ⟨s.writable h.1, Stmt.writableAll ss h.2⟩

theorem Clause.writables : (c : Clause) → WholeNumbers c.nodes → Slot.Writables c.slots
  | ⟨name, patterns, guard, body⟩, h => by
    rw [Clause.nodes, wholeNumbers_append, wholeNumbers_append] at h
    obtain ⟨⟨hpatterns, hguard⟩, hbody⟩ := h
    have hforms : ∀ f ∈ patterns.map Pattern.form, f.Writable :=
      List.forall_mem_map.2 fun p hp => p.writable (hpatterns.mono fun _ hn => List.mem_flatMap.2 ⟨p, hp, hn⟩)
    have hslot : (Slot.optional "guard" (guard.map Expr.form)).content.Writable := by
      cases guard with
      | none => exact writable_null
      | some g =>
        rw [Option.toList_some, List.flatMap_singleton] at hguard
        exact g.writable hguard
    exact writables_cons (writable_text name) (writables_cons (writable_list hforms)
      (writables_cons hslot (writables_cons (writable_block (Stmt.writableAll body hbody)) writables_nil)))

theorem Clause.writableAll : (cs : List Clause) → WholeNumbers (Clause.nodesAll cs) → ∀ f ∈ Clause.forms cs, f.Writable
  | [], _ => fun _ hf => nomatch hf
  | c :: cs, h => by
    rw [Clause.nodesAll, wholeNumbers_append] at h
    exact List.forall_mem_cons.2 ⟨writable_object (c.writables h.1), Clause.writableAll cs h.2⟩

end

/-- A program without other numbers than integers of magnitude at most `2 ^ 53` is spelled by some text. -/
theorem Program.exists_spelled {p : Program} (h : WholeNumbers (Stmt.nodesAll p.body)) : ∃ text, p.Spelled text := by
  have hbody := writable_list (Stmt.writableAll p.body h)
  obtain ⟨v, hv, htext⟩ :=
    writable_object (writables_cons (writable_text "Program") (writables_cons hbody writables_nil) :
      Slot.Writables [⟨"type", .text "Program", none, true⟩, Slot.field "body" (.list (Stmt.forms p.body))])
  obtain ⟨cs, hcs⟩ := Json.exists_mem_padded htext
  exact ⟨String.ofList cs, v, hv, by rwa [String.toList_ofList]⟩

end Tree

end TreeScript
