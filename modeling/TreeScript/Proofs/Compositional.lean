/-
  TreeScript.Proofs.Compositional — properties that a script has from its parts.

  Many a property of scripts passes from the parts of an expression or a statement to the
  whole, and asks something of the names in it: that its text is balanced, or that it is
  on one line. Such a property is `Compositional`, and lowering is followed once for all
  of them: what is lowered has it if the names that the tree has and the names that its
  nodes write are as the property asks. Templates are put together from more than their
  parts, so there the property is asked for node by node (`Admits`). Of a property of
  texts it is enough to know that literals have it and that it passes through marks and
  brackets (`Textual`).
-/

import TreeScript.Proofs.FirstMatch
import TreeScript.Proofs.RuntimeNames
import TreeScript.Proofs.Scanning

namespace TreeScript

/-! ## Names -/

namespace Tree

/-- The names that an expression itself has. -/
def Expr.names : Expr → List String
  | .identifier name => [name]
  | .member _ property => [property]
  | _ => []

/-- The names that a statement itself has. -/
def Stmt.names : Stmt → List String
  | .declare _ name _ => [name]
  | .function name params _ => name :: params
  | .clause c => c.name :: c.bound
  | .dispatch name clauses => name :: clauses.flatMap Clause.bound
  | _ => []

def Node.names : Node → List String
  | .stmt s => s.names
  | .expr e => e.names

end Tree

namespace Lowering

/-! ## Expressions -/

/-- What a property asks of an entry of an object. -/
def EntryMeets (N : String → Prop) (P : Script.Expr → Prop) : Script.Entry → Prop
  | .bare key => N key
  | .keyed _ value => P value

/-- A property of expressions that they have from their parts, if their names are as it asks. -/
structure Compositional (N : String → Prop) (P : Script.Expr → Prop) : Prop where
  words : ∀ x ∈ ["Math", "floor", "concat", "Symbol", "for", "_Range"], N x
  name {x : String} : N x → P (.name x)
  number (x : Binary64) : P (.number x)
  boolean (b : Bool) : P (.boolean b)
  null : P .null
  undefined : P .undefined
  string (text : String) : P (.string text)
  paren {e : Script.Expr} : P e → P (.paren e)
  unary (op : Tree.UnaryOp) {e : Script.Expr} : P e → P (.unary op e)
  binary (op : Script.Operator) {l r : Script.Expr} : P l → P r → P (.binary op l r)
  conditional {e c a : Script.Expr} : P e → P c → P a → P (.conditional e c a)
  call {f : Script.Expr} {args : List Script.Expr} : P f → (∀ e ∈ args, P e) → P (.call f args)
  member {e : Script.Expr} {x : String} : P e → N x → P (.member e x)
  index {e i : Script.Expr} : P e → P i → P (.index e i)
  construct {x : String} {args : List Script.Expr} : N x → (∀ e ∈ args, P e) → P (.construct x args)
  array {es : List Script.Expr} : (∀ e ∈ es, P e) → P (.array es)
  object {es : List Script.Entry} : (∀ entry ∈ es, EntryMeets N P entry) → P (.object es)

/-- The names of some nodes, and those that they write, are as a property asks, and it passes from the
substitutions of each interpolated string among them to its template. -/
def Admits (N : String → Prop) (P : Script.Expr → Prop) (s : Scope) (ns : List Tree.Expr) : Prop :=
  ∀ n ∈ ns, (∀ x ∈ n.names, N x) ∧ (∀ x, written? s n = some x → N x) ∧
    ∀ ps, n = .interpolated ps → (∀ e, .expr e ∈ templateParts s ps → P e) → P (.template (templateParts s ps))

section Expressions

variable {N : String → Prop} {P : Script.Expr → Prop} {s : Scope}

theorem admits_cons {n : Tree.Expr} {ns : List Tree.Expr} : Admits N P s (n :: ns) ↔
    ((∀ x ∈ n.names, N x) ∧ (∀ x, written? s n = some x → N x) ∧ ∀ ps, n = .interpolated ps →
      (∀ e, .expr e ∈ templateParts s ps → P e) → P (.template (templateParts s ps))) ∧ Admits N P s ns :=
  List.forall_mem_cons

theorem admits_append {ns ns' : List Tree.Expr} : Admits N P s (ns ++ ns') ↔ Admits N P s ns ∧ Admits N P s ns' :=
  List.forall_mem_append

namespace Compositional

theorem wrapped (h : Compositional N P) {e : Script.Expr} (he : P e) (wrap : Bool) : P (wrapped wrap e) := by
  cases wrap with
  | false => exact he
  | true => exact h.paren he

theorem literal (h : Compositional N P) (value : Tree.Literal) : P (literal value) := by
  cases value with
  | number value => exact h.number value
  | boolean value => exact h.boolean value
  | nil => exact h.null
  | string value => exact h.string value
  | symbol name =>
    have hfor : P (.member (.name "Symbol") "for") := h.member (h.name (h.words _ (by decide))) (h.words _ (by decide))
    exact h.call hfor (List.forall_mem_singleton.2 (h.string name))

theorem lowered_binary (h : Compositional N P) (op : Tree.BinaryOp) (left right : Tree.Expr) {l r : Script.Expr}
    (hl : P l) (hr : P r) : P (Lowering.binary op left right l r) := by
  have hboth : ∀ e ∈ [l, r], P e := List.forall_mem_cons.2 ⟨hl, List.forall_mem_singleton.2 hr⟩
  have hinfixed (parent : Tree.BinaryOp) (op : Script.Operator) : P (infixed parent op left right l r) :=
    h.binary op (h.wrapped hl _) (h.wrapped hr _)
  cases op with
  | intDiv =>
    have hfloor : P (.member (.name "Math") "floor") :=
      h.member (h.name (h.words _ (by decide))) (h.words _ (by decide))
    exact h.call hfloor (List.forall_mem_singleton.2 (hinfixed .div .div))
  | concat => exact h.call (h.member (h.string "") (h.words _ (by decide))) hboth
  | append => exact h.call (h.member (h.array (fun _ he => nomatch he)) (h.words _ (by decide))) hboth
  | _ => exact hinfixed _ _

/-- A built-in is called by its own name, at the module that the call writes. -/
theorem callee (h : Compositional N P) {f : Tree.Expr} (args : List Tree.Expr) (hf : ∀ x ∈ f.names, N x)
    (hwritten : ∀ x, written? s (.call f args) = some x → N x) {e : Script.Expr} (he : P e) : P (callee s f e) := by
  unfold Lowering.callee
  cases hb : builtin? s f with
  | none => exact h.wrapped he _
  | some e' =>
    cases f with
    | identifier name =>
      obtain ⟨owner, howner, rfl⟩ := Option.map_eq_some_iff.1 hb
      have hspelled : N (s.library.spelling owner) := hwritten _ (by simp [written?, howner])
      exact h.member (h.name hspelled) (hf name List.mem_cons_self)
    | _ => cases hb

mutual

/-- The script of an expression has the property if its nodes admit it. -/
theorem expr (h : Compositional N P) {s : Scope} : (e : Tree.Expr) → Admits N P s e.nodes → P (expr s e)
  | .conditional test consequent alternate, hn => by
    simp only [Tree.Expr.nodes, admits_cons, admits_append] at hn
    exact h.paren (h.conditional (h.expr test hn.2.1.1) (h.expr consequent hn.2.1.2) (h.expr alternate hn.2.2))
  | .binary op left right, hn => by
    simp only [Tree.Expr.nodes, admits_cons, admits_append] at hn
    exact h.lowered_binary op left right (h.expr left hn.2.1) (h.expr right hn.2.2)
  | .unary op operand, hn => by
    simp only [Tree.Expr.nodes, admits_cons] at hn
    exact h.unary op (h.wrapped (h.expr operand hn.2) _)
  | .call f args, hn => by
    simp only [Tree.Expr.nodes, admits_cons, admits_append] at hn
    obtain ⟨⟨-, hwritten, -⟩, hf, hargs⟩ := hn
    exact h.call (h.callee args (hf f f.self_mem_nodes).1 hwritten (h.expr f hf)) (h.exprs args hargs)
  | .member object property, hn => by
    simp only [Tree.Expr.nodes, admits_cons] at hn
    exact h.member (h.wrapped (h.expr object hn.2) _) (hn.1.1 property List.mem_cons_self)
  | .index object position, hn => by
    simp only [Tree.Expr.nodes, admits_cons, admits_append] at hn
    exact h.index (h.wrapped (h.expr object hn.2.1) _) (h.expr position hn.2.2)
  | .range first last none, hn => by
    simp only [Tree.Expr.nodes, admits_cons, admits_append] at hn
    refine h.construct (h.words _ (by decide)) (List.forall_mem_cons.2 ⟨h.expr first hn.2.1, ?_⟩)
    exact List.forall_mem_singleton.2 (h.expr last hn.2.2)
  | .range first last (some step), hn => by
    simp only [Tree.Expr.nodes, admits_cons, admits_append] at hn
    refine h.construct (h.words _ (by decide)) (List.forall_mem_cons.2 ⟨h.expr first hn.2.1.1, ?_⟩)
    exact List.forall_mem_cons.2 ⟨h.expr last hn.2.1.2, List.forall_mem_singleton.2 (h.expr step hn.2.2)⟩
  | .array elements, hn => by
    simp only [Tree.Expr.nodes, admits_cons] at hn
    exact h.array (h.exprs elements hn.2)
  | .object properties, hn => by
    simp only [Tree.Expr.nodes, admits_cons] at hn
    exact h.object (h.entries properties hn.2)
  | .identifier name, hn => by
    simp only [Tree.Expr.nodes, admits_cons] at hn
    exact h.name (hn.1.2.1 _ rfl)
  | .literal value, _ => h.literal value
  | .undefined, _ => h.undefined
  | .interpolated parts, hn => by
    simp only [Tree.Expr.nodes, admits_cons] at hn
    exact hn.1.2.2 parts rfl (h.templateParts parts hn.2)

theorem exprs (h : Compositional N P) {s : Scope} : (es : List Tree.Expr) → Admits N P s (Tree.Expr.nodesAll es) →
    ∀ e ∈ exprs s es, P e
  | [], _ => by
    intro e he
    cases he
  | e :: es, hn => by
    rw [Tree.Expr.nodesAll, admits_append] at hn
    exact List.forall_mem_cons.2 ⟨h.expr e hn.1, h.exprs es hn.2⟩

theorem entries (h : Compositional N P) {s : Scope} : (ps : List Tree.Property) →
    Admits N P s (Tree.Property.nodesAll ps) → ∀ entry ∈ entries s ps, EntryMeets N P entry
  | [], _ => by
    intro entry hentry
    cases hentry
  | ⟨key, value, shorthand⟩ :: ps, hn => by
    rw [Tree.Property.nodesAll, admits_append] at hn
    have hvalue := h.expr value hn.1
    refine List.forall_mem_cons.2 ⟨?_, h.entries ps hn.2⟩
    split
    · -- a key that stands alone is the name of a variable
      rename_i halone
      obtain ⟨rfl, -⟩ := isBare_iff halone
      exact (hn.1 _ List.mem_cons_self).1 key List.mem_cons_self
    · exact hvalue

theorem templateParts (h : Compositional N P) {s : Scope} : (ps : List Tree.Part) →
    Admits N P s (Tree.Part.nodesAll ps) → ∀ e, .expr e ∈ templateParts s ps → P e
  | [], _ => by
    intro e he
    cases he
  | .text t :: ps, hn => by
    intro e he
    rcases List.mem_cons.1 he with he | he
    · cases he
    · exact h.templateParts ps hn e he
  | .expr value :: ps, hn => by
    rw [Tree.Part.nodesAll, admits_append] at hn
    intro e he
    rcases List.mem_cons.1 he with he | he
    · cases he
      exact h.expr value hn.1
    · exact h.templateParts ps hn.2 e he

end

end Compositional

end Expressions

/-! ## Texts -/

/-- A property of texts that all names and literals have, and that passes to what the text of an expression makes
of texts. -/
structure Textual (T : List Char → Prop) : Prop where
  plain {cs : List Char} : cs.any ('\n' :: Script.strong).contains = false → T cs
  name {x : String} : Script.isName x = true → T x.toList
  number (x : Binary64) : T (Script.numberChars x)
  quoted (text : List Char) : T (Script.quotedChars text)
  append {cs ds : List Char} : T cs → T ds → T (cs ++ ds)
  commas {texts : List (List Char)} : (∀ t ∈ texts, T t) → T (Script.commas texts)
  round {cs : List Char} : T cs → T ('(' :: (cs ++ [')']))
  square {cs : List Char} : T cs → T ('[' :: (cs ++ [']']))
  curly {cs : List Char} : T cs → T ("\x7b ".toList ++ cs ++ " \x7d".toList)
  braces : T "\x7b\x7d".toList

theorem isName_argument (position : Nat) : Script.isName (argument position) = true := by
  have hdigits : ∀ c ∈ (toString position).toList, Script.continuesName c = true := by
    intro c hc
    rw [Nat.toString_eq_repr, Nat.toList_repr] at hc
    exact Script.continuesName_of_isDigit (Nat.isDigit_of_mem_toDigits (by decide) (by decide) hc)
  have hletters : ∀ c ∈ "arg".toList, Script.continuesName c = true := by
    have hascii : "arg".toList.all (fun c => c.toNat < 0x80 && Script.continuesAscii c) = true := by decide
    intro c hc
    obtain ⟨hlt, hcontinues⟩ := Bool.and_eq_true_iff.1 (List.all_eq_true.1 hascii c hc)
    rw [Script.continuesName_of_lt (of_decide_eq_true hlt), hcontinues]
  rw [Script.isName, argument, String.toList_append]
  show (Script.startsName '_' && ("arg".toList ++ (toString position).toList).all Script.continuesName) = true
  rw [Script.startsName_of_lt (by decide), Bool.and_eq_true, List.all_eq_true]
  exact ⟨by decide, List.forall_mem_append.2 ⟨hletters, hdigits⟩⟩

namespace Textual

variable {T : List Char → Prop}

theorem charsAll {es : List Script.Expr} (h : ∀ e ∈ es, T e.chars) : ∀ t ∈ Script.Expr.charsAll es, T t := by
  rw [Script.Expr.charsAll_eq_map]
  exact List.forall_mem_map.2 h

theorem key (h : Textual T) (key : String) : T (Script.keyChars key) := by
  unfold Script.keyChars
  split
  · exact h.name (by assumption)
  · exact h.quoted _

theorem entries (h : Textual T) {es : List Script.Entry}
    (hes : ∀ entry ∈ es, EntryMeets (fun x => T x.toList) (fun e => T e.chars) entry) :
    ∀ t ∈ Script.Entry.charsAll es, T t := by
  induction es with
  | nil =>
    intro t ht
    cases ht
  | cons entry es ih =>
    rw [List.forall_mem_cons] at hes
    cases entry with
    | bare key => exact List.forall_mem_cons.2 ⟨hes.1, ih hes.2⟩
    | keyed key value =>
      have hentry : T (Script.keyChars key ++ ": ".toList ++ value.chars) :=
        h.append (h.append (h.key key) (h.plain (by decide))) hes.1
      exact List.forall_mem_cons.2 ⟨hentry, ih hes.2⟩

theorem object (h : Textual T) {es : List Script.Entry} (hes : ∀ t ∈ Script.Entry.charsAll es, T t) :
    T (Script.Expr.object es).chars := by
  cases es with
  | nil => exact h.braces
  | cons entry es =>
    show T ("\x7b ".toList ++ Script.commas (Script.Entry.charsAll (entry :: es)) ++ " \x7d".toList)
    exact h.curly (h.commas hes)

/-- The text of an expression has the property if the texts of its parts do, but for templates. -/
theorem compositional (h : Textual T) : Compositional (fun x => T x.toList) (fun e => T e.chars) where
  words := by
    intro x hx
    have hplain : ["Math", "floor", "concat", "Symbol", "for", "_Range"].all
        (fun x => !x.toList.any ('\n' :: Script.strong).contains) = true := by decide
    exact h.plain (by simpa using List.all_eq_true.1 hplain x hx)
  name hx := hx
  number := h.number
  boolean b := by
    cases b with
    | false => exact h.plain (by decide : "false".toList.any _ = false)
    | true => exact h.plain (by decide : "true".toList.any _ = false)
  null := h.plain (by decide : "null".toList.any _ = false)
  undefined := h.plain (by decide : "undefined".toList.any _ = false)
  string text := h.quoted text.toList
  paren he := h.round he
  unary op e he := by
    have hsymbol : T op.symbol.toList := by cases op <;> exact h.plain (by decide)
    exact h.append hsymbol he
  binary op l r hl hr := by
    have htoken : T op.token.toList := by cases op <;> exact h.plain (by decide)
    have hblank : T [' '] := h.plain (by decide)
    exact h.append hl (h.append hblank (h.append htoken (h.append hblank hr)))
  conditional he hc ha :=
    h.append (h.append (h.append (h.append he (h.plain (by decide))) hc) (h.plain (by decide))) ha
  call hf hargs := h.append hf (h.round (h.commas (charsAll hargs)))
  member he hx := h.append he (h.append (h.plain (by decide : ['.'].any _ = false)) hx)
  index he hi := h.append he (h.square hi)
  construct hx hargs := h.append (h.append (h.plain (by decide)) hx) (h.round (h.commas (charsAll hargs)))
  array hes := h.square (h.commas (charsAll hes))
  object hes := h.object (h.entries hes)

theorem argument (h : Textual T) (position : Nat) : T (argument position).toList := h.name (isName_argument position)

end Textual

/-! ## Statements -/

/-- A property of statements that they have from their parts. -/
structure CompositionalStmt (N : String → Prop) (P : Script.Expr → Prop) (Q : Script.Stmt → Prop) : Prop extends
    Compositional N P where
  argument (position : Nat) : N (argument position)
  declare (kind : Tree.VarKind) {x : String} {e : Script.Expr} : N x → P e → Q (.declare kind x e)
  function {x : String} {params : List String} {body : List Script.Stmt} :
    N x → (∀ y ∈ params, N y) → (∀ t ∈ body, Q t) → Q (.function x params body)
  branch {e : Script.Expr} {body : List Script.Stmt} : P e → (∀ t ∈ body, Q t) → Q (.branch e body none)
  branchElse {e : Script.Expr} {body : List Script.Stmt} {alternate : Script.Stmt} :
    P e → (∀ t ∈ body, Q t) → Q alternate → Q (.branch e body (some alternate))
  ret {e : Script.Expr} : P e → Q (.ret e)
  raise (message : String) : Q (.throwError message)
  evaluate {e : Script.Expr} : P e → Q (.expr e)
  block {body : List Script.Stmt} : (∀ t ∈ body, Q t) → Q (.block body)

/-- The names of the statements among some nodes are as a property asks. -/
def Labelled (N : String → Prop) (ns : List Tree.Node) : Prop := ∀ t, .stmt t ∈ ns → ∀ x ∈ t.names, N x

/-- The expressions of some sites have a property, each of them lowered in its scope. -/
def SitesHave (P : Script.Expr → Prop) (sites : List Site) : Prop :=
  ∀ site ∈ sites, P (Lowering.expr site.scope site.expr)

section Statements

variable {N : String → Prop} {P : Script.Expr → Prop} {Q : Script.Stmt → Prop}

theorem sitesHave_cons {site : Site} {sites : List Site} :
    SitesHave P (site :: sites) ↔ P (Lowering.expr site.scope site.expr) ∧ SitesHave P sites :=
  List.forall_mem_cons

theorem sitesHave_append {sites sites' : List Site} :
    SitesHave P (sites ++ sites') ↔ SitesHave P sites ∧ SitesHave P sites' :=
  List.forall_mem_append

theorem labelled_append {ns ns' : List Tree.Node} : Labelled N (ns ++ ns') ↔ Labelled N ns ∧ Labelled N ns' := by
  simp only [Labelled, List.mem_append, or_imp, forall_and]

theorem labelled_cons {t : Tree.Stmt} {ns : List Tree.Node} :
    Labelled N (.stmt t :: ns) ↔ (∀ x ∈ t.names, N x) ∧ Labelled N ns := by
  simp only [Labelled, List.mem_cons, Tree.Node.stmt.injEq, or_imp, forall_and, forall_eq]

namespace CompositionalStmt

variable {ts : List Script.Stmt}

theorem guarded (h : CompositionalStmt N P Q) (ps : List Tree.Pattern) (hts : ∀ t ∈ ts, Q t) :
    Q (guarded (conditions 0 ps) ts) := by
  have hconditions : ∀ e ∈ conditions 0 ps, P e := by
    intro e he
    obtain ⟨op, i, value, -, rfl⟩ := mem_conditions he
    exact h.binary op (h.name (h.argument i)) (h.literal value)
  have hconjunction (e : Script.Expr) (es : List Script.Expr) (he : P e) (hes : ∀ e ∈ es, P e) :
      P (es.foldl (.binary .and) e) := by
    induction es generalizing e with
    | nil => exact he
    | cons e' es ih =>
      rw [List.forall_mem_cons] at hes
      exact ih _ (h.binary .and he hes.1) hes.2
  cases htests : conditions 0 ps with
  | nil => exact h.block hts
  | cons e es =>
    rw [htests, List.forall_mem_cons] at hconditions
    exact h.branch (hconjunction e es hconditions.1 hconditions.2) hts

theorem bindings (h : CompositionalStmt N P Q) {c : Tree.Clause} (hbound : ∀ x ∈ c.bound, N x) :
    ∀ t ∈ bindings 0 c.patterns, Q t := by
  intro t ht
  rw [bindings_eq_map] at ht
  obtain ⟨b, hb, rfl⟩ := List.mem_map.1 ht
  have hmem : b.1 ∈ c.bound := by
    rw [Tree.Clause.bound, ← Tree.map_fst_boundPositions 0]
    exact List.mem_map_of_mem hb
  exact h.declare .const (hbound _ hmem) (h.name (h.argument b.2))

theorem afterGuard (h : CompositionalStmt N P Q) {guard : Option Script.Expr} (hguard : ∀ e ∈ guard, P e)
    (hts : ∀ t ∈ ts, Q t) : ∀ t ∈ afterGuard guard ts, Q t := by
  cases guard with
  | none => exact hts
  | some test => exact List.forall_mem_singleton.2 (h.branch (hguard test rfl) hts)

theorem alternative (h : CompositionalStmt N P Q) (t : Tree.Stmt) {t' : Script.Stmt} (ht : Q t') :
    Q (alternative t t') := by
  unfold Lowering.alternative
  split
  · exact ht
  · exact h.block (List.forall_mem_singleton.2 ht)

mutual

/-- The script of a statement has the property if its expressions do and its names are as it asks. -/
theorem stmt (h : CompositionalStmt N P Q) {s : Scope} : (t : Tree.Stmt) → {t' : Script.Stmt} → stmt s t = .ok t' →
    SitesHave P (stmtSites s t) → Labelled N t.nodes → Q t'
  | .declare kind name value, _, ht, hs, hn => by
    cases ht
    rw [Tree.Stmt.nodes, labelled_cons] at hn
    exact h.declare kind (hn.1 name List.mem_cons_self) (hs _ List.mem_cons_self)
  | .function name params body, _, ht, hs, hn => by
    obtain ⟨body', hb, rfl⟩ := stmt_function_eq_ok ht
    rw [Tree.Stmt.nodes, labelled_cons] at hn
    refine h.function (hn.1 name List.mem_cons_self) (fun x hx => hn.1 x (List.mem_cons_of_mem _ hx)) ?_
    exact h.bodyStmts body hb hs hn.2
  | .clause c, _, ht, _, _ => by cases ht
  | .dispatch name cs, _, ht, hs, hn => by
    obtain ⟨clauses', hc, rfl⟩ := stmt_dispatch_eq_ok ht
    rw [Tree.Stmt.nodes, labelled_cons] at hn
    have hclauses := h.clauseStmts cs hc hs (fun x hx => hn.1 x (List.mem_cons_of_mem _ hx)) hn.2
    refine h.function (hn.1 name List.mem_cons_self) ?_ ?_
    · intro x hx
      obtain ⟨position, -, rfl⟩ := List.mem_map.1 hx
      exact h.argument position
    · exact List.forall_mem_append.2 ⟨hclauses, List.forall_mem_singleton.2 (h.raise _)⟩
  | .branch test consequent none, _, ht, hs, hn => by
    obtain ⟨consequent', hc, rfl⟩ := stmt_branch_eq_ok ht
    rw [stmtSites, sitesHave_cons] at hs
    rw [Tree.Stmt.nodes, labelled_cons, Tree.Stmt.inner, labelled_append] at hn
    exact h.branch hs.1 (h.stmts consequent hc hs.2 hn.2.2)
  | .branch test consequent (some alternate), _, ht, hs, hn => by
    obtain ⟨consequent', alternate', hc, ha, rfl⟩ := stmt_branchElse_eq_ok ht
    rw [stmtSites, sitesHave_cons, sitesHave_append] at hs
    rw [Tree.Stmt.nodes, labelled_cons, Tree.Stmt.inner, labelled_append, labelled_append] at hn
    obtain ⟨-, ⟨-, hconsequent⟩, halternate⟩ := hn
    refine h.branchElse hs.1 (h.stmts consequent hc hs.2.1 hconsequent) ?_
    exact h.alternative alternate (h.stmt alternate ha hs.2.2 halternate)
  | .unless test consequent, _, ht, hs, hn => by
    obtain ⟨consequent', hc, rfl⟩ := stmt_unless_eq_ok ht
    rw [stmtSites, sitesHave_cons] at hs
    rw [Tree.Stmt.nodes, labelled_cons, Tree.Stmt.inner, labelled_append] at hn
    exact h.branch (h.unary .not (h.paren hs.1)) (h.stmts consequent hc hs.2 hn.2.2)
  | .ret value, _, ht, hs, _ => by
    cases ht
    exact h.ret (hs _ List.mem_cons_self)
  | .expr value, _, ht, hs, _ => by
    cases ht
    exact h.evaluate (h.wrapped (hs _ List.mem_cons_self) _)
  | .block body, _, ht, hs, hn => by
    obtain ⟨body', hb, rfl⟩ := stmt_block_eq_ok ht
    rw [Tree.Stmt.nodes, labelled_cons] at hn
    exact h.block (h.stmts body hb hs hn.2)

theorem stmts (h : CompositionalStmt N P Q) {s : Scope} : (ts : List Tree.Stmt) → {ts' : List Script.Stmt} →
    stmts s ts = .ok ts' → SitesHave P (stmtsSites s ts) → Labelled N (Tree.Stmt.nodesAll ts) → ∀ t ∈ ts', Q t
  | [], _, ht, _, _ => by
    cases ht
    intro t ht
    cases ht
  | t :: ts, _, ht, hs, hn => by
    obtain ⟨t', ts', ht', hts, rfl⟩ := stmts_cons_eq_ok ht
    rw [stmtsSites, sitesHave_append] at hs
    rw [Tree.Stmt.nodesAll, ← List.cons_append, labelled_append] at hn
    exact List.forall_mem_cons.2 ⟨h.stmt t ht' hs.1 hn.1, h.stmts ts hts hs.2 hn.2⟩

theorem bodyStmts (h : CompositionalStmt N P Q) {s : Scope} : (ts : List Tree.Stmt) → {ts' : List Script.Stmt} →
    bodyStmts s ts = .ok ts' → SitesHave P (stmtsSites s ts) → Labelled N (Tree.Stmt.nodesAll ts) → ∀ t ∈ ts', Q t
  | [], _, ht, _, _ => by
    cases ht
    intro t ht
    cases ht
  | t :: ts, _, ht, hs, hn => by
    rw [stmtsSites, sitesHave_append] at hs
    rw [Tree.Stmt.nodesAll, ← List.cons_append, labelled_append] at hn
    rcases bodyStmts_cons_eq_ok ht with ⟨value, rfl, rfl, rfl⟩ | ⟨-, t', ts', ht', hts, rfl⟩
    · exact List.forall_mem_singleton.2 (h.ret (hs.1 _ List.mem_cons_self))
    · exact List.forall_mem_cons.2 ⟨h.stmt t ht' hs.1 hn.1, h.bodyStmts ts hts hs.2 hn.2⟩

theorem clauseStmt (h : CompositionalStmt N P Q) {s : Scope} : (c : Tree.Clause) → {t' : Script.Stmt} →
    clauseStmt s c = .ok t' → SitesHave P (clauseSites s c) → (∀ x ∈ c.bound, N x) → Labelled N c.nodes → Q t'
  | ⟨name, patterns, guard, body⟩, _, ht, hs, hbound, hn => by
    obtain ⟨body', hb, rfl⟩ := clauseStmt_mk_eq_ok ht
    rw [clauseSites, sitesHave_append, sitesHave_append] at hs
    obtain ⟨⟨-, hguard⟩, hbody⟩ := hs
    rw [Tree.Clause.nodes, labelled_append] at hn
    refine h.guarded patterns (List.forall_mem_append.2 ⟨h.bindings hbound, ?_⟩)
    refine h.afterGuard ?_ (h.bodyStmts body hb hbody hn.2)
    intro e he
    obtain ⟨test, rfl, rfl⟩ := Option.map_eq_some_iff.1 he
    exact hguard _ List.mem_cons_self

theorem clauseStmts (h : CompositionalStmt N P Q) {s : Scope} : (cs : List Tree.Clause) → {ts' : List Script.Stmt} →
    clauseStmts s cs = .ok ts' → SitesHave P (clausesSites s cs) → (∀ x ∈ cs.flatMap Tree.Clause.bound, N x) →
      Labelled N (Tree.Clause.nodesAll cs) → ∀ t ∈ ts', Q t
  | [], _, ht, _, _, _ => by
    cases ht
    intro t ht
    cases ht
  | c :: cs, _, ht, hs, hbound, hn => by
    obtain ⟨c', cs', hc, hcs, rfl⟩ := clauseStmts_cons_eq_ok ht
    rw [clausesSites, sitesHave_append] at hs
    rw [Tree.Clause.nodesAll, labelled_append] at hn
    rw [List.flatMap_cons, List.forall_mem_append] at hbound
    exact List.forall_mem_cons.2
      ⟨h.clauseStmt c hc hs.1 hbound.1 hn.1, h.clauseStmts cs hcs hs.2 hbound.2 hn.2⟩

end

end CompositionalStmt

end Statements

end Lowering

end TreeScript
