/-
  TreeScript.Proofs.RuntimeNames — every name that a script takes from the library is imported.

  Two walks have to agree: lowering puts names of the library into a script, and usage
  collects the modules. `names` lists all names that a script refers to, and `programSites`
  all expressions of a program with the scope that each is lowered in. Every name in the
  script comes from a node at such a site (`names_expr`, `stems_stmts`), and every node is
  one that usage walks over too (`sites_stmt`). So it is enough to look at single nodes.
-/

import TreeScript.Compile
import TreeScript.Proofs.Clauses
import TreeScript.Proofs.Usage

namespace TreeScript

/-! ## Names in a script -/

namespace Script

mutual

/-- The names that an expression refers to. -/
def Expr.names : Expr → List String
  | .name name => [name]
  | .template parts => TemplatePart.namesAll parts
  | .array elements => Expr.namesAll elements
  | .object entries => Entry.namesAll entries
  | .paren inner => inner.names
  | .call callee args => callee.names ++ Expr.namesAll args
  | .member object _ => object.names
  | .index object position => object.names ++ position.names
  | .construct className args => className :: Expr.namesAll args
  | .unary _ operand => operand.names
  | .binary _ left right => left.names ++ right.names
  | .conditional test consequent alternate => test.names ++ consequent.names ++ alternate.names
  | _ => []

def Expr.namesAll : List Expr → List String
  | [] => []
  | e :: es => e.names ++ Expr.namesAll es

def Entry.namesAll : List Entry → List String
  | [] => []
  | .bare key :: es => key :: Entry.namesAll es
  | .keyed _ value :: es => value.names ++ Entry.namesAll es

def TemplatePart.namesAll : List TemplatePart → List String
  | [] => []
  | .text _ :: ps => TemplatePart.namesAll ps
  | .expr value :: ps => value.names ++ TemplatePart.namesAll ps

end

mutual

def Stmt.names : Stmt → List String
  | .declare _ _ value => value.names
  | .function _ _ body => Stmt.namesAll body
  | .branch test consequent none => test.names ++ Stmt.namesAll consequent
  | .branch test consequent (some alternate) => test.names ++ Stmt.namesAll consequent ++ alternate.names
  | .ret value => value.names
  | .throwError _ => ["Error"]
  | .expr value => value.names
  | .block body => Stmt.namesAll body

def Stmt.namesAll : List Stmt → List String
  | [] => []
  | s :: ss => s.names ++ Stmt.namesAll ss

end

theorem Stmt.namesAll_append (ss ss' : List Stmt) :
    Stmt.namesAll (ss ++ ss') = Stmt.namesAll ss ++ Stmt.namesAll ss' := by
  induction ss with
  | nil => rfl
  | cons s ss ih => simp [Stmt.namesAll, ih]

end Script

namespace Lowering

open TreeScript.Tree (Clause Node Pattern Stmt)

/-! ## Names that a node writes -/

/-- The name that a node puts into the script beside those of its parts. -/
def written? (s : Scope) : Tree.Expr → Option String
  | .identifier name => some (s.spelled name)
  | .call (.identifier f) _ => (s.library.builtinOwner? f).map s.library.spelling
  | .range _ _ _ => some "_Range"
  | .binary .intDiv _ _ => some "Math"
  | .literal (.symbol _) => some "Symbol"
  | _ => none

/-- One of some nodes writes a name. -/
def Written (s : Scope) (ns : List Tree.Expr) (x : String) : Prop := ∃ n ∈ ns, written? s n = some x

section Written

variable {s : Scope} {x : String}

@[simp] theorem written_cons {n : Tree.Expr} {ns : List Tree.Expr} :
    Written s (n :: ns) x ↔ written? s n = some x ∨ Written s ns x := by
  simp [Written]

@[simp] theorem written_append {ns ns' : List Tree.Expr} :
    Written s (ns ++ ns') x ↔ Written s ns x ∨ Written s ns' x := by
  simp [Written, or_and_right, exists_or]

end Written

@[simp] theorem names_wrapped (wrap : Bool) (e : Script.Expr) : (wrapped wrap e).names = e.names := by
  cases wrap <;> rfl

theorem names_literal {s : Scope} {value : Tree.Literal} {x : String} (h : x ∈ (literal value).names) :
    written? s (.literal value) = some x := by
  cases value <;> simp_all [literal, Script.Expr.names, Script.Expr.namesAll, written?]

@[simp] theorem names_infixed (parent : Tree.BinaryOp) (op : Script.Operator) (left right : Tree.Expr)
    (left' right' : Script.Expr) : (infixed parent op left right left' right').names = left'.names ++ right'.names := by
  simp [infixed, Script.Expr.names]

theorem names_binary {s : Scope} {op : Tree.BinaryOp} {left right : Tree.Expr} {left' right' : Script.Expr} {x : String}
    (h : x ∈ (binary op left right left' right').names) :
    written? s (.binary op left right) = some x ∨ x ∈ left'.names ∨ x ∈ right'.names := by
  cases op with
  | intDiv =>
    simp only [binary, Script.Expr.names, Script.Expr.namesAll, names_infixed, List.mem_append, List.mem_singleton,
      List.append_nil] at h
    rcases h with rfl | h
    · exact .inl rfl
    · exact .inr h
  | concat => exact .inr (by simpa [binary, Script.Expr.names, Script.Expr.namesAll] using h)
  | append => exact .inr (by simpa [binary, Script.Expr.names, Script.Expr.namesAll] using h)
  | _ => exact .inr (by simpa [binary] using h)

theorem names_callee {s : Scope} {f : Tree.Expr} {f' : Script.Expr} {x : String} (args : List Tree.Expr)
    (h : x ∈ (callee s f f').names) : written? s (.call f args) = some x ∨ x ∈ f'.names := by
  cases hb : builtin? s f with
  | none =>
    simp only [callee, hb, Option.getD_none, names_wrapped] at h
    exact .inr h
  | some e =>
    simp only [callee, hb, Option.getD_some] at h
    unfold builtin? at hb
    split at hb
    · obtain ⟨owner, howner, rfl⟩ := Option.map_eq_some_iff.1 hb
      have hx : x = s.library.spelling owner := by simpa [Script.Expr.names] using h
      exact .inl (by simp [written?, howner, hx])
    · cases hb

mutual

/-- The names in the script of an expression are written by its nodes. -/
theorem names_expr (s : Scope) {x : String} : (e : Tree.Expr) → x ∈ (expr s e).names → Written s e.nodes x
  | .conditional test consequent alternate, h => by
    simp only [expr, Script.Expr.names, List.mem_append] at h
    simp only [Tree.Expr.nodes, written_cons, written_append]
    rcases h with (h | h) | h
    · exact .inr (.inl (.inl (names_expr s test h)))
    · exact .inr (.inl (.inr (names_expr s consequent h)))
    · exact .inr (.inr (names_expr s alternate h))
  | .binary op left right, h => by
    rw [expr] at h
    simp only [Tree.Expr.nodes, written_cons, written_append]
    rcases names_binary h with h | h | h
    · exact .inl h
    · exact .inr (.inl (names_expr s left h))
    · exact .inr (.inr (names_expr s right h))
  | .unary op operand, h => by
    simp only [expr, Script.Expr.names, names_wrapped] at h
    simp only [Tree.Expr.nodes, written_cons]
    exact .inr (names_expr s operand h)
  | .call f args, h => by
    simp only [expr, Script.Expr.names, List.mem_append] at h
    simp only [Tree.Expr.nodes, written_cons, written_append]
    rcases h with h | h
    · rcases names_callee args h with h | h
      · exact .inl h
      · exact .inr (.inl (names_expr s f h))
    · exact .inr (.inr (names_exprs s args h))
  | .member object property, h => by
    simp only [expr, Script.Expr.names, names_wrapped] at h
    simp only [Tree.Expr.nodes, written_cons]
    exact .inr (names_expr s object h)
  | .index object position, h => by
    simp only [expr, Script.Expr.names, names_wrapped, List.mem_append] at h
    simp only [Tree.Expr.nodes, written_cons, written_append]
    rcases h with h | h
    · exact .inr (.inl (names_expr s object h))
    · exact .inr (.inr (names_expr s position h))
  | .range first last none, h => by
    simp only [expr, Script.Expr.names, Script.Expr.namesAll, List.mem_cons, List.mem_append, List.append_nil] at h
    simp only [Tree.Expr.nodes, written_cons, written_append]
    rcases h with rfl | h | h
    · exact .inl rfl
    · exact .inr (.inl (names_expr s first h))
    · exact .inr (.inr (names_expr s last h))
  | .range first last (some step), h => by
    simp only [expr, Script.Expr.names, Script.Expr.namesAll, List.mem_cons, List.mem_append, List.append_nil] at h
    simp only [Tree.Expr.nodes, written_cons, written_append]
    rcases h with rfl | h | h | h
    · exact .inl rfl
    · exact .inr (.inl (.inl (names_expr s first h)))
    · exact .inr (.inl (.inr (names_expr s last h)))
    · exact .inr (.inr (names_expr s step h))
  | .array elements, h => by
    simp only [expr, Script.Expr.names] at h
    simp only [Tree.Expr.nodes, written_cons]
    exact .inr (names_exprs s elements h)
  | .object properties, h => by
    simp only [expr, Script.Expr.names] at h
    simp only [Tree.Expr.nodes, written_cons]
    exact .inr (names_entries s properties h)
  | .identifier name, h => by
    simp only [expr, Script.Expr.names, List.mem_singleton] at h
    simp [Tree.Expr.nodes, written?, h]
  | .literal value, h => by
    rw [expr] at h
    simp only [Tree.Expr.nodes, written_cons]
    exact .inl (names_literal h)
  | .undefined, h => by simp [expr, Script.Expr.names] at h
  | .interpolated parts, h => by
    simp only [expr, Script.Expr.names] at h
    simp only [Tree.Expr.nodes, written_cons]
    exact .inr (names_templateParts s parts h)

theorem names_exprs (s : Scope) {x : String} : (es : List Tree.Expr) → x ∈ Script.Expr.namesAll (exprs s es) →
    Written s (Tree.Expr.nodesAll es) x
  | [], h => by simp [exprs, Script.Expr.namesAll] at h
  | e :: es, h => by
    simp only [exprs, Script.Expr.namesAll, List.mem_append] at h
    simp only [Tree.Expr.nodesAll, written_append]
    rcases h with h | h
    · exact .inl (names_expr s e h)
    · exact .inr (names_exprs s es h)

theorem names_entries (s : Scope) {x : String} : (ps : List Tree.Property) → x ∈ Script.Entry.namesAll (entries s ps) →
    Written s (Tree.Property.nodesAll ps) x
  | [], h => by simp [entries, Script.Entry.namesAll] at h
  | ⟨key, value, shorthand⟩ :: ps, h => by
    have hentry : x ∈ (if isBare s key shorthand value then [key] else (expr s value).names) ∨
        x ∈ Script.Entry.namesAll (entries s ps) := by
      rw [entries] at h
      split at h <;> simpa [*, Script.Entry.namesAll] using h
    rw [Tree.Property.nodesAll, written_append]
    rcases hentry with hx | hx
    · left
      split at hx
      · rename_i hbare
        obtain ⟨rfl, hkey⟩ := isBare_iff hbare
        rw [List.mem_singleton.1 hx]
        simp [Tree.Expr.nodes, written?, hkey]
      · exact names_expr s value hx
    · exact .inr (names_entries s ps hx)

theorem names_templateParts (s : Scope) {x : String} : (ps : List Tree.Part) →
    x ∈ Script.TemplatePart.namesAll (templateParts s ps) → Written s (Tree.Part.nodesAll ps) x
  | [], h => by simp [templateParts, Script.TemplatePart.namesAll] at h
  | .text text :: ps, h => names_templateParts s ps h
  | .expr value :: ps, h => by
    simp only [templateParts, Script.TemplatePart.namesAll, List.mem_append] at h
    simp only [Tree.Part.nodesAll, written_append]
    rcases h with h | h
    · exact .inl (names_expr s value h)
    · exact .inr (names_templateParts s ps h)

end

/-! ## Sites -/

/-- An expression of a program, and the scope that it is lowered in. -/
structure Site where
  scope : Scope
  expr : Tree.Expr

def patternSites (s : Scope) : Pattern → List Site
  | .literal value => [⟨s, .literal value⟩]
  | _ => []

mutual

/-- The expressions that stand in a statement and in those inside it. -/
def stmtSites (s : Scope) : Stmt → List Site
  | .declare _ _ value => [⟨s, value⟩]
  | .function _ params body => stmtsSites ((s.binding params).binding (declared body)) body
  | .clause c => clauseSites s c
  | .dispatch _ clauses => clausesSites s clauses
  | .branch test consequent none => ⟨s, test⟩ :: stmtsSites (s.binding (declared consequent)) consequent
  | .branch test consequent (some alternate) =>
    ⟨s, test⟩ :: (stmtsSites (s.binding (declared consequent)) consequent ++
      stmtSites (s.binding alternate.declared?.toList) alternate)
  | .unless test consequent => ⟨s, test⟩ :: stmtsSites (s.binding (declared consequent)) consequent
  | .ret value => [⟨s, value⟩]
  | .expr value => [⟨s, value⟩]
  | .block body => stmtsSites (s.binding (declared body)) body

def stmtsSites (s : Scope) : List Stmt → List Site
  | [] => []
  | t :: ts => stmtSites s t ++ stmtsSites s ts

def clauseSites (s : Scope) : Clause → List Site
  | ⟨_, patterns, guard, body⟩ =>
    let inner := s.binding (patterns.filterMap Pattern.bound?)
    patterns.flatMap (patternSites s) ++ guard.toList.map (Site.mk inner) ++
      stmtsSites (inner.binding (declared body)) body

def clausesSites (s : Scope) : List Clause → List Site
  | [] => []
  | c :: cs => clauseSites s c ++ clausesSites s cs

end

/-- All expressions of a program. Its top level binds what it declares. -/
def programSites (lib : Library) (p : Tree.Program) : List Site :=
  p.body.flatMap (stmtSites ⟨lib, declared p.gathered.body⟩)

theorem stmtsSites_eq_flatMap (s : Scope) (ts : List Stmt) : stmtsSites s ts = ts.flatMap (stmtSites s) := by
  induction ts with
  | nil => rfl
  | cons t ts ih => rw [stmtsSites, ih, List.flatMap_cons]

theorem clausesSites_eq_flatMap (s : Scope) (cs : List Clause) : clausesSites s cs = cs.flatMap (clauseSites s) := by
  induction cs with
  | nil => rfl
  | cons c cs ih => rw [clausesSites, ih, List.flatMap_cons]

/-- A program has its expressions where its gathered form has them. -/
theorem programSites_eq (lib : Library) (p : Tree.Program) :
    programSites lib p = stmtsSites ⟨lib, declared p.gathered.body⟩ p.gathered.body := by
  rw [programSites, stmtsSites_eq_flatMap, Tree.Program.gathered]
  refine (Tree.flatMap_gather _ ?_ ?_ p.body).symm
  · intro name c cs
    exact clausesSites_eq_flatMap _ _
  · intro name params body
    have hbound : (params.map Pattern.binding).filterMap Pattern.bound? = params := by
      simp [List.filterMap_map, Function.comp_def, Pattern.bound?]
    have hpatterns (s : Scope) : (params.map Pattern.binding).flatMap (patternSites s) = [] := by
      simp [List.flatMap_map, patternSites]
    simp [stmtSites, clauseSites, Tree.catchAllClause, hbound, hpatterns]

/-- A site of some nodes: it stands against the library, and its nodes are among them. -/
def Site.Of (lib : Library) (ns : List Node) (site : Site) : Prop :=
  site.scope.library = lib ∧ ∀ n ∈ site.expr.nodes, .expr n ∈ ns

theorem Site.Of.mono {lib : Library} {ns ns' : List Node} {site : Site} (h : site.Of lib ns) (hns : ns ⊆ ns') :
    site.Of lib ns' :=
  ⟨h.1, fun n hn => hns (h.2 n hn)⟩

theorem Site.of_map (s : Scope) (e : Tree.Expr) : Site.Of s.library (e.nodes.map .expr) ⟨s, e⟩ :=
  ⟨rfl, fun _ hn => List.mem_map_of_mem hn⟩

theorem sites_pattern {s : Scope} {site : Site} {p : Pattern} (h : site ∈ patternSites s p) :
    site.Of s.library p.nodes := by
  cases p with
  | literal value =>
    rw [List.mem_singleton.1 h]
    exact Site.of_map s (.literal value)
  | wildcard => cases h
  | binding name => cases h

mutual

/-- Every node at a site of a statement is a node of the statement. -/
theorem sites_stmt (s : Scope) {site : Site} : (t : Stmt) → site ∈ stmtSites s t → site.Of s.library t.inner
  | .declare kind name value, h => by
    rw [List.mem_singleton.1 h]
    exact Site.of_map s value
  | .function name params body, h => sites_stmts ((s.binding params).binding (declared body)) body h
  | .clause c, h => sites_clause s c h
  | .dispatch name clauses, h => sites_clauses s clauses h
  | .branch test consequent none, h => by
    rw [Stmt.inner]
    rcases List.mem_cons.1 h with rfl | h
    · exact (Site.of_map s test).mono (List.subset_append_left _ _)
    · exact (sites_stmts _ consequent h).mono (List.subset_append_right _ _)
  | .branch test consequent (some alternate), h => by
    rw [Stmt.inner]
    rw [stmtSites, List.mem_cons, List.mem_append] at h
    rcases h with rfl | h | h
    · exact (Site.of_map s test).mono (List.subset_append_of_subset_left _ (List.subset_append_left _ _))
    · exact (sites_stmts _ consequent h).mono (List.subset_append_of_subset_left _ (List.subset_append_right _ _))
    · exact (sites_stmt _ alternate h).mono (List.subset_append_of_subset_right _ (List.subset_cons_self _ _))
  | .unless test consequent, h => by
    rw [Stmt.inner]
    rcases List.mem_cons.1 h with rfl | h
    · exact (Site.of_map s test).mono (List.subset_append_left _ _)
    · exact (sites_stmts _ consequent h).mono (List.subset_append_right _ _)
  | .ret value, h => by
    rw [List.mem_singleton.1 h]
    exact Site.of_map s value
  | .expr value, h => by
    rw [List.mem_singleton.1 h]
    exact Site.of_map s value
  | .block body, h => sites_stmts (s.binding (declared body)) body h

theorem sites_stmts (s : Scope) {site : Site} : (ts : List Stmt) → site ∈ stmtsSites s ts →
    site.Of s.library (Stmt.nodesAll ts)
  | [], h => by cases h
  | t :: ts, h => by
    rw [Stmt.nodesAll]
    rcases List.mem_append.1 h with h | h
    · exact (sites_stmt s t h).mono (List.subset_cons_of_subset _ (List.subset_append_left _ _))
    · exact (sites_stmts s ts h).mono (List.subset_cons_of_subset _ (List.subset_append_right _ _))

theorem sites_clause (s : Scope) {site : Site} : (c : Clause) → site ∈ clauseSites s c → site.Of s.library c.nodes
  | ⟨name, patterns, guard, body⟩, h => by
    rw [Clause.nodes]
    rw [clauseSites, List.mem_append, List.mem_append] at h
    rcases h with (h | h) | h
    · obtain ⟨p, hp, h⟩ := List.mem_flatMap.1 h
      exact (sites_pattern h).mono fun n hn =>
        List.mem_append_left _ (List.mem_append_left _ (List.mem_flatMap.2 ⟨p, hp, hn⟩))
    · obtain ⟨e, he, rfl⟩ := List.mem_map.1 h
      exact (Site.of_map _ e).mono fun n hn =>
        List.mem_append_left _ (List.mem_append_right _ (List.mem_flatMap.2 ⟨e, he, hn⟩))
    · exact (sites_stmts _ body h).mono (List.subset_append_right _ _)

theorem sites_clauses (s : Scope) {site : Site} : (cs : List Clause) → site ∈ clausesSites s cs →
    site.Of s.library (Clause.nodesAll cs)
  | [], h => by cases h
  | c :: cs, h => by
    rw [Clause.nodesAll]
    rcases List.mem_append.1 h with h | h
    · exact (sites_clause s c h).mono (List.subset_append_left _ _)
    · exact (sites_clauses s cs h).mono (List.subset_append_right _ _)

end

/-! ## Names in the script of a statement -/

/-- A name that a dispatcher is built with: one of its parameters, or the error that it throws. -/
def Synthesized (x : String) : Prop := x = "Error" ∨ ∃ position, x = argument position

/-- A name comes from some sites, or a dispatcher is built with it. -/
def Stems (sites : List Site) (x : String) : Prop :=
  Synthesized x ∨ ∃ site ∈ sites, Written site.scope site.expr.nodes x

theorem Stems.mono {sites sites' : List Site} {x : String} (h : Stems sites x) (hs : sites ⊆ sites') :
    Stems sites' x := by
  rcases h with h | ⟨site, hsite, h⟩
  · exact .inl h
  · exact .inr ⟨site, hs hsite, h⟩

theorem stems_expr {s : Scope} {e : Tree.Expr} {x : String} (h : x ∈ (expr s e).names) {sites : List Site}
    (hs : ⟨s, e⟩ ∈ sites) : Stems sites x :=
  .inr ⟨_, hs, names_expr s e h⟩

theorem stems_conditions (s : Scope) {x : String} (position : Nat) (ps : List Pattern)
    (h : x ∈ (conditions position ps).flatMap Script.Expr.names) : Stems (ps.flatMap (patternSites s)) x := by
  induction ps generalizing position with
  | nil => cases h
  | cons p ps ih =>
    rw [List.flatMap_cons]
    cases p with
    | literal value =>
      simp only [conditions, List.flatMap_cons, Script.Expr.names, List.mem_append, List.mem_singleton] at h
      rcases h with (rfl | h) | h
      · exact .inl (.inr ⟨position, rfl⟩)
      · refine stems_expr (e := .literal value) (s := s) ?_ (by simp [patternSites])
        rwa [expr]
      · exact (ih _ h).mono (List.subset_append_right _ _)
    | wildcard => exact ih _ h
    | binding name => exact ih _ h

theorem synthesized_bindings {x : String} (position : Nat) (ps : List Pattern)
    (h : x ∈ Script.Stmt.namesAll (bindings position ps)) : Synthesized x := by
  induction ps generalizing position with
  | nil => cases h
  | cons p ps ih =>
    cases p with
    | binding name =>
      simp only [bindings, Script.Stmt.namesAll, Script.Stmt.names, Script.Expr.names, List.mem_append,
        List.mem_singleton] at h
      rcases h with rfl | h
      · exact .inr ⟨position, rfl⟩
      · exact ih _ h
    | literal value => exact ih _ h
    | wildcard => exact ih _ h

theorem names_guarded (tests : List Script.Expr) (body : List Script.Stmt) :
    (guarded tests body).names = tests.flatMap Script.Expr.names ++ Script.Stmt.namesAll body := by
  have hconjunction (e : Script.Expr) (es : List Script.Expr) :
      (es.foldl (.binary .and) e).names = e.names ++ es.flatMap Script.Expr.names := by
    induction es generalizing e with
    | nil => simp
    | cons e' es ih => simp [ih, Script.Expr.names]
  cases tests with
  | nil => rfl
  | cons e es => simp [guarded, conjunction, Script.Stmt.names, hconjunction]

theorem names_afterGuard (guard : Option Script.Expr) (body : List Script.Stmt) :
    Script.Stmt.namesAll (afterGuard guard body) = guard.toList.flatMap Script.Expr.names ++ Script.Stmt.namesAll body := by
  cases guard <;> simp [afterGuard, Script.Stmt.namesAll, Script.Stmt.names]

theorem names_alternative (t : Stmt) (t' : Script.Stmt) : (alternative t t').names = t'.names := by
  unfold alternative
  split
  · rfl
  · simp [Script.Stmt.names, Script.Stmt.namesAll]

mutual

/-- The names in the script of a statement come from its sites. -/
theorem stems_stmt (s : Scope) {x : String} : (t : Stmt) → {t' : Script.Stmt} → stmt s t = .ok t' → x ∈ t'.names →
    Stems (stmtSites s t) x
  | .declare kind name value, _, ht, h => by
    cases ht
    exact stems_expr h List.mem_cons_self
  | .function name params body, _, ht, h => by
    obtain ⟨body', hb, rfl⟩ := stmt_function_eq_ok ht
    exact stems_bodyStmts _ body hb h
  | .clause c, _, ht, _ => by cases ht
  | .dispatch name cs, _, ht, h => by
    obtain ⟨clauses', hc, rfl⟩ := stmt_dispatch_eq_ok ht
    rw [Script.Stmt.names, Script.Stmt.namesAll_append, List.mem_append] at h
    rcases h with h | h
    · exact stems_clauseStmts s cs hc h
    · exact .inl (.inl (List.mem_singleton.1 h))
  | .branch test consequent none, _, ht, h => by
    obtain ⟨consequent', hc, rfl⟩ := stmt_branch_eq_ok ht
    rw [Script.Stmt.names, List.mem_append] at h
    rcases h with h | h
    · exact stems_expr h List.mem_cons_self
    · exact (stems_stmts _ consequent hc h).mono (List.subset_cons_self _ _)
  | .branch test consequent (some alternate), _, ht, h => by
    obtain ⟨consequent', alternate', hc, ha, rfl⟩ := stmt_branchElse_eq_ok ht
    rw [Script.Stmt.names, names_alternative, List.mem_append, List.mem_append] at h
    rw [stmtSites]
    rcases h with (h | h) | h
    · exact stems_expr h List.mem_cons_self
    · exact (stems_stmts _ consequent hc h).mono (List.subset_cons_of_subset _ (List.subset_append_left _ _))
    · exact (stems_stmt _ alternate ha h).mono (List.subset_cons_of_subset _ (List.subset_append_right _ _))
  | .unless test consequent, _, ht, h => by
    obtain ⟨consequent', hc, rfl⟩ := stmt_unless_eq_ok ht
    rw [Script.Stmt.names, List.mem_append] at h
    rcases h with h | h
    · exact stems_expr h List.mem_cons_self
    · exact (stems_stmts _ consequent hc h).mono (List.subset_cons_self _ _)
  | .ret value, _, ht, h => by
    cases ht
    exact stems_expr h List.mem_cons_self
  | .expr value, _, ht, h => by
    cases ht
    rw [Script.Stmt.names, names_wrapped] at h
    exact stems_expr h List.mem_cons_self
  | .block body, _, ht, h => by
    obtain ⟨body', hb, rfl⟩ := stmt_block_eq_ok ht
    exact stems_stmts _ body hb h

theorem stems_stmts (s : Scope) {x : String} : (ts : List Stmt) → {ts' : List Script.Stmt} → stmts s ts = .ok ts' →
    x ∈ Script.Stmt.namesAll ts' → Stems (stmtsSites s ts) x
  | [], _, ht, h => by
    cases ht
    cases h
  | t :: ts, _, ht, h => by
    obtain ⟨t', ts', ht', hts', rfl⟩ := stmts_cons_eq_ok ht
    rw [stmtsSites]
    rcases List.mem_append.1 h with h | h
    · exact (stems_stmt s t ht' h).mono (List.subset_append_left _ _)
    · exact (stems_stmts s ts hts' h).mono (List.subset_append_right _ _)

theorem stems_bodyStmts (s : Scope) {x : String} : (ts : List Stmt) → {ts' : List Script.Stmt} →
    bodyStmts s ts = .ok ts' → x ∈ Script.Stmt.namesAll ts' → Stems (stmtsSites s ts) x
  | [], _, ht, h => by
    cases ht
    cases h
  | t :: ts, _, ht, h => by
    rcases bodyStmts_cons_eq_ok ht with ⟨value, rfl, rfl, rfl⟩ | ⟨-, t', ts', ht', hts', rfl⟩
    · rcases List.mem_append.1 h with h | h
      · exact stems_expr h List.mem_cons_self
      · cases h
    · rw [stmtsSites]
      rcases List.mem_append.1 h with h | h
      · exact (stems_stmt s t ht' h).mono (List.subset_append_left _ _)
      · exact (stems_bodyStmts s ts hts' h).mono (List.subset_append_right _ _)

theorem stems_clauseStmt (s : Scope) {x : String} : (c : Clause) → {t' : Script.Stmt} → clauseStmt s c = .ok t' →
    x ∈ t'.names → Stems (clauseSites s c) x
  | ⟨name, patterns, guard, body⟩, _, ht, h => by
    obtain ⟨body', hb, rfl⟩ := clauseStmt_mk_eq_ok ht
    rw [names_guarded, Script.Stmt.namesAll_append, names_afterGuard] at h
    rw [clauseSites]
    simp only [List.mem_append] at h
    rcases h with h | h | h | h
    · exact (stems_conditions s 0 patterns h).mono (List.subset_append_of_subset_left _ (List.subset_append_left _ _))
    · exact .inl (synthesized_bindings 0 patterns h)
    · cases guard with
      | none => cases h
      | some guard =>
        rw [Option.map_some, Option.toList_some, List.flatMap_singleton] at h
        exact stems_expr h (by simp)
    · exact (stems_bodyStmts _ body hb h).mono (List.subset_append_right _ _)

theorem stems_clauseStmts (s : Scope) {x : String} : (cs : List Clause) → {ts' : List Script.Stmt} →
    clauseStmts s cs = .ok ts' → x ∈ Script.Stmt.namesAll ts' → Stems (clausesSites s cs) x
  | [], _, ht, h => by
    cases ht
    cases h
  | c :: cs, _, ht, h => by
    obtain ⟨c', cs', hc', hcs', rfl⟩ := clauseStmts_cons_eq_ok ht
    rw [clausesSites]
    rcases List.mem_append.1 h with h | h
    · exact (stems_clauseStmt s c hc' h).mono (List.subset_append_left _ _)
    · exact (stems_clauseStmts s cs hcs' h).mono (List.subset_append_right _ _)

end

end Lowering

/-! ## What the library exports -/

namespace Library

/-- Whether a module exports a name. -/
def exports (lib : Library) (key name : String) : Bool := (lib.module? key).any fun m => name ∈ m.exports

theorem exports_iff {lib : Library} {key name : String} :
    lib.exports key name = true ↔ ∃ m, lib.module? key = some m ∧ name ∈ m.exports := by
  simp [exports, Option.any_eq_true]

/-- A library whose modules export all names that scripts use for them. -/
structure Coherent (lib : Library) : Prop where
  range : lib.exports "RangeLiteral" "_Range" = true
  builtins : ∀ e ∈ lib.builtins, lib.exports e.2 (lib.spelling e.2) = true
  facilities : ∀ e ∈ lib.facilities, lib.builtinOwner? e.1 = none ∧ lib.exports e.2 (lib.spelling e.1) = true

theorem coherent_standard : standard.Coherent := ⟨by decide, by decide, by decide⟩

theorem mem_of_lookup {α : Type} {t : Table String α} {key : String} {value : α} (h : t.lookup key = some value) :
    (key, value) ∈ t := by
  obtain ⟨l₁, l₂, rfl, -⟩ := List.lookup_eq_some_iff.1 h
  simp

end Library

namespace Lowering

/-- The name of the library that a node puts into a script: the object that a built-in is called on, the
constructor of ranges, or what a free name of a facility is spelled. -/
def runtimeName? (s : Scope) : Tree.Expr → Option String
  | .call (.identifier f) _ => (s.library.builtinOwner? f).map s.library.spelling
  | .range _ _ _ => some "_Range"
  | .identifier name => if name ∉ s.bound ∧ s.library.facility? name ≠ none then some (s.spelled name) else none
  | _ => none

/-- A node that puts a name of the library into a script calls, itself or through its callee, for a module
that exports the name. -/
theorem calls_of_runtimeName? {s : Scope} (hlib : s.library.Coherent) {n : Tree.Expr} {x : String}
    (h : runtimeName? s n = some x) :
    ∃ key, s.library.exports key x = true ∧ ∃ n' ∈ n.nodes, key ∈ s.library.calls (.expr n') := by
  unfold runtimeName? at h
  split at h
  · rename_i f args
    obtain ⟨owner, howner, rfl⟩ := Option.map_eq_some_iff.1 h
    refine ⟨owner, hlib.builtins _ (Library.mem_of_lookup howner), .identifier f, ?_, ?_⟩
    · exact List.mem_cons_of_mem _ (List.mem_append_left _ (Tree.Expr.self_mem_nodes _))
    · simp [Library.calls, Library.nameModule?, howner]
  · rename_i first last step
    cases h
    obtain ⟨m, hm, -⟩ := Library.exports_iff.1 hlib.range
    refine ⟨_, hlib.range, _, Tree.Expr.self_mem_nodes _, ?_⟩
    simp [Library.calls, Library.nodeModule?, Tree.Expr.kind, hm]
  · rename_i name
    split at h
    · rename_i hfree
      obtain ⟨hbound, hfacility⟩ := hfree
      obtain ⟨key, hkey⟩ := Option.ne_none_iff_exists'.1 hfacility
      obtain ⟨hbuiltin, hexports⟩ := hlib.facilities _ (Library.mem_of_lookup hkey)
      cases h
      refine ⟨key, ?_, _, Tree.Expr.self_mem_nodes _, ?_⟩
      · simpa [Scope.spelled, hbound] using hexports
      · simp [Library.calls, Library.nameModule?, hbuiltin, hkey]
    · cases h
  · cases h

/-- A name that a node writes is one of the library, a name of the program's own or a global of scripts. -/
theorem written?_cases {s : Scope} {n : Tree.Expr} {x : String} (h : written? s n = some x) :
    runtimeName? s n = some x ∨
      (∃ name, n = .identifier name ∧ x = s.spelled name ∧ (name ∈ s.bound ∨ s.library.facility? name = none)) ∨
        x = "Math" ∨ x = "Symbol" := by
  unfold written? at h
  split at h
  · rename_i name
    cases h
    by_cases hfree : name ∉ s.bound ∧ s.library.facility? name ≠ none
    · exact .inl (by rw [runtimeName?, if_pos hfree])
    · exact .inr (.inl ⟨name, rfl, rfl, by tauto⟩)
  · exact .inl h
  · exact .inl h
  · cases h
    exact .inr (.inr (.inl rfl))
  · cases h
    exact .inr (.inr (.inr rfl))
  · cases h

/-- The parts of a compiled program. -/
theorem compile_eq_ok {lib : Library} {p : Tree.Program} {out : Output} (h : compile lib p = .ok out) :
    stmts ⟨lib, declared p.gathered.body⟩ p.gathered.body = .ok out.script.body ∧
      out.modules = lib.needed p.gathered ∧
      out.script.imports = out.modules.filterMap fun key => (lib.module? key).map Library.Module.binding := by
  rw [compile, program] at h
  obtain ⟨body, hb, h⟩ := bind_eq_ok.1 h
  cases h
  exact ⟨hb, rfl, rfl⟩

/-- Every name of the library in a script is exported by a module that the script imports, and every other
name in it is the program's own, a global of scripts or made for a dispatcher. -/
theorem runtime_names_imported (p : Tree.Program) (out : Output) (h : compileWith .standard p = .ok out) :
    (∀ site ∈ programSites .standard p, ∀ n ∈ site.expr.nodes, ∀ x, runtimeName? site.scope n = some x →
      ∃ key ∈ out.modules, ∃ m, Library.standard.module? key = some m ∧ x ∈ m.exports ∧
        m.binding ∈ out.script.imports) ∧
      ∀ x ∈ Script.Stmt.namesAll out.script.body,
        (∃ site ∈ programSites .standard p, ∃ n ∈ site.expr.nodes, runtimeName? site.scope n = some x ∨
          ∃ name, n = .identifier name ∧ x = site.scope.spelled name ∧
            (name ∈ site.scope.bound ∨ Library.standard.facility? name = none)) ∨
          x ∈ ["Math", "Symbol", "Error"] ∨ ∃ position, x = argument position := by
  obtain ⟨hbody, hmodules, himports⟩ := compile_eq_ok (mapError_eq_ok.1 h)
  rw [programSites_eq]
  have hsites {site : Site} (hs : site ∈ stmtsSites ⟨.standard, declared p.gathered.body⟩ p.gathered.body) :
      site.Of .standard (Tree.Stmt.nodesAll p.gathered.body) := sites_stmts _ _ hs
  constructor
  · intro site hs n hn x hx
    obtain ⟨hlib, hnodes⟩ := hsites hs
    obtain ⟨key, hexports, n', hn', hcalls⟩ := calls_of_runtimeName? (hlib ▸ Library.coherent_standard) hx
    rw [hlib] at hexports hcalls
    obtain ⟨m, hm, hxm⟩ := Library.exports_iff.1 hexports
    have hused : key ∈ Library.standard.used p.gathered :=
      Library.mem_used.2 ⟨_, hnodes n' (site.expr.closed_nodes n hn hn'), hcalls⟩
    have hkey : key ∈ out.modules := hmodules ▸ Library.used_subset_needed _ _ hused
    refine ⟨key, hkey, m, hm, hxm, ?_⟩
    rw [himports]
    exact List.mem_filterMap.2 ⟨key, hkey, by simp [hm]⟩
  · intro x hx
    rcases stems_stmts _ _ hbody hx with h | ⟨site, hs, n, hn, hw⟩
    · rcases h with rfl | h
      · exact .inr (.inl (by simp))
      · exact .inr (.inr h)
    · rcases written?_cases hw with h | h | rfl | rfl
      · exact .inl ⟨site, hs, n, hn, .inl h⟩
      · rw [(hsites hs).1] at h
        exact .inl ⟨site, hs, n, hn, .inr h⟩
      · exact .inr (.inl (by simp))
      · exact .inr (.inl (by simp))

/-- A facility as the step of a range, inside an interpolation, inside a property. -/
def span : Tree.Expr :=
  .object [⟨"span", .interpolated [.expr (.range (.identifier "n") .undefined (some (.identifier "String")))], false⟩]

def spans : Tree.Program := ⟨[
  .clause ⟨"spans", [.binding "n"], some (.call (.identifier "is_even") [.identifier "n"]), [.expr span]⟩]⟩

theorem runtime_names_imported_spans : ∃ out, compileWith .standard spans = .ok out ∧
    "Str" ∈ Script.Stmt.namesAll out.script.body ∧
      ∃ key ∈ out.modules, ∃ m, Library.standard.module? key = some m ∧ "Str" ∈ m.exports ∧
        m.binding ∈ out.script.imports := by
  refine ⟨_, rfl, by decide, ?_⟩
  have hsite : ⟨⟨.standard, ["spans", "n"]⟩, span⟩ ∈ programSites .standard spans :=
    List.mem_cons_of_mem _ List.mem_cons_self
  have hnode : .identifier "String" ∈ span.nodes := by
    simp [span, Tree.Expr.nodes, Tree.Property.nodesAll, Tree.Part.nodesAll]
  exact (runtime_names_imported spans _ rfl).1 _ hsite _ hnode "Str" rfl

end Lowering

end TreeScript
