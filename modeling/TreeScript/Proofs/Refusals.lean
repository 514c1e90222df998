/-
  TreeScript.Proofs.Refusals — which programs have no script, and what their users are told.

  Two kinds of statements have no script: a clause below the top level, and a dispatcher
  without clauses. A lowering comes to the first of them in document order (`Meets`). The
  failure is given the name of its own node where it arises, so that no function it passes
  out of on its way can put in another one (`Meets.within`). At the top level the clauses
  are gathered first, which moves no node before another.
-/

import TreeScript.Compile
import TreeScript.Proofs.Gathering
import TreeScript.Proofs.Nodes

namespace TreeScript

namespace Tree

/-- A node of a program, and whether it stands below the top level. -/
structure Place where
  nested : Bool
  node : Node

/-- All nodes of a program, in document order. -/
def Program.places (p : Program) : List Place :=
  p.body.flatMap fun s => ⟨false, .stmt s⟩ :: s.inner.map (⟨true, ·⟩)

/-- What is said of a node that has no script. -/
def Place.complaint? : Place → Option Diagnostic
  | ⟨true, .stmt (.clause c)⟩ =>
    some
      { header := "unmerged pattern clause",
        footer := "Help: pattern clauses are only merged into functions at the top level of a program.",
        function := some c.name }
  | ⟨_, .stmt (.dispatch name [])⟩ =>
    some
      { header := "pattern function without clauses",
        footer := "Help: dispatchers are built from at least one clause.",
        function := some name }
  | _ => none

end Tree

namespace Lowering

open TreeScript.Tree (Clause Node Place Stmt)

/-! ## Failures of nodes -/

/-- Why a node below the top level has no script. -/
def failure? : Node → Option Failure
  | .stmt (.clause c) => some ⟨.strayClause, some c.name⟩
  | .stmt (.dispatch name []) => some ⟨.emptyDispatch, some name⟩
  | _ => none

def failures (ns : List Node) : List Failure := ns.filterMap failure?

@[simp] theorem failures_nil : failures [] = [] := rfl

@[simp] theorem failures_append (ns ns' : List Node) : failures (ns ++ ns') = failures ns ++ failures ns' :=
  List.filterMap_append

@[simp] theorem failures_exprs (es : List Tree.Expr) : failures (es.map .expr) = [] := by
  simp [failures, failure?]

theorem failures_cons {n : Node} (h : failure? n = none) (ns : List Node) : failures (n :: ns) = failures ns :=
  List.filterMap_cons_none h

theorem failures_clause (c : Clause) : failures c.nodes = failures (Stmt.nodesAll c.body) := by
  obtain ⟨name, patterns, guard, body⟩ := c
  have hpatterns : failures (patterns.flatMap Tree.Pattern.nodes) = [] := by
    refine List.filterMap_eq_nil_iff.2 fun n hn => ?_
    obtain ⟨p, -, hn⟩ := List.mem_flatMap.1 hn
    cases p with
    | literal value =>
      rw [List.mem_singleton.1 hn]
      rfl
    | wildcard => cases hn
    | binding name => cases hn
  have hguard : failures (guard.toList.flatMap (·.nodes.map .expr)) = [] := by
    cases guard <;> simp
  simp [Clause.nodes, hpatterns, hguard]

/-- A failure of a node names the node. -/
theorem named_of_mem_failures {ns : List Node} {f : Failure} (h : f ∈ failures ns) : f.function ≠ none := by
  obtain ⟨n, -, hn⟩ := List.mem_filterMap.1 h
  unfold failure? at hn
  split at hn <;> cases hn <;> simp

/-! ## The first failure -/

/-- A lowering comes to the first of some failures, and to a script if there is none. -/
def Meets {α : Type} (x : Except Failure α) : List Failure → Prop
  | [] => ∃ a, x = .ok a
  | f :: _ => x = .error f

namespace Meets

variable {α β : Type} {x : Except Failure α} {fs gs : List Failure}

theorem ok (a : α) : Meets (.ok a : Except Failure α) [] := ⟨a, rfl⟩

theorem bind {k : α → Except Failure β} (hx : Meets x fs) (hk : ∀ a, Meets (k a) gs) : Meets (x >>= k) (fs ++ gs) := by
  cases fs with
  | nil =>
    obtain ⟨a, rfl⟩ := hx
    exact hk a
  | cons f fs =>
    cases hx
    exact rfl

theorem thenOk (hx : Meets x fs) (k : α → β) : Meets (x >>= fun a => pure (k a)) fs := by
  have h : Meets (x >>= fun a => pure (k a)) (fs ++ []) := hx.bind fun a => ⟨k a, rfl⟩
  rwa [List.append_nil] at h

/-- Passing out of a function changes no failure that has a name. -/
theorem within (hx : Meets x fs) (hnamed : ∀ f ∈ fs, f.function ≠ none) (name : String) :
    Meets (x.mapError (·.within name)) fs := by
  cases fs with
  | nil =>
    obtain ⟨a, rfl⟩ := hx
    exact ⟨a, rfl⟩
  | cons f fs =>
    obtain ⟨fault, function⟩ := f
    obtain ⟨own, hown⟩ := Option.ne_none_iff_exists'.1 (hnamed _ List.mem_cons_self)
    cases hown
    cases hx
    exact rfl

theorem mapError_eq_error_iff (hx : Meets x fs) (g : Failure → Diagnostic) (d : Diagnostic) :
    x.mapError g = .error d ↔ fs.head?.map g = some d := by
  cases fs with
  | nil =>
    obtain ⟨a, rfl⟩ := hx
    constructor <;> intro h <;> cases h
  | cons f fs =>
    cases hx
    constructor <;> intro h <;> cases h <;> rfl

end Meets

mutual

theorem meets_stmt (s : Scope) : (t : Stmt) → Meets (stmt s t) (failures t.nodes)
  | .declare kind name value => by
    rw [Stmt.nodes, failures_cons rfl, Stmt.inner, failures_exprs]
    exact .ok _
  | .function name params body => by
    rw [Stmt.nodes, failures_cons rfl, Stmt.inner, stmt]
    exact ((meets_bodyStmts _ body).within (fun _ => named_of_mem_failures) name).thenOk _
  | .clause c => rfl
  | .dispatch name [] => rfl
  | .dispatch name (c :: cs) => by
    rw [Stmt.nodes, failures_cons rfl, Stmt.inner, stmt]
    exact ((meets_clauseStmts s (c :: cs)).within (fun _ => named_of_mem_failures) name).thenOk _
  | .branch test consequent none => by
    rw [Stmt.nodes, failures_cons rfl, Stmt.inner, failures_append, failures_exprs, List.nil_append, stmt]
    exact (meets_stmts _ consequent).thenOk _
  | .branch test consequent (some alternate) => by
    rw [Stmt.nodes, failures_cons rfl, Stmt.inner, failures_append, failures_append, failures_exprs, List.nil_append,
      stmt]
    exact (meets_stmts _ consequent).bind fun _ => (meets_stmt _ alternate).thenOk _
  | .unless test consequent => by
    rw [Stmt.nodes, failures_cons rfl, Stmt.inner, failures_append, failures_exprs, List.nil_append, stmt]
    exact (meets_stmts _ consequent).thenOk _
  | .ret value => by
    rw [Stmt.nodes, failures_cons rfl, Stmt.inner, failures_exprs]
    exact .ok _
  | .expr value => by
    rw [Stmt.nodes, failures_cons rfl, Stmt.inner, failures_exprs]
    exact .ok _
  | .block body => by
    rw [Stmt.nodes, failures_cons rfl, Stmt.inner, stmt]
    exact (meets_stmts _ body).thenOk _

theorem meets_stmts (s : Scope) : (ts : List Stmt) → Meets (stmts s ts) (failures (Stmt.nodesAll ts))
  | [] => .ok []
  | t :: ts => by
    have hnodes : Stmt.nodesAll (t :: ts) = t.nodes ++ Stmt.nodesAll ts := rfl
    rw [hnodes, failures_append, stmts]
    exact (meets_stmt s t).bind fun _ => (meets_stmts s ts).thenOk _

theorem meets_bodyStmts (s : Scope) : (ts : List Stmt) → Meets (bodyStmts s ts) (failures (Stmt.nodesAll ts))
  | [] => .ok []
  | t :: ts => by
    have hnodes : Stmt.nodesAll (t :: ts) = t.nodes ++ Stmt.nodesAll ts := rfl
    rw [hnodes, failures_append]
    by_cases hlast : ∃ value, t = .expr value ∧ ts = []
    · obtain ⟨value, rfl, rfl⟩ := hlast
      rw [Stmt.nodes, failures_cons rfl, Stmt.inner, failures_exprs]
      exact .ok _
    · rw [bodyStmts_cons s hlast]
      exact (meets_stmt s t).bind fun _ => (meets_bodyStmts s ts).thenOk _

theorem meets_clauseStmt (s : Scope) : (c : Clause) → Meets (clauseStmt s c) (failures c.nodes)
  | ⟨name, patterns, guard, body⟩ => by
    rw [failures_clause, clauseStmt]
    exact (meets_bodyStmts _ body).thenOk _

theorem meets_clauseStmts (s : Scope) : (cs : List Clause) → Meets (clauseStmts s cs) (failures (Clause.nodesAll cs))
  | [] => .ok []
  | c :: cs => by
    rw [Clause.nodesAll, failures_append, clauseStmts]
    exact (meets_clauseStmt s c).bind fun _ => (meets_clauseStmts s cs).thenOk _

end

/-! ## Whole programs -/

theorem complaint?_nested (n : Node) : Place.complaint? ⟨true, n⟩ = (failure? n).map Failure.diagnostic := by
  cases n with
  | expr e => rfl
  | stmt s =>
    cases s with
    | dispatch name clauses => cases clauses <;> rfl
    | _ => rfl

/-- Only a clause is judged by its level. -/
theorem complaint?_top {s : Stmt} (h : ∀ c, s ≠ .clause c) :
    Place.complaint? ⟨false, .stmt s⟩ = Place.complaint? ⟨true, .stmt s⟩ := by
  cases s with
  | clause c => exact absurd rfl (h c)
  | dispatch name clauses => cases clauses <;> rfl
  | _ => rfl

/-- What is said of a statement at the top level and of the nodes in it. -/
def complaints (s : Stmt) : List Diagnostic :=
  (Place.complaint? ⟨false, .stmt s⟩).toList ++ (failures s.inner).map Failure.diagnostic

theorem filterMap_places (p : Tree.Program) : p.places.filterMap Place.complaint? = p.body.flatMap complaints := by
  have hinner (ns : List Node) :
      (ns.map (Place.mk true)).filterMap Place.complaint? = (failures ns).map Failure.diagnostic := by
    rw [List.filterMap_map, failures, List.map_filterMap]
    exact List.filterMap_congr fun n _ => complaint?_nested n
  rw [Tree.Program.places, List.filterMap_flatMap]
  refine List.flatMap_congr fun s _ => ?_
  rw [complaints, ← hinner, List.filterMap_cons]
  cases Place.complaint? ⟨false, .stmt s⟩ <;> rfl

theorem complaints_of_ne {s : Stmt} (h : ∀ c, s ≠ .clause c) :
    complaints s = (failures s.nodes).map Failure.diagnostic := by
  rw [complaints, complaint?_top h, complaint?_nested, Stmt.nodes, failures, failures, List.filterMap_cons]
  cases failure? (.stmt s) <;> rfl

/-- Gathering moves no node that something is said of, and leaves no clause at the top level. -/
theorem failures_gather (body : List Stmt) :
    (failures (Stmt.nodesAll (Tree.gather body))).map Failure.diagnostic = body.flatMap complaints := by
  have hclause (c : Clause) : complaints (.clause c) = (failures c.nodes).map Failure.diagnostic := rfl
  have hclauses (cs : List Clause) :
      (failures (Clause.nodesAll cs)).map Failure.diagnostic = cs.flatMap fun c => complaints (.clause c) := by
    simp only [hclause, Clause.nodesAll_eq_flatMap, failures, List.filterMap_flatMap, List.map_flatMap]
  calc (failures (Stmt.nodesAll (Tree.gather body))).map Failure.diagnostic
      = (Tree.gather body).flatMap (fun s => (failures s.nodes).map Failure.diagnostic) := by
        rw [Stmt.nodesAll_eq_flatMap, failures, List.filterMap_flatMap, List.map_flatMap]
        rfl
    _ = (Tree.gather body).flatMap complaints := by
        refine List.flatMap_congr fun s hs => (complaints_of_ne fun c hc => ?_).symm
        exact Tree.clause_notMem_gather c body (hc ▸ hs)
    _ = body.flatMap complaints := by
        refine Tree.flatMap_gather complaints ?_ ?_ body
        · intro name c cs
          exact hclauses (c :: cs)
        · intro name params body
          rw [hclause, Tree.nodes_catchAllClause]
          rfl

theorem meets_compile (lib : Library) (p : Tree.Program) :
    Meets (compile lib p) (failures (Stmt.nodesAll (Tree.gather p.body))) :=
  (meets_stmts _ (Tree.gather p.body)).thenOk _

end Lowering

open TreeScript.Tree (Place Stmt)

theorem compileWith_eq_error_iff (lib : Library) (p : Tree.Program) (d : Diagnostic) :
    compileWith lib p = .error d ↔ p.places.findSome? Place.complaint? = some d := by
  rw [compileWith, (Lowering.meets_compile lib p).mapError_eq_error_iff, ← List.head?_map, Lowering.failures_gather,
    ← Lowering.filterMap_places, List.head?_filterMap]

namespace Tree

theorem mem_places {p : Program} {q : Place} :
    q ∈ p.places ↔ ∃ s ∈ p.body, q = ⟨false, .stmt s⟩ ∨ ∃ n ∈ s.inner, q = ⟨true, n⟩ := by
  simp only [Program.places, List.mem_flatMap, List.mem_cons, List.mem_map, eq_comm]

theorem Place.of_complaint? {q : Place} {d : Diagnostic} (h : q.complaint? = some d) :
    (∃ c, q = ⟨true, .stmt (.clause c)⟩) ∨ ∃ name, q.node = .stmt (.dispatch name []) := by
  unfold complaint? at h
  split at h
  · exact .inl ⟨_, rfl⟩
  · exact .inr ⟨_, rfl⟩
  · cases h

/-- Something is said of a program exactly if it has a clause or an empty dispatcher in the wrong place. -/
theorem exists_complaint_iff (p : Program) :
    (∃ q ∈ p.places, ∃ d, q.complaint? = some d) ↔
      (∃ s ∈ p.body, ∃ c, .stmt (.clause c) ∈ s.inner) ∨ ∃ name, .stmt (.dispatch name []) ∈ Stmt.nodesAll p.body := by
  rw [Stmt.nodesAll_eq_flatMap]
  constructor
  · intro h
    obtain ⟨q, hq, d, hd⟩ := h
    obtain ⟨s, hs, hq⟩ := mem_places.1 hq
    rcases Place.of_complaint? hd with ⟨c, rfl⟩ | ⟨name, hn⟩
    · rcases hq with hq | ⟨n, hn, hq⟩
      · cases hq
      · cases hq
        exact .inl ⟨s, hs, c, hn⟩
    · refine .inr ⟨name, List.mem_flatMap.2 ⟨s, hs, ?_⟩⟩
      rcases hq with rfl | ⟨n, hn', rfl⟩
      · exact hn ▸ List.mem_cons_self
      · exact hn ▸ List.mem_cons_of_mem _ hn'
  · intro h
    rcases h with ⟨s, hs, c, hc⟩ | ⟨name, hn⟩
    · exact ⟨⟨true, .stmt (.clause c)⟩, mem_places.2 ⟨s, hs, .inr ⟨_, hc, rfl⟩⟩, _, rfl⟩
    · obtain ⟨s, hs, hn⟩ := List.mem_flatMap.1 hn
      rcases List.mem_cons.1 hn with hn | hn
      · exact ⟨⟨false, .stmt s⟩, mem_places.2 ⟨s, hs, .inl rfl⟩, by rw [← hn]; exact ⟨_, rfl⟩⟩
      · exact ⟨⟨true, .stmt (.dispatch name [])⟩, mem_places.2 ⟨s, hs, .inr ⟨_, hn, rfl⟩⟩, _, rfl⟩

end Tree

/-- A program has no script exactly if it has a clause below the top level or, at any level, a dispatcher
without clauses. What is said then is said of the first of these nodes in document order, and names it. -/
theorem refused_iff_misplaced (lib : Library) (p : Tree.Program) :
    ((∃ d, compileWith lib p = .error d) ↔
        (∃ s ∈ p.body, ∃ c, .stmt (.clause c) ∈ s.inner) ∨ ∃ name, .stmt (.dispatch name []) ∈ Stmt.nodesAll p.body) ∧
      ∀ d, compileWith lib p = .error d ↔
        ∃ before place after, p.places = before ++ place :: after ∧ (∀ q ∈ before, q.complaint? = none) ∧
          place.complaint? = some d := by
  constructor
  · rw [← Tree.exists_complaint_iff]
    simp only [compileWith_eq_error_iff, ← Option.isSome_iff_exists, List.findSome?_isSome_iff]
  · intro d
    rw [compileWith_eq_error_iff, List.findSome?_eq_some_iff]
    simp only [and_comm]

/-- The clause is named, not the function around it. -/
example : compileWith {} ⟨[.function "outer" [] [.branch .undefined [] (some (.clause ⟨"inner", [], none, []⟩))]]⟩ =
    .error
      { header := "unmerged pattern clause",
        footer := "Help: pattern clauses are only merged into functions at the top level of a program.",
        function := some "inner" } := rfl

end TreeScript
