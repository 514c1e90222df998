/-
  TreeScript.Proofs.Usage — the modules that a program uses, as a list of calls.

  Every walk over a part of a tree notes the keys that its nodes call for, one after the
  other and in document order (`noteExpr_eq`, `noteStmt_eq`). What a walk comes to is read
  off that list of calls: whether a key is in it (`mem_used`), and that gathering the
  clauses of a program first leaves it as it is (`flatMap_calls_gather`).
-/

import TreeScript.Library.Standard
import TreeScript.Library.Usage
import TreeScript.Proofs.Gathering
import TreeScript.Proofs.Nodes

namespace TreeScript.Library

open TreeScript.Tree (Clause Expr Node Part Pattern Property Stmt)

/-! ## Calls -/

/-- The module that a name calls for. -/
def nameModule? (lib : Library) : Expr → Option String
  | .identifier name => lib.builtinOwner? name <|> lib.facility? name
  | _ => none

/-- The keys that a node calls for by itself: for its kind, then for the name that it is. -/
def calls (lib : Library) : Node → List String
  | .stmt s => (lib.nodeModule? s.kind).toList
  | .expr e => (lib.nodeModule? e.kind).toList ++ (lib.nameModule? e).toList

/-- All that some nodes call for, noted in order. -/
def noteNodes (lib : Library) (ns : List Node) (keys : List String) : List String :=
  (ns.flatMap lib.calls).foldl note keys

theorem mem_note {keys : List String} {key k : String} : k ∈ note keys key ↔ k ∈ keys ∨ k = key := by
  unfold note
  split
  · constructor
    · exact Or.inl
    · intro h
      rcases h with h | rfl
      · exact h
      · assumption
  · simp

theorem mem_foldl_note {keys new : List String} {k : String} : k ∈ new.foldl note keys ↔ k ∈ keys ∨ k ∈ new := by
  induction new generalizing keys with
  | nil => simp
  | cons key new ih => rw [List.foldl_cons, ih, mem_note, List.mem_cons, or_assoc]

theorem noteAny_eq (keys : List String) (key : Option String) : noteAny keys key = key.toList.foldl note keys := by
  cases key <;> rfl

@[simp] theorem noteNodes_nil (lib : Library) (keys : List String) : lib.noteNodes [] keys = keys := rfl

@[simp] theorem noteNodes_append (lib : Library) (ns ns' : List Node) (keys : List String) :
    lib.noteNodes (ns ++ ns') keys = lib.noteNodes ns' (lib.noteNodes ns keys) := by
  simp [noteNodes]

@[simp] theorem noteNodes_stmt (lib : Library) (s : Stmt) (ns : List Node) (keys : List String) :
    lib.noteNodes (.stmt s :: ns) keys = lib.noteNodes ns (noteKind lib s.kind keys) := by
  simp [noteNodes, calls, noteKind, noteAny_eq]

@[simp] theorem noteNodes_expr (lib : Library) (e : Expr) (ns : List Node) (keys : List String) :
    lib.noteNodes (.expr e :: ns) keys = lib.noteNodes ns (noteAny (noteKind lib e.kind keys) (lib.nameModule? e)) := by
  simp [noteNodes, calls, noteKind, noteAny_eq]

/-! ## Walks -/

theorem notePatterns_eq (lib : Library) (ps : List Pattern) (keys : List String) :
    notePatterns lib ps keys = lib.noteNodes (ps.flatMap Pattern.nodes) keys := by
  induction ps generalizing keys with
  | nil => rfl
  | cons p ps ih =>
    cases p with
    | literal value =>
      rw [notePatterns, ih, List.flatMap_cons, noteNodes_append, Pattern.nodes, noteNodes_expr]
      rfl
    | wildcard => exact ih keys
    | binding name => exact ih keys

mutual

theorem noteExpr_eq (lib : Library) : (e : Expr) → (keys : List String) →
    noteExpr lib e keys = lib.noteNodes (e.nodes.map .expr) keys
  | .conditional test consequent alternate, keys => by
    simp [noteExpr, Expr.nodes, nameModule?, noteAny, Expr.kind, noteExpr_eq lib test, noteExpr_eq lib consequent,
      noteExpr_eq lib alternate]
  | .binary op left right, keys => by
    simp [noteExpr, Expr.nodes, nameModule?, noteAny, Expr.kind, noteExpr_eq lib left, noteExpr_eq lib right]
  | .unary op operand, keys => by
    simp [noteExpr, Expr.nodes, nameModule?, noteAny, Expr.kind, noteExpr_eq lib operand]
  | .call callee args, keys => by
    simp [noteExpr, Expr.nodes, nameModule?, noteAny, Expr.kind, noteExpr_eq lib callee, noteExprs_eq lib args]
  | .member object property, keys => by
    simp [noteExpr, Expr.nodes, nameModule?, noteAny, Expr.kind, noteExpr_eq lib object]
  | .index object position, keys => by
    simp [noteExpr, Expr.nodes, nameModule?, noteAny, Expr.kind, noteExpr_eq lib object, noteExpr_eq lib position]
  | .range first last none, keys => by
    simp [noteExpr, Expr.nodes, nameModule?, noteAny, Expr.kind, noteExpr_eq lib first, noteExpr_eq lib last]
  | .range first last (some step), keys => by
    simp [noteExpr, Expr.nodes, nameModule?, noteAny, Expr.kind, noteExpr_eq lib first, noteExpr_eq lib last,
      noteExpr_eq lib step]
  | .array elements, keys => by
    simp [noteExpr, Expr.nodes, nameModule?, noteAny, Expr.kind, noteExprs_eq lib elements]
  | .object properties, keys => by
    simp [noteExpr, Expr.nodes, nameModule?, noteAny, Expr.kind, noteProperties_eq lib properties]
  | .identifier name, keys => by simp [noteExpr, Expr.nodes, nameModule?, noteName, Expr.kind]
  | .literal value, keys => by simp [noteExpr, Expr.nodes, nameModule?, noteAny, Expr.kind]
  | .undefined, keys => by simp [noteExpr, Expr.nodes, nameModule?, noteAny, Expr.kind]
  | .interpolated parts, keys => by
    simp [noteExpr, Expr.nodes, nameModule?, noteAny, Expr.kind, noteParts_eq lib parts]

theorem noteExprs_eq (lib : Library) : (es : List Expr) → (keys : List String) →
    noteExprs lib es keys = lib.noteNodes ((Expr.nodesAll es).map .expr) keys
  | [], keys => rfl
  | e :: es, keys => by simp [noteExprs, Expr.nodesAll, noteExpr_eq lib e, noteExprs_eq lib es]

theorem noteProperties_eq (lib : Library) : (ps : List Property) → (keys : List String) →
    noteProperties lib ps keys = lib.noteNodes ((Property.nodesAll ps).map .expr) keys
  | [], keys => rfl
  | ⟨key, value, shorthand⟩ :: ps, keys => by
    simp [noteProperties, Property.nodesAll, noteExpr_eq lib value, noteProperties_eq lib ps]

theorem noteParts_eq (lib : Library) : (ps : List Part) → (keys : List String) →
    noteParts lib ps keys = lib.noteNodes ((Part.nodesAll ps).map .expr) keys
  | [], keys => rfl
  | .text text :: ps, keys => by simp [noteParts, Part.nodesAll, noteParts_eq lib ps]
  | .expr value :: ps, keys => by simp [noteParts, Part.nodesAll, noteExpr_eq lib value, noteParts_eq lib ps]

end

theorem noteGuard_eq (lib : Library) (guard : Option Expr) (keys : List String) :
    noteGuard lib guard keys = lib.noteNodes (guard.toList.flatMap (·.nodes.map .expr)) keys := by
  cases guard with
  | none => rfl
  | some guard => simp [noteGuard, noteExpr_eq]

mutual

theorem noteStmt_eq (lib : Library) : (s : Stmt) → (keys : List String) →
    noteStmt lib s keys = lib.noteNodes s.nodes keys
  | .declare kind name value, keys => by simp [noteStmt, Stmt.nodes, Stmt.inner, Stmt.kind, noteExpr_eq]
  | .function name params body, keys => by
    simp [noteStmt, Stmt.nodes, Stmt.inner, Stmt.kind, noteStmts_eq lib body]
  | .clause c, keys => by simp [noteStmt, Stmt.nodes, Stmt.inner, Stmt.kind, noteClause_eq lib c]
  | .dispatch name clauses, keys => by
    simp [noteStmt, Stmt.nodes, Stmt.inner, Stmt.kind, noteClauses_eq lib clauses]
  | .branch test consequent none, keys => by
    simp [noteStmt, Stmt.nodes, Stmt.inner, Stmt.kind, noteExpr_eq, noteStmts_eq lib consequent]
  | .branch test consequent (some alternate), keys => by
    have halternate := noteStmt_eq lib alternate
    simp only [Stmt.nodes, noteNodes_stmt] at halternate
    simp [noteStmt, Stmt.nodes, Stmt.inner, Stmt.kind, noteExpr_eq, noteStmts_eq lib consequent, halternate]
  | .unless test consequent, keys => by
    simp [noteStmt, Stmt.nodes, Stmt.inner, Stmt.kind, noteExpr_eq, noteStmts_eq lib consequent]
  | .ret value, keys => by simp [noteStmt, Stmt.nodes, Stmt.inner, Stmt.kind, noteExpr_eq]
  | .expr value, keys => by simp [noteStmt, Stmt.nodes, Stmt.inner, Stmt.kind, noteExpr_eq]
  | .block body, keys => by simp [noteStmt, Stmt.nodes, Stmt.inner, Stmt.kind, noteStmts_eq lib body]

theorem noteStmts_eq (lib : Library) : (ss : List Stmt) → (keys : List String) →
    noteStmts lib ss keys = lib.noteNodes (Stmt.nodesAll ss) keys
  | [], keys => rfl
  | s :: ss, keys => by
    have hs := noteStmt_eq lib s
    simp only [Stmt.nodes, noteNodes_stmt] at hs
    simp [noteStmts, Stmt.nodesAll, hs, noteStmts_eq lib ss]

theorem noteClause_eq (lib : Library) : (c : Clause) → (keys : List String) →
    noteClause lib c keys = lib.noteNodes c.nodes keys
  | ⟨name, patterns, guard, body⟩, keys => by
    simp [noteClause, Clause.nodes, notePatterns_eq, noteGuard_eq, noteStmts_eq lib body]

theorem noteClauses_eq (lib : Library) : (cs : List Clause) → (keys : List String) →
    noteClauses lib cs keys = lib.noteNodes (Clause.nodesAll cs) keys
  | [], keys => rfl
  | c :: cs, keys => by simp [noteClauses, Clause.nodesAll, noteClause_eq lib c, noteClauses_eq lib cs]

end

/-- A program uses what its nodes call for. -/
theorem mem_used {lib : Library} {p : Tree.Program} {k : String} :
    k ∈ lib.used p ↔ ∃ n ∈ Stmt.nodesAll p.body, k ∈ lib.calls n := by
  rw [used, noteStmts_eq, noteNodes, mem_foldl_note]
  simp

theorem subset_grow (lib : Library) (keys pending : List String) : keys ⊆ lib.grow keys pending := by
  fun_induction grow lib keys pending with
  | case1 keys => exact List.Subset.refl keys
  | case2 keys k rest new =>
    rename_i ih
    exact List.Subset.trans (List.subset_append_left keys new) ih

/-- A program needs what it uses. -/
theorem used_subset_needed (lib : Library) (p : Tree.Program) : lib.used p ⊆ lib.needed p := by
  intro k hk
  exact subset_grow lib _ _ (mem_foldl_note.2 (.inr hk))

/-! ## Gathering first -/

/-- Gathering leaves all calls as they are, where the kinds of the statements that it changes call for nothing. -/
theorem flatMap_calls_gather {lib : Library} (hclause : lib.module? "PatternClause" = none)
    (hdispatch : lib.module? "PatternDispatch" = none) (hfunction : lib.module? "FunctionDeclaration" = none)
    (body : List Stmt) :
    (Stmt.nodesAll (Tree.gather body)).flatMap lib.calls = (Stmt.nodesAll body).flatMap lib.calls := by
  have hc (c : Clause) : (Stmt.clause c).nodes.flatMap lib.calls = c.nodes.flatMap lib.calls := by
    simp [Stmt.nodes, Stmt.inner, calls, Stmt.kind, nodeModule?, hclause]
  rw [Stmt.nodesAll_eq_flatMap, Stmt.nodesAll_eq_flatMap, List.flatMap_assoc, List.flatMap_assoc]
  refine Tree.flatMap_gather _ ?_ ?_ body
  · intro name c cs
    simp only [hc, ← List.flatMap_assoc, ← Clause.nodesAll_eq_flatMap]
    simp [Stmt.nodes, Stmt.inner, calls, Stmt.kind, nodeModule?, hdispatch]
  · intro name params body
    rw [hc, Tree.nodes_catchAllClause]
    simp [Stmt.nodes, Stmt.inner, calls, Stmt.kind, nodeModule?, hfunction]

/-- A program needs the same modules, in the same order, before and after its clauses are gathered. -/
theorem needed_gathered (lib : Library) (hclause : lib.module? "PatternClause" = none)
    (hdispatch : lib.module? "PatternDispatch" = none) (hfunction : lib.module? "FunctionDeclaration" = none)
    (p : Tree.Program) : lib.needed p.gathered = lib.needed p := by
  have hused : lib.used p.gathered = lib.used p := by
    unfold used
    rw [noteStmts_eq, noteStmts_eq, noteNodes, noteNodes, Tree.Program.gathered,
      flatMap_calls_gather hclause hdispatch hfunction]
  rw [needed, needed, hused]

/-- A function in three parts; each calls for a module, and the last one is a plain function. -/
def parity : Tree.Program := ⟨[
  .clause ⟨"parity", [.literal .nil], none, [.ret (.range (.identifier "parity") .undefined none)]⟩,
  .clause ⟨"parity", [.binding "n"], some (.call (.identifier "is_even") [.identifier "n"]), []⟩,
  .function "parity" ["n"] [.expr (.call (.identifier "print") [.identifier "n"])]]⟩

theorem needed_gathered_parity :
    standard.module? "PatternClause" = none ∧ standard.module? "PatternDispatch" = none ∧
      standard.module? "FunctionDeclaration" = none ∧ parity.gathered.body.length = 1 ∧
      standard.used parity = ["RangeLiteral", "Integer", "Kernel"] ∧
      standard.needed parity.gathered = standard.needed parity :=
  ⟨by decide, by decide, by decide, by decide, by decide,
    needed_gathered standard (by decide) (by decide) (by decide) parity⟩

end TreeScript.Library
