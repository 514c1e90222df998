/-
  TreeScript.Proofs.ExplicitReturns — an expression at the end of a body is a return.

  `Explicit` relates a tree to the same tree with returns in place of some of the
  expressions that its function bodies and clause bodies end in, at any depth and in any
  selection; other statement lists are left alone. Lowering does not tell the two apart
  (`Explicit.stmt`): a body returns the expression at its end by itself. Neither does
  gathering (`explicit_gather`), which takes the bodies of functions over into clauses.
  Only the kinds of the two statements differ, and where no module is named like them the
  nodes call for the same modules (`Explicit.calls`).
-/

import TreeScript.Proofs.Refusals
import TreeScript.Proofs.Usage

namespace TreeScript

namespace Tree

/-! ## Trees that differ in returns -/

mutual

/-- A statement, and the same with some of the returns in it made explicit. -/
inductive Stmt.Explicit : Stmt → Stmt → Prop
  | same (t : Stmt) : Stmt.Explicit t t
  | function {name : String} {params : List String} {body body' : List Stmt} : Stmt.ExplicitBody body body' →
      Stmt.Explicit (.function name params body) (.function name params body')
  | clause {c c' : Clause} : Clause.Explicit c c' → Stmt.Explicit (.clause c) (.clause c')
  | dispatch {name : String} {cs cs' : List Clause} : Clause.ExplicitAll cs cs' →
      Stmt.Explicit (.dispatch name cs) (.dispatch name cs')
  | branch {test : Expr} {body body' : List Stmt} : Stmt.ExplicitAll body body' →
      Stmt.Explicit (.branch test body none) (.branch test body' none)
  | branchElse {test : Expr} {body body' : List Stmt} {t t' : Stmt} : Stmt.ExplicitAll body body' →
      Stmt.Explicit t t' → Stmt.Explicit (.branch test body (some t)) (.branch test body' (some t'))
  | unless {test : Expr} {body body' : List Stmt} : Stmt.ExplicitAll body body' →
      Stmt.Explicit (.unless test body) (.unless test body')
  | block {body body' : List Stmt} : Stmt.ExplicitAll body body' → Stmt.Explicit (.block body) (.block body')

/-- Statement lists, one statement for another. -/
inductive Stmt.ExplicitAll : List Stmt → List Stmt → Prop
  | nil : Stmt.ExplicitAll [] []
  | cons {t t' : Stmt} {ts ts' : List Stmt} : Stmt.Explicit t t' → Stmt.ExplicitAll ts ts' →
      Stmt.ExplicitAll (t :: ts) (t' :: ts')

/-- Bodies of functions and clauses: an expression at the end may be returned. -/
inductive Stmt.ExplicitBody : List Stmt → List Stmt → Prop
  | kept {ts ts' : List Stmt} : Stmt.ExplicitAll ts ts' → Stmt.ExplicitBody ts ts'
  | made {ts ts' : List Stmt} {value : Expr} : Stmt.ExplicitAll ts ts' →
      Stmt.ExplicitBody (ts ++ [.expr value]) (ts' ++ [.ret value])

inductive Clause.Explicit : Clause → Clause → Prop
  | mk {name : String} {patterns : List Pattern} {guard : Option Expr} {body body' : List Stmt} :
      Stmt.ExplicitBody body body' → Clause.Explicit ⟨name, patterns, guard, body⟩ ⟨name, patterns, guard, body'⟩

inductive Clause.ExplicitAll : List Clause → List Clause → Prop
  | nil : Clause.ExplicitAll [] []
  | cons {c c' : Clause} {cs cs' : List Clause} : Clause.Explicit c c' → Clause.ExplicitAll cs cs' →
      Clause.ExplicitAll (c :: cs) (c' :: cs')

end

theorem Stmt.ExplicitAll.refl (ts : List Stmt) : Stmt.ExplicitAll ts ts := by
  induction ts with
  | nil => exact .nil
  | cons t ts ih => exact .cons (.same t) ih

theorem Stmt.ExplicitAll.append {ts ts' us us' : List Stmt} (h : Stmt.ExplicitAll ts ts')
    (hu : Stmt.ExplicitAll us us') : Stmt.ExplicitAll (ts ++ us) (ts' ++ us') := by
  induction ts generalizing ts' with
  | nil =>
    cases h
    exact hu
  | cons t ts ih =>
    cases h with
    | cons ht hts => exact .cons ht (ih hts)

theorem Clause.Explicit.refl (c : Clause) : Clause.Explicit c c := by
  cases c with
  | mk _ _ _ body => exact .mk (.kept (.refl body))

theorem Clause.ExplicitAll.snoc {cs cs' : List Clause} {c c' : Clause} (h : Clause.ExplicitAll cs cs')
    (hc : Clause.Explicit c c') : Clause.ExplicitAll (cs ++ [c]) (cs' ++ [c']) := by
  induction cs generalizing cs' with
  | nil =>
    cases h
    exact .cons hc .nil
  | cons d ds ih =>
    cases h with
    | cons hd hds => exact .cons hd (ih hds)

theorem Clause.ExplicitAll.arity {cs cs' : List Clause} (h : Clause.ExplicitAll cs cs') :
    Tree.arity cs = Tree.arity cs' := by
  have hlengths : cs.map (·.patterns.length) = cs'.map (·.patterns.length) := by
    induction cs generalizing cs' with
    | nil =>
      cases h
      rfl
    | cons c cs ih =>
      cases h with
      | cons hc hcs =>
        cases hc
        rw [List.map_cons, List.map_cons, ih hcs]
  rw [Tree.arity, Tree.arity, hlengths]

theorem Stmt.Explicit.declared {t t' : Stmt} (h : t.Explicit t') : t.declared? = t'.declared? := by
  cases h with
  | clause hc => cases hc; rfl
  | _ => rfl

theorem Stmt.ExplicitAll.declared {ts ts' : List Stmt} (h : Stmt.ExplicitAll ts ts') :
    Lowering.declared ts = Lowering.declared ts' := by
  induction ts generalizing ts' with
  | nil =>
    cases h
    rfl
  | cons t ts ih =>
    cases h with
    | cons ht hts =>
      unfold Lowering.declared at ih ⊢
      rw [List.filterMap_cons, List.filterMap_cons, ht.declared, ih hts]

theorem Stmt.ExplicitBody.declared {ts ts' : List Stmt} (h : Stmt.ExplicitBody ts ts') :
    Lowering.declared ts = Lowering.declared ts' := by
  cases h with
  | kept h => exact h.declared
  | made h =>
    have hinit := h.declared
    unfold Lowering.declared at hinit ⊢
    rw [List.filterMap_append, List.filterMap_append, hinit]
    rfl

/-! ## Gathering -/

/-- Runs of the same name whose clauses differ in returns. -/
inductive Run.Explicit : Option Run → Option Run → Prop
  | none : Run.Explicit none none
  | some {name : String} {cs cs' : List Clause} : Clause.ExplicitAll cs cs' →
      Run.Explicit (some ⟨name, cs⟩) (some ⟨name, cs'⟩)

structure Gathered.Explicit (g g' : Gathered) : Prop where
  done : Stmt.ExplicitAll g.done g'.done
  run : Run.Explicit g.run g'.run

namespace Gathered.Explicit

variable {g g' : Gathered}

theorem closed (h : g.Explicit g') : Stmt.ExplicitAll g.closed g'.closed := by
  obtain ⟨done, run⟩ := g
  obtain ⟨done', run'⟩ := g'
  obtain ⟨hdone, hrun⟩ := h
  refine Stmt.ExplicitAll.append hdone ?_
  cases hrun with
  | none => exact .nil
  | some hcs => exact .cons (.dispatch hcs) .nil

theorem keep (h : g.Explicit g') {t t' : Stmt} (ht : t.Explicit t') :
    Explicit ⟨g.closed ++ [t], none⟩ ⟨g'.closed ++ [t'], none⟩ :=
  ⟨h.closed.append (.cons ht .nil), .none⟩

theorem add_clause (h : g.Explicit g') {c c' : Clause} (hc : Clause.Explicit c c') :
    Explicit (g.add (.clause c)) (g'.add (.clause c')) := by
  have hstart : Explicit ⟨g.closed, some ⟨c.name, [c]⟩⟩ ⟨g'.closed, some ⟨c'.name, [c']⟩⟩ := by
    have hname : c.name = c'.name := by cases hc; rfl
    rw [hname]
    exact ⟨h.closed, .some (.cons hc .nil)⟩
  obtain ⟨done, run⟩ := g
  obtain ⟨done', run'⟩ := g'
  obtain ⟨hdone, hrun⟩ := h
  cases hrun with
  | none => exact hstart
  | @some name cs cs' hcs =>
    cases hc with
    | @mk own patterns guard body body' hbody =>
      simp only [add]
      split
      · exact ⟨hdone, .some (hcs.snoc (.mk hbody))⟩
      · exact hstart

theorem add_function (h : g.Explicit g') (name : String) (params : List String) {body body' : List Stmt}
    (hbody : Stmt.ExplicitBody body body') :
    Explicit (g.add (.function name params body)) (g'.add (.function name params body')) := by
  have hfunction : Stmt.Explicit (.function name params body) (.function name params body') := .function hbody
  have hkeep := h.keep hfunction
  obtain ⟨done, run⟩ := g
  obtain ⟨done', run'⟩ := g'
  obtain ⟨hdone, hrun⟩ := h
  cases hrun with
  | none => exact hkeep
  | @some own cs cs' hcs =>
    simp only [add]
    split
    · -- the function is the last clause of the run, with the same body
      exact ⟨hdone.append (.cons (.dispatch (hcs.snoc (.mk hbody))) .nil), .none⟩
    · exact hkeep

theorem add (h : g.Explicit g') {t t' : Stmt} (ht : t.Explicit t') : Explicit (g.add t) (g'.add t') := by
  cases ht with
  | same =>
    cases t with
    | clause c => exact h.add_clause (.refl c)
    | function name params body => exact h.add_function name params (.kept (.refl body))
    | _ => exact h.keep (.same _)
  | function hbody => exact h.add_function _ _ hbody
  | clause hc => exact h.add_clause hc
  | dispatch hcs => exact h.keep (.dispatch hcs)
  | branch hbody => exact h.keep (.branch hbody)
  | branchElse hbody halternate => exact h.keep (.branchElse hbody halternate)
  | «unless» hbody => exact h.keep (.unless hbody)
  | block hbody => exact h.keep (.block hbody)

theorem foldl {ts ts' : List Stmt} (hts : Stmt.ExplicitAll ts ts') (h : g.Explicit g') :
    Explicit (ts.foldl Gathered.add g) (ts'.foldl Gathered.add g') := by
  induction ts generalizing ts' g g' with
  | nil =>
    cases hts
    exact h
  | cons t ts ih =>
    cases hts with
    | cons ht hts =>
      rw [List.foldl_cons, List.foldl_cons]
      exact ih hts (h.add ht)

end Gathered.Explicit

theorem explicit_gather {ts ts' : List Stmt} (h : Stmt.ExplicitAll ts ts') :
    Stmt.ExplicitAll (gather ts) (gather ts') :=
  (Gathered.Explicit.foldl h ⟨.nil, .none⟩).closed

end Tree

namespace Lowering

open TreeScript.Tree (Clause Stmt)

/-! ## Lowering -/

/-- All statements of a body but the last are lowered like any other. -/
theorem bodyStmts_append (s : Scope) (ts : List Stmt) (t : Stmt) :
    bodyStmts s (ts ++ [t]) = do
      let ts' ← stmts s ts
      let t' ← bodyStmts s [t]
      return ts' ++ t' := by
  induction ts with
  | nil =>
    show bodyStmts s [t] = bodyStmts s [t] >>= pure
    rw [bind_pure]
  | cons u ts ih =>
    have hmore : ¬ ∃ value, u = .expr value ∧ ts ++ [t] = [] := by simp
    rw [List.cons_append, bodyStmts_cons s hmore, ih, stmts]
    simp only [bind_assoc, pure_bind, List.cons_append]

/-- The last statement of a body is returned if it is an expression, and a return is a return already. -/
theorem bodyStmts_expr_eq_ret (s : Scope) (value : Tree.Expr) : bodyStmts s [.expr value] = bodyStmts s [.ret value] := by
  have hret : ¬ ∃ value', Stmt.ret value = .expr value' ∧ ([] : List Stmt) = [] := by simp
  rw [bodyStmts_cons s hret]
  rfl

theorem alternative_explicit {t t' : Stmt} (h : t.Explicit t') (u : Script.Stmt) : alternative t u = alternative t' u := by
  cases h <;> rfl

mutual

theorem Explicit.stmt : {t t' : Stmt} → t.Explicit t' → (s : Scope) → stmt s t = stmt s t'
  | _, _, .same t, s => rfl
  | _, _, .function h, s => by rw [Lowering.stmt, Lowering.stmt, h.declared, Explicit.bodyStmts h]
  | _, _, .clause h, s => by
    cases h
    rfl
  | _, _, .dispatch h, s => by
    have hclauses := Explicit.clauseStmts h s
    have harity := h.arity
    cases h with
    | nil => rfl
    | cons => rw [Lowering.stmt, Lowering.stmt, hclauses, harity]
  | _, _, .branch h, s => by rw [Lowering.stmt, Lowering.stmt, h.declared, Explicit.stmts h]
  | _, _, .branchElse h ha, s => by
    have halternative (t : Script.Stmt) := alternative_explicit ha t
    simp only [Lowering.stmt, h.declared, Explicit.stmts h, ha.declared, Explicit.stmt ha, halternative]
  | _, _, .unless h, s => by rw [Lowering.stmt, Lowering.stmt, h.declared, Explicit.stmts h]
  | _, _, .block h, s => by rw [Lowering.stmt, Lowering.stmt, h.declared, Explicit.stmts h]

theorem Explicit.stmts : {ts ts' : List Stmt} → Stmt.ExplicitAll ts ts' → (s : Scope) → stmts s ts = stmts s ts'
  | _, _, .nil, s => rfl
  | _, _, .cons h hs, s => by rw [Lowering.stmts, Lowering.stmts, Explicit.stmt h, Explicit.stmts hs]

theorem Explicit.bodyStmts : {ts ts' : List Stmt} → Stmt.ExplicitBody ts ts' → (s : Scope) →
    bodyStmts s ts = bodyStmts s ts'
  | _, _, .kept h, s => Explicit.keptStmts h s
  | _, _, .made h, s => by
    rw [bodyStmts_append, bodyStmts_append, Explicit.stmts h, bodyStmts_expr_eq_ret]

theorem Explicit.keptStmts : {ts ts' : List Stmt} → Stmt.ExplicitAll ts ts' → (s : Scope) →
    bodyStmts s ts = bodyStmts s ts'
  | _, _, .nil, s => rfl
  | t :: ts, t' :: ts', .cons h hs, s => by
    by_cases hlast : ∃ value, t = .expr value ∧ ts = []
    · -- nothing was replaced, so the expression at the end is the same
      obtain ⟨value, rfl, rfl⟩ := hlast
      cases h
      cases hs
      rfl
    · have hlast' : ¬ ∃ value, t' = .expr value ∧ ts' = [] := by
        rintro ⟨value, rfl, rfl⟩
        cases h
        cases hs
        exact hlast ⟨value, rfl, rfl⟩
      rw [bodyStmts_cons s hlast, bodyStmts_cons s hlast', Explicit.stmt h, Explicit.keptStmts hs]

theorem Explicit.clauseStmt : {c c' : Clause} → Clause.Explicit c c' → (s : Scope) →
    clauseStmt s c = clauseStmt s c'
  | _, _, .mk h, s => by rw [Lowering.clauseStmt, Lowering.clauseStmt, h.declared, Explicit.bodyStmts h]

theorem Explicit.clauseStmts : {cs cs' : List Clause} → Clause.ExplicitAll cs cs' → (s : Scope) →
    clauseStmts s cs = clauseStmts s cs'
  | _, _, .nil, s => rfl
  | _, _, .cons h hs, s => by
    rw [Lowering.clauseStmts, Lowering.clauseStmts, Explicit.clauseStmt h, Explicit.clauseStmts hs]

end

end Lowering

namespace Library

open TreeScript.Tree (Clause Node Stmt)

/-! ## Calls -/

/-- An expression statement calls for what the return of the expression calls for. -/
def EndsAlike (lib : Library) : Prop := ∀ value, lib.calls (.stmt (.expr value)) = lib.calls (.stmt (.ret value))

theorem endsAlike {lib : Library} (hexpr : lib.module? "ExpressionStatement" = none)
    (hret : lib.module? "ReturnStatement" = none) : lib.EndsAlike := by
  intro value
  simp [calls, Stmt.kind, nodeModule?, hexpr, hret]

mutual

theorem Explicit.calls {lib : Library} (hlib : lib.EndsAlike) : {t t' : Stmt} → t.Explicit t' →
    t.nodes.flatMap lib.calls = t'.nodes.flatMap lib.calls
  | _, _, .same t => rfl
  | _, _, .function h => congrArg (_ ++ ·) (Explicit.callsBody hlib h)
  | _, _, .clause h => congrArg (_ ++ ·) (Explicit.callsClause hlib h)
  | _, _, .dispatch h => congrArg (_ ++ ·) (Explicit.callsClauses hlib h)
  | _, _, .branch h => by
    simp only [Stmt.nodes, Stmt.inner, List.flatMap_cons, List.flatMap_append, Explicit.callsAll hlib h]
    rfl
  | _, _, .branchElse h ha => by
    have halternate := Explicit.calls hlib ha
    simp only [Stmt.nodes, List.flatMap_cons] at halternate
    simp only [Stmt.nodes, Stmt.inner, List.flatMap_cons, List.flatMap_append, Explicit.callsAll hlib h, halternate]
    rfl
  | _, _, .unless h => by
    simp only [Stmt.nodes, Stmt.inner, List.flatMap_cons, List.flatMap_append, Explicit.callsAll hlib h]
    rfl
  | _, _, .block h => congrArg (_ ++ ·) (Explicit.callsAll hlib h)

theorem Explicit.callsAll {lib : Library} (hlib : lib.EndsAlike) : {ts ts' : List Stmt} → Stmt.ExplicitAll ts ts' →
    (Stmt.nodesAll ts).flatMap lib.calls = (Stmt.nodesAll ts').flatMap lib.calls
  | _, _, .nil => rfl
  | _, _, .cons h hs => by
    rw [Stmt.nodesAll_eq_flatMap, Stmt.nodesAll_eq_flatMap, List.flatMap_cons, List.flatMap_cons,
      List.flatMap_append, List.flatMap_append, Explicit.calls hlib h, ← Stmt.nodesAll_eq_flatMap,
      ← Stmt.nodesAll_eq_flatMap, Explicit.callsAll hlib hs]

theorem Explicit.callsBody {lib : Library} (hlib : lib.EndsAlike) : {ts ts' : List Stmt} → Stmt.ExplicitBody ts ts' →
    (Stmt.nodesAll ts).flatMap lib.calls = (Stmt.nodesAll ts').flatMap lib.calls
  | _, _, .kept h => Explicit.callsAll hlib h
  | _, _, @Stmt.ExplicitBody.made _ _ value h => by
    have hinit := Explicit.callsAll hlib h
    have hlast : (Stmt.expr value).nodes.flatMap lib.calls = (Stmt.ret value).nodes.flatMap lib.calls :=
      congrArg (· ++ _) (hlib value)
    simp only [Stmt.nodesAll_eq_flatMap, List.flatMap_append] at hinit ⊢
    rw [hinit, List.flatMap_singleton, List.flatMap_singleton, hlast]

theorem Explicit.callsClause {lib : Library} (hlib : lib.EndsAlike) : {c c' : Clause} → Clause.Explicit c c' →
    c.nodes.flatMap lib.calls = c'.nodes.flatMap lib.calls
  | _, _, .mk h => by
    simp only [Clause.nodes, List.flatMap_append, Explicit.callsBody hlib h]

theorem Explicit.callsClauses {lib : Library} (hlib : lib.EndsAlike) : {cs cs' : List Clause} → Clause.ExplicitAll cs cs' →
    (Clause.nodesAll cs).flatMap lib.calls = (Clause.nodesAll cs').flatMap lib.calls
  | _, _, .nil => rfl
  | _, _, .cons h hs => by
    rw [Clause.nodesAll, Clause.nodesAll, List.flatMap_append, List.flatMap_append, Explicit.callsClause hlib h,
      Explicit.callsClauses hlib hs]

end

end Library

/-- Returns that are made explicit change nothing: with returns in place of some of the expressions that function
bodies and clause bodies end in, anywhere in the tree, a program has the same script and needs the same modules, or
is refused for the same reason. -/
theorem compileWith_explicit (lib : Library) (hexpr : lib.module? "ExpressionStatement" = none)
    (hret : lib.module? "ReturnStatement" = none) {p q : Tree.Program} (h : Tree.Stmt.ExplicitAll p.body q.body) :
    compileWith lib p = compileWith lib q := by
  have hgathered := Tree.explicit_gather h
  have hneeded : lib.needed p.gathered = lib.needed q.gathered := by
    unfold Library.needed Library.used
    rw [Library.noteStmts_eq, Library.noteStmts_eq, Library.noteNodes, Library.noteNodes]
    have hcalls := Library.Explicit.callsAll (Library.endsAlike hexpr hret) hgathered
    exact congrArg _ (congrArg (List.foldl Library.note []) hcalls)
  have hlowered := Lowering.Explicit.stmts hgathered ⟨lib, Lowering.declared (Tree.gather p.body)⟩
  have hdeclared := hgathered.declared
  unfold compileWith Lowering.compile Lowering.program
  rw [hneeded]
  show Except.mapError _ (Lowering.stmts ⟨lib, Lowering.declared (Tree.gather p.body)⟩ (Tree.gather p.body) >>= _) = _
  rw [hlowered, hdeclared]
  rfl

/-- A guarded clause, and a function that is gathered with it and has a function in a block. -/
def tacit : Tree.Program := ⟨[
  .clause ⟨"f", [.binding "x"], some (.identifier "x"), [.expr (.identifier "x")]⟩,
  .function "f" ["n"] [
    .block [.function "g" [] [.expr .undefined], .expr (.identifier "n")],
    .expr (.call (.identifier "print") [.identifier "n"])]]⟩

/-- The same with the returns of the clause and of the inner function made explicit. -/
def outspoken : Tree.Program := ⟨[
  .clause ⟨"f", [.binding "x"], some (.identifier "x"), [.ret (.identifier "x")]⟩,
  .function "f" ["n"] [
    .block [.function "g" [] [.ret .undefined], .expr (.identifier "n")],
    .expr (.call (.identifier "print") [.identifier "n"])]]⟩

theorem compileWith_explicit_tacit :
    Library.standard.module? "ExpressionStatement" = none ∧ Library.standard.module? "ReturnStatement" = none ∧
      Tree.Stmt.ExplicitAll tacit.body outspoken.body ∧ compileWith .standard tacit = compileWith .standard outspoken ∧
      (compileWith .standard tacit).toOption.map (·.modules) = some ["Kernel", "RangeLiteral"] := by
  have hsingle (value : Tree.Expr) : Tree.Stmt.ExplicitBody ([] ++ [.expr value]) ([] ++ [.ret value]) := .made .nil
  have hexplicit : Tree.Stmt.ExplicitAll tacit.body outspoken.body :=
    .cons (.clause (.mk (hsingle _))) (.cons (.function (.kept (.cons (.block (.cons (.function (hsingle _)) (.refl _)))
      (.refl _)))) .nil)
  exact ⟨by decide, by decide, hexplicit, compileWith_explicit .standard (by decide) (by decide) hexplicit,
    by decide +kernel⟩

end TreeScript
