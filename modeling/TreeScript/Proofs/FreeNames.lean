/-
  TreeScript.Proofs.FreeNames — what a scope decides about a script.

  A name is free in a statement where nothing inside the statement binds it: no statement
  list around it declares it, no function has it as a parameter and no clause binds it. Two
  scopes over one library that spell the free names of a statement alike give it the same
  script, or the same failure (`stmt_congr`); what else they bind does not matter.
-/

import TreeScript.Lowering.Stmt
import TreeScript.Proofs.Nodes

namespace TreeScript.Tree

open TreeScript.Lowering (declared)

def Expr.identifier? : Expr → Option String
  | .identifier name => some name
  | _ => none

/-- The names among some nodes. -/
def identifiers (ns : List Expr) : List String := ns.filterMap Expr.identifier?

@[simp] theorem identifiers_append (ns ns' : List Expr) : identifiers (ns ++ ns') = identifiers ns ++ identifiers ns' :=
  List.filterMap_append

/-- The names that are not among those bound. -/
def outside (bound names : List String) : List String := names.filter (· ∉ bound)

theorem mem_outside {bound names : List String} {x : String} : x ∈ outside bound names ↔ x ∈ names ∧ x ∉ bound := by
  simp [outside]

mutual

/-- The names in a statement that nothing in the statement binds. -/
def Stmt.free : Stmt → List String
  | .declare _ _ value => identifiers value.nodes
  | .function _ params body => outside params (outside (declared body) (Stmt.freeAll body))
  | .clause c => c.free
  | .dispatch _ clauses => Clause.freeAll clauses
  | .branch test consequent none =>
    identifiers test.nodes ++ outside (declared consequent) (Stmt.freeAll consequent)
  | .branch test consequent (some alternate) =>
    identifiers test.nodes ++ outside (declared consequent) (Stmt.freeAll consequent) ++
      outside alternate.declared?.toList alternate.free
  | .unless test consequent => identifiers test.nodes ++ outside (declared consequent) (Stmt.freeAll consequent)
  | .ret value => identifiers value.nodes
  | .expr value => identifiers value.nodes
  | .block body => outside (declared body) (Stmt.freeAll body)

/-- The names that are free in one of some statements, whether or not another one declares them. -/
def Stmt.freeAll : List Stmt → List String
  | [] => []
  | t :: ts => t.free ++ Stmt.freeAll ts

def Clause.free : Clause → List String
  | ⟨_, patterns, guard, body⟩ =>
    outside (patterns.filterMap Pattern.bound?)
      (guard.toList.flatMap (identifiers ·.nodes) ++ outside (declared body) (Stmt.freeAll body))

def Clause.freeAll : List Clause → List String
  | [] => []
  | c :: cs => c.free ++ Clause.freeAll cs

end

end TreeScript.Tree

namespace TreeScript

/-! ## Scopes -/

namespace Scope

theorem spelled_binding (s : Scope) (names : List String) (x : String) :
    (s.binding names).spelled x = if x ∈ names then x else s.spelled x := by
  by_cases hx : x ∈ names <;> simp [spelled, binding, hx]

/-- Two scopes over one library that spell some names alike. -/
structure Agree (names : List String) (s s' : Scope) : Prop where
  library : s.library = s'.library
  spelled : ∀ x ∈ names, s.spelled x = s'.spelled x

@[simp] theorem agree_append {names names' : List String} {s s' : Scope} :
    Agree (names ++ names') s s' ↔ Agree names s s' ∧ Agree names' s s' := by
  constructor
  · intro h
    exact ⟨⟨h.library, fun x hx => h.spelled x (List.mem_append_left _ hx)⟩,
      ⟨h.library, fun x hx => h.spelled x (List.mem_append_right _ hx)⟩⟩
  · intro h
    refine ⟨h.1.library, fun x hx => ?_⟩
    rcases List.mem_append.1 hx with hx | hx
    · exact h.1.spelled x hx
    · exact h.2.spelled x hx

/-- Scopes that agree outside of some names agree everywhere once both bind them. -/
theorem Agree.binding {bound names : List String} {s s' : Scope} (h : Agree (Tree.outside bound names) s s') :
    Agree names (s.binding bound) (s'.binding bound) := by
  refine ⟨h.library, fun x hx => ?_⟩
  rw [spelled_binding, spelled_binding]
  by_cases hbound : x ∈ bound
  · rw [if_pos hbound, if_pos hbound]
  · rw [if_neg hbound, if_neg hbound]
    exact h.spelled x (Tree.mem_outside.2 ⟨hx, hbound⟩)

end Scope

namespace Lowering

open TreeScript.Scope (Agree agree_append)
open TreeScript.Tree (identifiers identifiers_append outside)

variable {s s' : Scope}

/-! ## Expressions -/

theorem builtin?_congr (h : s.library = s'.library) (e : Tree.Expr) : builtin? s e = builtin? s' e := by
  cases e with
  | identifier name => simp [builtin?, h]
  | _ => rfl

theorem isBare_congr {key : String} {shorthand : Bool} {value : Tree.Expr} (h : Agree (identifiers value.nodes) s s') :
    isBare s key shorthand value = isBare s' key shorthand value := by
  cases value with
  | identifier name =>
    by_cases hname : name = key
    · have hkey : s.spelled key = s'.spelled key := h.spelled key (by simp [identifiers, Tree.Expr.nodes,
        Tree.Expr.identifier?, hname])
      simp [isBare, hkey]
    · simp [isBare, hname]
  | _ => rfl

/-! Scopes that agree on the names of an expression agree on those of its parts. -/

theorem agree_cons {e : Tree.Expr} {ns : List Tree.Expr} :
    Agree (identifiers (e :: ns)) s s' ↔ Agree e.identifier?.toList s s' ∧ Agree (identifiers ns) s s' := by
  rw [← agree_append]
  cases e <;> rfl

theorem agree_both {ns ns' : List Tree.Expr} :
    Agree (identifiers (ns ++ ns')) s s' ↔ Agree (identifiers ns) s s' ∧ Agree (identifiers ns') s s' := by
  rw [identifiers_append, agree_append]

mutual

theorem expr_congr : (e : Tree.Expr) → Agree (identifiers e.nodes) s s' → expr s e = expr s' e
  | .conditional test consequent alternate, h => by
    simp only [Tree.Expr.nodes, agree_cons, agree_both] at h
    obtain ⟨-, ⟨htest, hconsequent⟩, halternate⟩ := h
    rw [expr, expr, expr_congr test htest, expr_congr consequent hconsequent, expr_congr alternate halternate]
  | .binary op left right, h => by
    simp only [Tree.Expr.nodes, agree_cons, agree_both] at h
    obtain ⟨-, hleft, hright⟩ := h
    rw [expr, expr, expr_congr left hleft, expr_congr right hright]
  | .unary op operand, h => by
    simp only [Tree.Expr.nodes, agree_cons] at h
    rw [expr, expr, expr_congr operand h.2]
  | .call f args, h => by
    simp only [Tree.Expr.nodes, agree_cons, agree_both] at h
    obtain ⟨-, hf, hargs⟩ := h
    rw [expr, expr, callee, callee, builtin?_congr hf.library, expr_congr f hf, exprs_congr args hargs]
  | .member object property, h => by
    simp only [Tree.Expr.nodes, agree_cons] at h
    rw [expr, expr, expr_congr object h.2]
  | .index object position, h => by
    simp only [Tree.Expr.nodes, agree_cons, agree_both] at h
    obtain ⟨-, hobject, hposition⟩ := h
    rw [expr, expr, expr_congr object hobject, expr_congr position hposition]
  | .range first last none, h => by
    simp only [Tree.Expr.nodes, agree_cons, agree_both] at h
    obtain ⟨-, hfirst, hlast⟩ := h
    rw [expr, expr, expr_congr first hfirst, expr_congr last hlast]
  | .range first last (some step), h => by
    simp only [Tree.Expr.nodes, agree_cons, agree_both] at h
    obtain ⟨-, ⟨hfirst, hlast⟩, hstep⟩ := h
    rw [expr, expr, expr_congr first hfirst, expr_congr last hlast, expr_congr step hstep]
  | .array elements, h => by
    simp only [Tree.Expr.nodes, agree_cons] at h
    rw [expr, expr, exprs_congr elements h.2]
  | .object properties, h => by
    simp only [Tree.Expr.nodes, agree_cons] at h
    rw [expr, expr, entries_congr properties h.2]
  | .identifier name, h => by rw [expr, expr, h.spelled name List.mem_cons_self]
  | .literal value, _ => rfl
  | .undefined, _ => rfl
  | .interpolated parts, h => by
    simp only [Tree.Expr.nodes, agree_cons] at h
    rw [expr, expr, templateParts_congr parts h.2]

theorem exprs_congr : (es : List Tree.Expr) → Agree (identifiers (Tree.Expr.nodesAll es)) s s' →
    exprs s es = exprs s' es
  | [], _ => rfl
  | e :: es, h => by
    simp only [Tree.Expr.nodesAll, agree_both] at h
    rw [exprs, exprs, expr_congr e h.1, exprs_congr es h.2]

theorem entries_congr : (ps : List Tree.Property) → Agree (identifiers (Tree.Property.nodesAll ps)) s s' →
    entries s ps = entries s' ps
  | [], _ => rfl
  | ⟨key, value, shorthand⟩ :: ps, h => by
    simp only [Tree.Property.nodesAll, agree_both] at h
    rw [entries, entries, isBare_congr h.1, expr_congr value h.1, entries_congr ps h.2]

theorem templateParts_congr : (ps : List Tree.Part) → Agree (identifiers (Tree.Part.nodesAll ps)) s s' →
    templateParts s ps = templateParts s' ps
  | [], _ => rfl
  | .text text :: ps, h => by rw [templateParts, templateParts, templateParts_congr ps h]
  | .expr value :: ps, h => by
    simp only [Tree.Part.nodesAll, agree_both] at h
    rw [templateParts, templateParts, expr_congr value h.1, templateParts_congr ps h.2]

end

/-! ## Statements -/

mutual

theorem stmt_congr : (t : Tree.Stmt) → {s s' : Scope} → Agree t.free s s' → stmt s t = stmt s' t
  | .declare kind name value, _, _, h => by rw [stmt, stmt, expr_congr value h]
  | .function name params body, _, _, h => by
    rw [stmt, stmt, bodyStmts_congr body (Agree.binding (Agree.binding h))]
  | .clause c, _, _, _ => by rw [stmt, stmt]
  | .dispatch name [], _, _, _ => by rw [stmt, stmt]
  | .dispatch name (c :: cs), _, _, h => by rw [stmt, stmt, clauseStmts_congr (c :: cs) h]
  | .branch test consequent none, _, _, h => by
    obtain ⟨htest, hconsequent⟩ := agree_append.1 h
    rw [stmt, stmt, expr_congr test htest, stmts_congr consequent hconsequent.binding]
  | .branch test consequent (some alternate), _, _, h => by
    obtain ⟨h, halternate⟩ := agree_append.1 h
    obtain ⟨htest, hconsequent⟩ := agree_append.1 h
    rw [stmt, stmt, expr_congr test htest, stmts_congr consequent hconsequent.binding,
      stmt_congr alternate halternate.binding]
  | .unless test consequent, _, _, h => by
    obtain ⟨htest, hconsequent⟩ := agree_append.1 h
    rw [stmt, stmt, expr_congr test htest, stmts_congr consequent hconsequent.binding]
  | .ret value, _, _, h => by rw [stmt, stmt, expr_congr value h]
  | .expr value, _, _, h => by rw [stmt, stmt, expr_congr value h]
  | .block body, _, _, h => by rw [stmt, stmt, stmts_congr body (Agree.binding h)]

theorem stmts_congr : (ts : List Tree.Stmt) → {s s' : Scope} → Agree (Tree.Stmt.freeAll ts) s s' →
    stmts s ts = stmts s' ts
  | [], _, _, _ => rfl
  | t :: ts, _, _, h => by
    obtain ⟨ht, hts⟩ := agree_append.1 h
    rw [stmts, stmts, stmt_congr t ht, stmts_congr ts hts]

theorem bodyStmts_congr : (ts : List Tree.Stmt) → {s s' : Scope} → Agree (Tree.Stmt.freeAll ts) s s' →
    bodyStmts s ts = bodyStmts s' ts
  | [], _, _, _ => rfl
  | t :: ts, s, s', h => by
    obtain ⟨ht, hts⟩ := agree_append.1 h
    by_cases hlast : ∃ value, t = .expr value ∧ ts = []
    · obtain ⟨value, rfl, rfl⟩ := hlast
      rw [bodyStmts, bodyStmts, expr_congr value ht]
    · rw [bodyStmts_cons s hlast, bodyStmts_cons s' hlast, stmt_congr t ht, bodyStmts_congr ts hts]

theorem clauseStmt_congr : (c : Tree.Clause) → {s s' : Scope} → Agree c.free s s' → clauseStmt s c = clauseStmt s' c
  | ⟨name, patterns, guard, body⟩, s, s', h => by
    obtain ⟨hguard, hbody⟩ := agree_append.1 (Agree.binding h)
    have hguard' : guard.map (expr (s.binding (patterns.filterMap Tree.Pattern.bound?))) =
        guard.map (expr (s'.binding (patterns.filterMap Tree.Pattern.bound?))) := by
      cases guard with
      | none => rfl
      | some guard =>
        rw [Option.map_some, Option.map_some, expr_congr guard (by simpa using hguard)]
    rw [clauseStmt, clauseStmt]
    simp only [hguard', bodyStmts_congr body hbody.binding]

theorem clauseStmts_congr : (cs : List Tree.Clause) → {s s' : Scope} → Agree (Tree.Clause.freeAll cs) s s' →
    clauseStmts s cs = clauseStmts s' cs
  | [], _, _, _ => rfl
  | c :: cs, _, _, h => by
    obtain ⟨hc, hcs⟩ := agree_append.1 h
    rw [clauseStmts, clauseStmts, clauseStmt_congr c hc, clauseStmts_congr cs hcs]

end

end Lowering

end TreeScript
