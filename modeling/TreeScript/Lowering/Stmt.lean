/-
  TreeScript.Lowering.Stmt — statements of a tree as statements of a script.

  A statement list binds the names that it declares, in itself and in all it encloses. The
  last statement of a function's body, when it is an expression, is returned. A dispatcher
  is a function that tries its clauses in order: a clause's literal patterns are the
  condition of a block, which binds the other arguments and then asks the guard. A failure
  names the innermost function that it passed out of.
-/

import TreeScript.Lowering.Expr

namespace TreeScript.Lowering

/-- What is wrong with a statement: a clause outside of the top level, or a dispatcher without clauses. -/
inductive Fault where
  | strayClause
  | emptyDispatch
  deriving DecidableEq, Repr

def Fault.header : Fault → String
  | .strayClause => "unmerged pattern clause"
  | .emptyDispatch => "pattern function without clauses"

def Fault.footer : Fault → String
  | .strayClause => "Help: pattern clauses are only merged into functions at the top level of a program."
  | .emptyDispatch => "Help: dispatchers are built from at least one clause."

/-- Why a statement has no script, and the function that this was found in. -/
structure Failure where
  fault : Fault
  function : Option String := none
  deriving DecidableEq, Repr

namespace Failure

/-- A failure that passes out of a function takes its name, unless it has one already. -/
def within (f : Failure) (name : String) : Failure := { f with function := some (f.function.getD name) }

def diagnostic (f : Failure) : Diagnostic := { header := f.fault.header, footer := f.fault.footer, function := f.function }

theorem diagnostic_within (f : Failure) (name : String) : (f.within name).diagnostic = f.diagnostic.within name := rfl

end Failure

/-- The names that a statement list declares. -/
def declared (body : List Tree.Stmt) : List String := body.filterMap Tree.Stmt.declared?

/-- Whether an expression's text begins with an object literal, whose brace would open a block. -/
def startsWithObject : Tree.Expr → Bool
  | .object _ => true
  | .member object _ => startsWithObject object
  | .index object _ => startsWithObject object
  | .call f _ => startsWithObject f
  | .binary .intDiv _ _ => false
  | .binary .concat _ _ => false
  | .binary .append _ _ => false
  | .binary _ left _ => startsWithObject left
  | _ => false

/-! ## Clauses -/

/-- The parameter of a dispatcher at a position. -/
def argument (position : Nat) : String := "_arg" ++ toString position

/-- What the literal patterns demand of the arguments from `position` on. -/
def conditions (position : Nat) : List Tree.Pattern → List Script.Expr
  | [] => []
  | .literal value :: ps =>
    .binary (if value = .nil then .looseEq else .strictEq) (.name (argument position)) (literal value) ::
      conditions (position + 1) ps
  | _ :: ps => conditions (position + 1) ps

/-- The declarations of the arguments that patterns bind, from `position` on. -/
def bindings (position : Nat) : List Tree.Pattern → List Script.Stmt
  | [] => []
  | .binding name :: ps =>
    .declare .const name (.name (argument position)) :: bindings (position + 1) ps
  | _ :: ps => bindings (position + 1) ps

def conjunction : List Script.Expr → Option Script.Expr
  | [] => none
  | e :: es => some (es.foldl (.binary .and) e)

/-- A clause's statements, run if its conditions hold. -/
def guarded (conditions : List Script.Expr) (body : List Script.Stmt) : Script.Stmt :=
  match conjunction conditions with
  | none => .block body
  | some test => .branch test body none

/-- A clause's body, run if its guard holds. -/
def afterGuard (guard : Option Script.Expr) (body : List Script.Stmt) : List Script.Stmt :=
  match guard with
  | none => body
  | some test => [.branch test body none]

/-- Whether a statement can follow `else` as it is. -/
def followsElse : Tree.Stmt → Bool
  | .branch _ _ _ => true
  | .block _ => true
  | _ => false

/-- An alternate branch; a statement that cannot follow `else` is put in a block. -/
def alternative (t : Tree.Stmt) (t' : Script.Stmt) : Script.Stmt := if followsElse t then t' else .block [t']

mutual

def stmt (s : Scope) : Tree.Stmt → Except Failure Script.Stmt
  | .declare kind name value => .ok (.declare kind name (expr s value))
  | .function name params body => do
    let body' ← (bodyStmts ((s.binding params).binding (declared body)) body).mapError (·.within name)
    return .function name params body'
  | .clause c => .error (Failure.within { fault := .strayClause } c.name)
  | .dispatch name [] => .error (Failure.within { fault := .emptyDispatch } name)
  | .dispatch name (c :: cs) => do
    let clauses' ← (clauseStmts s (c :: cs)).mapError (·.within name)
    return .function name ((List.range (Tree.arity (c :: cs))).map argument)
      (clauses' ++ [.throwError ("No pattern matched for " ++ name)])
  | .branch test consequent none => do
    let consequent' ← stmts (s.binding (declared consequent)) consequent
    return .branch (expr s test) consequent' none
  | .branch test consequent (some alternate) => do
    let consequent' ← stmts (s.binding (declared consequent)) consequent
    let alternate' ← stmt (s.binding alternate.declared?.toList) alternate
    return .branch (expr s test) consequent' (some (alternative alternate alternate'))
  | .unless test consequent => do
    let consequent' ← stmts (s.binding (declared consequent)) consequent
    return .branch (.unary .not (.paren (expr s test))) consequent' none
  | .ret value => .ok (.ret (expr s value))
  | .expr value => .ok (.expr (wrapped (startsWithObject value) (expr s value)))
  | .block body => do
    let body' ← stmts (s.binding (declared body)) body
    return .block body'

def stmts (s : Scope) : List Tree.Stmt → Except Failure (List Script.Stmt)
  | [] => .ok []
  | t :: ts => do
    let t' ← stmt s t
    let ts' ← stmts s ts
    return t' :: ts'

/-- The statements of a function's body: an expression at its end is returned. -/
def bodyStmts (s : Scope) : List Tree.Stmt → Except Failure (List Script.Stmt)
  | [] => .ok []
  | [.expr value] => .ok [.ret (expr s value)]
  | t :: ts => do
    let t' ← stmt s t
    let ts' ← bodyStmts s ts
    return t' :: ts'

def clauseStmt (s : Scope) : Tree.Clause → Except Failure Script.Stmt
  | ⟨_, patterns, guard, body⟩ => do
    let inner := s.binding (patterns.filterMap Tree.Pattern.bound?)
    let body' ← bodyStmts (inner.binding (declared body)) body
    return guarded (conditions 0 patterns)
      (bindings 0 patterns ++ afterGuard (guard.map (expr inner)) body')

def clauseStmts (s : Scope) : List Tree.Clause → Except Failure (List Script.Stmt)
  | [] => .ok []
  | c :: cs => do
    let c' ← clauseStmt s c
    let cs' ← clauseStmts s cs
    return c' :: cs'

end

/-- A statement of a body is lowered like any other, unless it is an expression at the end. -/
theorem bodyStmts_cons (s : Scope) {t : Tree.Stmt} {ts : List Tree.Stmt} (h : ¬ ∃ value, t = .expr value ∧ ts = []) :
    bodyStmts s (t :: ts) = do
      let t' ← stmt s t
      let ts' ← bodyStmts s ts
      return t' :: ts' :=
  bodyStmts.eq_3 s t ts fun value ht hts => h ⟨value, ht, hts⟩

/-! ## What has a script

A statement has a script if the statements in it have theirs, and its script is made of theirs. -/

section Scripts

variable {s : Scope} {t' : Script.Stmt} {ts' : List Script.Stmt}

theorem bind_eq_ok {ε α β : Type} {x : Except ε α} {f : α → Except ε β} {b : β} :
    (x >>= f) = .ok b ↔ ∃ a, x = .ok a ∧ f a = .ok b := by
  cases x <;> simp [bind, Except.bind]

theorem mapError_eq_ok {ε ε' α : Type} {x : Except ε α} {f : ε → ε'} {a : α} : x.mapError f = .ok a ↔ x = .ok a := by
  constructor
  · intro h
    cases x with
    | ok b =>
      cases h
      rfl
    | error e => cases h
  · intro h
    rw [h]
    rfl

theorem stmt_function_eq_ok {name : String} {params : List String} {body : List Tree.Stmt}
    (h : stmt s (.function name params body) = .ok t') :
    ∃ body', bodyStmts ((s.binding params).binding (declared body)) body = .ok body' ∧
      t' = .function name params body' := by
  rw [stmt] at h
  obtain ⟨body', hb, h⟩ := bind_eq_ok.1 h
  cases h
  exact ⟨body', mapError_eq_ok.1 hb, rfl⟩

/-- The script of a dispatcher ends with what is thrown for arguments that no clause takes. -/
theorem stmt_dispatch_eq_ok {name : String} {cs : List Tree.Clause} (h : stmt s (.dispatch name cs) = .ok t') :
    ∃ clauses', clauseStmts s cs = .ok clauses' ∧
      t' = .function name ((List.range (Tree.arity cs)).map argument)
        (clauses' ++ [.throwError ("No pattern matched for " ++ name)]) := by
  cases cs with
  | nil => cases h
  | cons c cs =>
    rw [stmt] at h
    obtain ⟨clauses', hc, h⟩ := bind_eq_ok.1 h
    cases h
    exact ⟨clauses', mapError_eq_ok.1 hc, rfl⟩

theorem stmt_branch_eq_ok {test : Tree.Expr} {consequent : List Tree.Stmt}
    (h : stmt s (.branch test consequent none) = .ok t') :
    ∃ consequent', stmts (s.binding (declared consequent)) consequent = .ok consequent' ∧
      t' = .branch (expr s test) consequent' none := by
  rw [stmt] at h
  obtain ⟨consequent', hc, h⟩ := bind_eq_ok.1 h
  cases h
  exact ⟨consequent', hc, rfl⟩

theorem stmt_branchElse_eq_ok {test : Tree.Expr} {consequent : List Tree.Stmt} {alternate : Tree.Stmt}
    (h : stmt s (.branch test consequent (some alternate)) = .ok t') :
    ∃ consequent' alternate', stmts (s.binding (declared consequent)) consequent = .ok consequent' ∧
      stmt (s.binding (declared [alternate])) alternate = .ok alternate' ∧
      t' = .branch (expr s test) consequent' (some (alternative alternate alternate')) := by
  have hdeclared : alternate.declared?.toList = declared [alternate] := by
    cases hname : alternate.declared? <;> simp [declared, hname]
  rw [stmt, hdeclared] at h
  obtain ⟨consequent', hc, h⟩ := bind_eq_ok.1 h
  obtain ⟨alternate', ha, h⟩ := bind_eq_ok.1 h
  cases h
  exact ⟨consequent', alternate', hc, ha, rfl⟩

theorem stmt_unless_eq_ok {test : Tree.Expr} {consequent : List Tree.Stmt}
    (h : stmt s (.unless test consequent) = .ok t') :
    ∃ consequent', stmts (s.binding (declared consequent)) consequent = .ok consequent' ∧
      t' = .branch (.unary .not (.paren (expr s test))) consequent' none := by
  rw [stmt] at h
  obtain ⟨consequent', hc, h⟩ := bind_eq_ok.1 h
  cases h
  exact ⟨consequent', hc, rfl⟩

theorem stmt_block_eq_ok {body : List Tree.Stmt} (h : stmt s (.block body) = .ok t') :
    ∃ body', stmts (s.binding (declared body)) body = .ok body' ∧ t' = .block body' := by
  rw [stmt] at h
  obtain ⟨body', hb, h⟩ := bind_eq_ok.1 h
  cases h
  exact ⟨body', hb, rfl⟩

theorem stmts_cons_eq_ok {t : Tree.Stmt} {ts : List Tree.Stmt} (h : stmts s (t :: ts) = .ok ts') :
    ∃ u us, stmt s t = .ok u ∧ stmts s ts = .ok us ∧ ts' = u :: us := by
  rw [stmts] at h
  obtain ⟨u, hu, h⟩ := bind_eq_ok.1 h
  obtain ⟨us, hus, h⟩ := bind_eq_ok.1 h
  cases h
  exact ⟨u, us, hu, hus, rfl⟩

/-- A body is an expression that is returned, or a statement and the rest of the body. -/
theorem bodyStmts_cons_eq_ok {t : Tree.Stmt} {ts : List Tree.Stmt} (h : bodyStmts s (t :: ts) = .ok ts') :
    (∃ value, t = .expr value ∧ ts = [] ∧ ts' = [.ret (expr s value)]) ∨
      (¬ ∃ value, t = .expr value ∧ ts = []) ∧
        ∃ u us, stmt s t = .ok u ∧ bodyStmts s ts = .ok us ∧ ts' = u :: us := by
  by_cases hlast : ∃ value, t = .expr value ∧ ts = []
  · obtain ⟨value, rfl, rfl⟩ := hlast
    cases h
    exact .inl ⟨value, rfl, rfl, rfl⟩
  · rw [bodyStmts_cons s hlast] at h
    obtain ⟨u, hu, h⟩ := bind_eq_ok.1 h
    obtain ⟨us, hus, h⟩ := bind_eq_ok.1 h
    cases h
    exact .inr ⟨hlast, u, us, hu, hus, rfl⟩

theorem clauseStmt_mk_eq_ok {name : String} {patterns : List Tree.Pattern} {guard : Option Tree.Expr} {body : List Tree.Stmt}
    (h : clauseStmt s ⟨name, patterns, guard, body⟩ = .ok t') :
    let inner := s.binding (patterns.filterMap Tree.Pattern.bound?)
    ∃ body', bodyStmts (inner.binding (declared body)) body = .ok body' ∧
      t' = guarded (conditions 0 patterns) (bindings 0 patterns ++ afterGuard (guard.map (expr inner)) body') := by
  rw [clauseStmt] at h
  obtain ⟨body', hb, h⟩ := bind_eq_ok.1 h
  cases h
  exact ⟨body', hb, rfl⟩

theorem clauseStmts_cons_eq_ok {c : Tree.Clause} {cs : List Tree.Clause} (h : clauseStmts s (c :: cs) = .ok ts') :
    ∃ u us, clauseStmt s c = .ok u ∧ clauseStmts s cs = .ok us ∧ ts' = u :: us := by
  rw [clauseStmts] at h
  obtain ⟨u, hu, h⟩ := bind_eq_ok.1 h
  obtain ⟨us, hus, h⟩ := bind_eq_ok.1 h
  cases h
  exact ⟨u, us, hu, hus, rfl⟩

end Scripts

theorem stmts_eq_mapM (s : Scope) (ts : List Tree.Stmt) : stmts s ts = ts.mapM (stmt s) := by
  induction ts with
  | nil => rfl
  | cons t ts ih => simp [stmts, ih]

end TreeScript.Lowering
