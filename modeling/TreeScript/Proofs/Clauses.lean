/-
  TreeScript.Proofs.Clauses — running the clauses of a dispatcher.

  The statement of a clause has four parts: the tests of its literal patterns, the
  declarations of its bindings, its guard and its body. `Block.arrive` runs such a
  statement up to its body and `arrival` runs the clauses of a dispatcher up to the first
  body that is entered. Neither knows what a body does; `execAll_blocks` says that the
  dispatcher goes on from there, in the body and, if that ends normally, in the clauses
  that follow.
-/

import TreeScript.Lowering.Stmt
import TreeScript.Proofs.Execution

namespace TreeScript

/-- The names that a clause's patterns bind. -/
def Tree.Clause.bound (c : Tree.Clause) : List String := c.patterns.filterMap Tree.Pattern.bound?

namespace Lowering

open TreeScript.Script (Completion Engine Env Exit Machine Value andThen withValue)

variable {σ : Type}

/-! ## The parts of a clause -/

/-- The parts of a clause's statement. -/
structure Block where
  tests : List Script.Expr
  bindings : List Script.Stmt
  guard : Option Script.Expr
  body : List Script.Stmt

def Block.stmt (b : Block) : Script.Stmt := guarded b.tests (b.bindings ++ afterGuard b.guard b.body)

/-- The scope of a clause's body. -/
def clauseScope (s : Scope) (c : Tree.Clause) : Scope := (s.binding c.bound).binding (declared c.body)

/-- The statements of a clause's body; none if it has no script. -/
def clauseBody (s : Scope) (c : Tree.Clause) : List Script.Stmt :=
  (bodyStmts (clauseScope s c) c.body).toOption.getD []

def block (s : Scope) (c : Tree.Clause) : Block :=
  ⟨conditions 0 c.patterns, bindings 0 c.patterns, c.guard.map (expr (s.binding c.bound)), clauseBody s c⟩

/-- The parameters of a dispatcher. -/
def parameterNames (clauses : List Tree.Clause) : List String := (List.range (Tree.arity clauses)).map argument

/-- The statements of a dispatcher, with a last one for arguments that no clause takes. -/
def dispatcherBody (s : Scope) (name : String) (clauses : List Tree.Clause) : List Script.Stmt :=
  (clauses.map (block s)).map Block.stmt ++ [.throwError ("No pattern matched for " ++ name)]

theorem toOption_eq_some {ε α : Type} {x : Except ε α} {a : α} : x.toOption = some a ↔ x = .ok a := by
  cases x <;> simp [Except.toOption]

theorem clauseStmt_eq_ok {s : Scope} {c : Tree.Clause} {t : Script.Stmt} (h : clauseStmt s c = .ok t) :
    t = (block s c).stmt ∧ bodyStmts (clauseScope s c) c.body = .ok (clauseBody s c) := by
  obtain ⟨name, patterns, guard, body⟩ := c
  obtain ⟨body', hb, rfl⟩ := clauseStmt_mk_eq_ok h
  simp [Block.stmt, block, clauseBody, clauseScope, Tree.Clause.bound, hb, Except.toOption]

theorem clauseStmts_eq_ok {s : Scope} {cs : List Tree.Clause} {ts : List Script.Stmt}
    (h : clauseStmts s cs = .ok ts) :
    ts = (cs.map (block s)).map Block.stmt ∧
      ∀ c ∈ cs, bodyStmts (clauseScope s c) c.body = .ok (clauseBody s c) := by
  induction cs generalizing ts with
  | nil =>
    cases h
    simp
  | cons c cs ih =>
    obtain ⟨t, ts', hc, hcs, rfl⟩ := clauseStmts_cons_eq_ok h
    obtain ⟨rfl, hbody⟩ := clauseStmt_eq_ok hc
    obtain ⟨rfl, hbodies⟩ := ih hcs
    exact ⟨rfl, List.forall_mem_cons.2 ⟨hbody, hbodies⟩⟩

/-- The script of a dispatcher. -/
theorem dispatch_eq_ok {s : Scope} {name : String} {cs : List Tree.Clause} {f : Script.Stmt}
    (h : stmt s (.dispatch name cs) = .ok f) :
    f = .function name (parameterNames cs) (dispatcherBody s name cs) ∧
      ∀ c ∈ cs, bodyStmts (clauseScope s c) c.body = .ok (clauseBody s c) := by
  obtain ⟨ts, hcs, rfl⟩ := stmt_dispatch_eq_ok h
  obtain ⟨rfl, hbodies⟩ := clauseStmts_eq_ok hcs
  exact ⟨rfl, hbodies⟩

/-! ## Up to the first body -/

/-- What running a clause comes to before its body: it does not apply, it ends some other way, or its body
is entered in a scope. -/
inductive Entry (σ : Type) where
  | passed (m : Machine σ)
  | stopped (how : Exit) (m : Machine σ)
  | entered (env : Env) (m : Machine σ)

/-- Goes on in the body of a clause. -/
def Entry.run (body : Env → Machine σ → Completion × Machine σ) : Entry σ → Completion × Machine σ
  | .passed m => (.normal, m)
  | .stopped how m => (.abrupt how, m)
  | .entered env m => body env m

/-- Asks a condition of a clause. -/
def ask (E : Engine σ) (test : Option Script.Expr) (env : Env) (m : Machine σ) (next : Machine σ → Entry σ) : Entry σ :=
  match test with
  | none => next m
  | some test =>
    match E.eval env test m with
    | (.threw fault, m) => .stopped (.threw fault) m
    | (.value v, m) => if v.isTruthy then next m else .passed m

namespace Block

/-- Runs a clause up to its body, once its tests hold. -/
def bind (E : Engine σ) (b : Block) (env : Env) (m : Machine σ) : Entry σ :=
  let scope := E.enter (b.bindings ++ afterGuard b.guard b.body) env m
  match E.execAll scope.1 b.bindings scope.2 with
  | (.normal, m) =>
    ask E b.guard scope.1 m fun m =>
      -- the body of a clause with a guard is a block of its own
      let inner := if b.guard.isSome then E.enter b.body scope.1 m else (scope.1, m)
      .entered inner.1 inner.2
  | (.abrupt how, m) => .stopped how m

/-- Runs a clause up to its body. -/
def arrive (E : Engine σ) (b : Block) (env : Env) (m : Machine σ) : Entry σ :=
  ask E (conjunction b.tests) env m (b.bind E env)

end Block

/-- What running the clauses of a dispatcher comes to before a body is entered. -/
inductive Arrival (σ : Type) where
  | unmatched (m : Machine σ)
  | stopped (how : Exit) (m : Machine σ)
  | entered (b : Block) (later : List Block) (env : Env) (m : Machine σ)

def arrival (E : Engine σ) (env : Env) : List Block → Machine σ → Arrival σ
  | [], m => .unmatched m
  | b :: bs, m =>
    match b.arrive E env m with
    | .passed m => arrival E env bs m
    | .stopped how m => .stopped how m
    | .entered inner m => .entered b bs inner m

/-- What a call of a dispatcher comes to before a body is entered. -/
def dispatched (E : Engine σ) (s : Scope) (name : String) (clauses : List Tree.Clause) (args : List Value) (env : Env)
    (m : Machine σ) : Arrival σ :=
  let scope := Script.frame (parameterNames clauses) (dispatcherBody s name clauses) args env m
  arrival E scope.1 (clauses.map (block s)) scope.2

/-! ## From there on -/

theorem run_ask (E : Engine σ) (test : Script.Expr) (env : Env) (m : Machine σ) (next : Machine σ → Entry σ)
    (body : Env → Machine σ → Completion × Machine σ) :
    (ask E (some test) env m next).run body =
      withValue (E.eval env test m) fun v m => if v.isTruthy then (next m).run body else (.normal, m) := by
  simp only [ask]
  rcases E.eval env test m with ⟨v | fault, m'⟩
  · by_cases hv : v.isTruthy = true
    · simp [withValue, hv]
    · simp [withValue, hv, Entry.run]
  · rfl

namespace Block

theorem run_bind (E : Engine σ) (b : Block) (env : Env) (m : Machine σ) :
    (b.bind E env m).run (fun env m => E.execAll env b.body m) =
      E.exec env (.block (b.bindings ++ afterGuard b.guard b.body)) m := by
  obtain ⟨tests, binds, guard, body⟩ := b
  simp only [bind, Engine.exec, Engine.execAll_append]
  generalize E.enter (binds ++ afterGuard guard body) env m = scope
  rcases E.execAll scope.1 binds scope.2 with ⟨_ | how, m'⟩
  · cases guard with
    | none => rfl
    | some test =>
      rw [run_ask]
      simp only [andThen, afterGuard, Engine.execAll_singleton, Engine.exec]
      rfl
  · rfl

/-- Running a clause is running it up to its body and then, if it is entered, its body. -/
theorem exec_stmt (E : Engine σ) (b : Block) (env : Env) (m : Machine σ) :
    E.exec env b.stmt m = (b.arrive E env m).run fun env m => E.execAll env b.body m := by
  simp only [stmt, guarded, arrive]
  cases conjunction b.tests with
  | none => exact (run_bind E b env m).symm
  | some test =>
    rw [run_ask]
    simp only [run_bind, Engine.exec]

/-- The statement of a clause is a block or a branch. -/
theorem lexical?_stmt (b : Block) : b.stmt.lexical? = none := by
  simp only [stmt, guarded]
  cases conjunction b.tests <;> rfl

end Block

/-- A dispatcher runs its clauses up to the first body that is entered and goes on in that body; if it ends
normally, the clauses after it are next. -/
theorem execAll_blocks (E : Engine σ) (env : Env) (bs : List Block) (rest : List Script.Stmt) (m : Machine σ) :
    E.execAll env (bs.map Block.stmt ++ rest) m =
      match arrival E env bs m with
      | .unmatched m => E.execAll env rest m
      | .stopped how m => (.abrupt how, m)
      | .entered b later inner m =>
        andThen (E.execAll inner b.body m) (E.execAll env (later.map Block.stmt ++ rest)) := by
  induction bs generalizing m with
  | nil => rfl
  | cons b bs ih =>
    simp only [List.map_cons, List.cons_append, Engine.execAll, Block.exec_stmt, arrival]
    rcases b.arrive E env m with m' | ⟨how, m'⟩ | ⟨inner, m'⟩
    · exact ih m'
    · rfl
    · rfl

theorem lexicals_dispatcherBody (s : Scope) (name : String) (clauses : List Tree.Clause) :
    Script.lexicals (dispatcherBody s name clauses) = [] := by
  simp [Script.lexicals, dispatcherBody, Block.lexical?_stmt]
  rfl

/-- A call of a dispatcher, by the first body that is entered. -/
theorem call_dispatcher (E : Engine σ) (s : Scope) (name : String) (clauses : List Tree.Clause) (args : List Value)
    (env : Env) (m : Machine σ) :
    E.call (parameterNames clauses) (dispatcherBody s name clauses) args env m =
      let scope := Script.frame (parameterNames clauses) (dispatcherBody s name clauses) args env m
      let last : Script.Stmt := .throwError ("No pattern matched for " ++ name)
      match dispatched E s name clauses args env m with
      | .unmatched m => E.exec scope.1 last m
      | .stopped how m => (.abrupt how, m)
      | .entered b later inner m =>
        andThen (E.execAll inner b.body m) (E.execAll scope.1 (later.map Block.stmt ++ [last])) := by
  simp only [Engine.call, E.enter_eq_self (lexicals_dispatcherBody s name clauses), dispatched]
  generalize Script.frame (parameterNames clauses) (dispatcherBody s name clauses) args env m = scope
  rw [dispatcherBody, execAll_blocks]
  simp only [Engine.execAll_singleton]

end Lowering

end TreeScript
