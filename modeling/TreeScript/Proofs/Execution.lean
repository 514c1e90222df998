/-
  TreeScript.Proofs.Execution — how the statements of a script run.

  A variable is a cell, and a scope says which cell a name stands for. Entering a block
  reserves a cell for each name that the block declares; the cells of its functions get
  their values at once, all others are empty until their declaration has run, and reading an
  empty cell is an error. A name declared with `var` belongs to the function around it. A
  script in which one scope declares a name twice is refused before any of it runs: it is
  not `legal`.

  Functions in blocks follow the main text of the language's standard: they belong to the
  block. What its Annex B.3.2 adds for them outside of strict mode is left out: a variable
  of the same name in the function around the block, and leave to declare two functions of
  one name in one block.

  What expressions evaluate to is up to an engine. All that is asked of one is that it
  leaves the variables that have a value alone: scripts have no assignments. A `standard`
  engine moreover evaluates names, literals, comparisons and conjunctions as the language
  says, and leaves only the rest open.
-/

import TreeScript.Script.Basic

namespace TreeScript

/-- Equality of numbers: not-a-number equals nothing, and the two zeros are equal. -/
def Binary64.equals (x y : Binary64) : Bool := !x.isNaN && !y.isNaN && (x = y || (x.isZero && y.isZero))

namespace Script

/-! ## Values and variables -/

/-- A value of a running script. A symbol is known by the key it is registered under; objects, functions
and all else that has an identity of its own are `other`. -/
inductive Value where
  | undefined
  | null
  | boolean (value : Bool)
  | number (value : Binary64)
  | string (value : String)
  | symbol (key : String)
  | other (identity : Nat)
  deriving DecidableEq, Repr

namespace Value

def strictlyEquals : Value → Value → Bool
  | .number x, .number y => x.equals y
  | x, y => x = y

/-- Whether a value is loosely equal to `null`. -/
def isNullish : Value → Bool
  | .undefined | .null => true
  | _ => false

/-- Whether a test that evaluates to this value holds. -/
def isTruthy : Value → Bool
  | .undefined | .null => false
  | .boolean value => value
  | .number value => !value.isNaN && !value.isZero
  | .string value => value ≠ ""
  | .symbol _ | .other _ => true

end Value

/-- What is thrown: an error with a message, the error of reading a variable before its declaration has
run, or any value. -/
inductive Fault where
  | error (message : String)
  | uninitialised (name : String)
  | thrown (value : Value)
  deriving DecidableEq, Repr

inductive Outcome where
  | value (value : Value)
  | threw (fault : Fault)
  deriving DecidableEq, Repr

/-- How statements are left before their end. -/
inductive Exit where
  | returned (value : Value)
  | threw (fault : Fault)
  deriving DecidableEq, Repr

/-- How a statement ends. -/
inductive Completion where
  | normal
  | abrupt (how : Exit)
  deriving DecidableEq, Repr

/-- The cells of all variables, the number of identities in use, and what else an engine keeps. -/
structure Machine (σ : Type) where
  cells : List (Option Value)
  objects : Nat
  world : σ

/-- The cell that each name stands for. -/
abbrev Env := String → Option Nat

variable {σ : Type}

def Env.bind (env : Env) (name : String) (cell : Nat) : Env := fun n => if n = name then some cell else env n

namespace Machine

/-- The value of a cell that has one. -/
def read (m : Machine σ) (cell : Nat) : Option Value := m.cells[cell]?.join

def write (m : Machine σ) (cell : Nat) (value : Value) : Machine σ := { m with cells := m.cells.set cell (some value) }

def assign (m : Machine σ) (env : Env) (name : String) (value : Value) : Machine σ :=
  match env name with
  | some cell => m.write cell value
  | none => m

/-- Gives variables their values. -/
def fill (env : Env) : List (String × Value) → Machine σ → Machine σ
  | [], m => m
  | (name, value) :: rest, m => fill env rest (m.assign env name value)

/-- What evaluation may not undo: variables keep their values, and identities stay in use. -/
structure Keeps (m m' : Machine σ) : Prop where
  read : ∀ cell value, m.read cell = some value → m'.read cell = some value
  objects : m.objects ≤ m'.objects

theorem Keeps.refl (m : Machine σ) : m.Keeps m := ⟨fun _ _ h => h, Nat.le_refl _⟩

theorem Keeps.trans {m₁ m₂ m₃ : Machine σ} (h : m₁.Keeps m₂) (h' : m₂.Keeps m₃) : m₁.Keeps m₃ :=
  ⟨fun cell value hr => h'.read cell value (h.read cell value hr), Nat.le_trans h.objects h'.objects⟩

end Machine

/-- A scope with an empty cell for each of some names. -/
def reserve : List String → Env → Machine σ → Env × Machine σ
  | [], env, m => (env, m)
  | name :: names, env, m => reserve names (env.bind name m.cells.length) { m with cells := m.cells ++ [none] }

/-- A scope with new variables that have values. -/
def allocate (vs : List (String × Value)) (env : Env) (m : Machine σ) : Env × Machine σ :=
  let scope := reserve (vs.map Prod.fst) env m
  (scope.1, scope.2.fill scope.1 vs)

/-! ## Declarations -/

/-- The name that a statement declares with `const` or `let`. -/
def Stmt.let? : Stmt → Option String
  | .declare .var _ _ => none
  | .declare _ name _ => some name
  | _ => none

def Stmt.function? : Stmt → Option String
  | .function name _ _ => some name
  | _ => none

/-- The name that a statement declares in the block it stands in. -/
def Stmt.lexical? (t : Stmt) : Option String := t.let?.or t.function?

def lexicals (body : List Stmt) : List String := body.filterMap Stmt.lexical?

mutual

/-- The names that a statement declares in the function around it. -/
def Stmt.vars : Stmt → List String
  | .declare .var name _ => [name]
  | .branch _ consequent none => vars consequent
  | .branch _ consequent (some alternate) => vars consequent ++ alternate.vars
  | .block body => vars body
  | _ => []

def vars : List Stmt → List String
  | [] => []
  | t :: ts => t.vars ++ vars ts

end

/-- Whether names are declared once among themselves and are not declared as variables too. -/
def declaredOnce (names others : List String) : Bool := decide (names.Nodup ∧ ∀ name ∈ names, name ∉ others)

mutual

/-- Whether no scope in a statement declares a name twice. At the top of a function's body, functions count
as variables. Names are taken for identifiers here: reserved words and other texts are not refused. -/
def Stmt.legal : Stmt → Bool
  | .function _ params body =>
    declaredOnce (body.filterMap Stmt.let?) (params ++ body.filterMap Stmt.function? ++ vars body) &&
      legalAll body
  | .branch _ consequent none => declaredOnce (lexicals consequent) (vars consequent) && legalAll consequent
  | .branch _ consequent (some alternate) =>
    declaredOnce (lexicals consequent) (vars consequent) && legalAll consequent && alternate.legal
  | .block body => declaredOnce (lexicals body) (vars body) && legalAll body
  | _ => true

def legalAll : List Stmt → Bool
  | [] => true
  | t :: ts => t.legal && legalAll ts

end

/-! ## Statements -/

/-- Evaluates the expressions of scripts, and makes functions. -/
structure Engine (σ : Type) where
  eval : Env → Expr → Machine σ → Outcome × Machine σ
  /-- Notes that an identity stands for a function, with the scope it was made in. -/
  closure : Env → List String → List Stmt → Nat → σ → σ
  keeps : ∀ (env : Env) (e : Expr) (m : Machine σ), m.Keeps (eval env e m).2

/-- Goes on after a statement that ended normally. -/
def andThen (r : Completion × Machine σ) (next : Machine σ → Completion × Machine σ) : Completion × Machine σ :=
  match r with
  | (.normal, m) => next m
  | (.abrupt how, m) => (.abrupt how, m)

/-- Goes on with the value of an expression. -/
def withValue (r : Outcome × Machine σ) (next : Value → Machine σ → Completion × Machine σ) :
    Completion × Machine σ :=
  match r with
  | (.value v, m) => next v m
  | (.threw fault, m) => (.abrupt (.threw fault), m)

namespace Engine

variable (E : Engine σ)

/-- Makes the functions that statements declare. -/
def hoist (env : Env) : List Stmt → Machine σ → Machine σ
  | [], m => m
  | .function name params body :: ts, m =>
    let made : Machine σ := { m with objects := m.objects + 1, world := E.closure env params body m.objects m.world }
    hoist env ts (made.assign env name (.other m.objects))
  | _ :: ts, m => hoist env ts m

/-- The scope of a block, as its first statement finds it. -/
def enter (body : List Stmt) (env : Env) (m : Machine σ) : Env × Machine σ :=
  let scope := reserve (lexicals body) env m
  (scope.1, E.hoist scope.1 body scope.2)

mutual

def exec (env : Env) : Stmt → Machine σ → Completion × Machine σ
  | .declare _ name value, m => withValue (E.eval env value m) fun v m => (.normal, m.assign env name v)
  | .function _ _ _, m => (.normal, m)
  | .branch test consequent none, m =>
    withValue (E.eval env test m) fun v m =>
      if v.isTruthy then execAll (E.enter consequent env m).1 consequent (E.enter consequent env m).2
      else (.normal, m)
  | .branch test consequent (some alternate), m =>
    withValue (E.eval env test m) fun v m =>
      if v.isTruthy then execAll (E.enter consequent env m).1 consequent (E.enter consequent env m).2
      else exec env alternate m
  | .ret value, m => withValue (E.eval env value m) fun v m => (.abrupt (.returned v), m)
  | .throwError message, m =>
    -- the class of the error is a name too, and may have been declared otherwise
    match env "Error" with
    | none => (.abrupt (.threw (.error message)), m)
    | some _ =>
      withValue (E.eval env (.construct "Error" [.string message]) m) fun v m => (.abrupt (.threw (.thrown v)), m)
  | .expr value, m => withValue (E.eval env value m) fun _ m => (.normal, m)
  | .block body, m => execAll (E.enter body env m).1 body (E.enter body env m).2

/-- Runs statements in order, up to one that does not end normally. -/
def execAll (env : Env) : List Stmt → Machine σ → Completion × Machine σ
  | [], m => (.normal, m)
  | t :: ts, m => andThen (exec env t m) (execAll env ts)

end

end Engine

theorem andThen_assoc (r : Completion × Machine σ) (f g : Machine σ → Completion × Machine σ) :
    andThen (andThen r f) g = andThen r fun m => andThen (f m) g := by
  rcases r with ⟨_ | how, m⟩ <;> rfl

theorem andThen_eq_self {r : Completion × Machine σ} {next : Machine σ → Completion × Machine σ}
    (h : r.1 ≠ .normal) : andThen r next = r := by
  rcases r with ⟨_ | how, m⟩
  · exact absurd rfl h
  · rfl

theorem andThen_fst_ne_normal {r : Completion × Machine σ} {next : Machine σ → Completion × Machine σ}
    (h : r.1 ≠ .normal ∨ ∀ m, (next m).1 ≠ .normal) : (andThen r next).1 ≠ .normal := by
  rcases r with ⟨_ | how, m⟩
  · exact (h.resolve_left fun hr => hr rfl) m
  · exact Completion.noConfusion

theorem Engine.execAll_singleton (E : Engine σ) (env : Env) (t : Stmt) (m : Machine σ) :
    E.execAll env [t] m = E.exec env t m := by
  simp only [execAll]
  rcases E.exec env t m with ⟨_ | how, m'⟩ <;> rfl

theorem Engine.execAll_append (E : Engine σ) (env : Env) (ts us : List Stmt) (m : Machine σ) :
    E.execAll env (ts ++ us) m = andThen (E.execAll env ts m) (E.execAll env us) := by
  induction ts generalizing m with
  | nil => rfl
  | cons t ts ih =>
    have tail : E.execAll env (ts ++ us) = fun m => andThen (E.execAll env ts m) (E.execAll env us) := funext ih
    simp only [List.cons_append, execAll, andThen_assoc, tail]

/-- A block that declares nothing has the scope around it. -/
theorem Engine.enter_eq_self (E : Engine σ) {body : List Stmt} (h : lexicals body = []) (env : Env)
    (m : Machine σ) : E.enter body env m = (env, m) := by
  have hoisted (env : Env) (m : Machine σ) : E.hoist env body m = m := by
    induction body with
    | nil => rfl
    | cons t ts ih =>
      rw [lexicals, List.filterMap_eq_nil_iff, List.forall_mem_cons] at h
      have hts : E.hoist env ts m = m := ih (List.filterMap_eq_nil_iff.2 h.2)
      cases t with
      | function name params body => exact absurd h.1 (Option.some_ne_none name)
      | _ => exact hts
  simp [enter, h, reserve, hoisted]

/-- The parameters of a function; one without an argument is `undefined`. -/
def parameters : List String → List Value → List (String × Value)
  | [], _ => []
  | param :: params, args => (param, args.headD .undefined) :: parameters params args.tail

/-- The scope of a call, before the function's body is entered. -/
def frame (params : List String) (body : List Stmt) (args : List Value) (env : Env) (m : Machine σ) :
    Env × Machine σ :=
  let scope := allocate (parameters params args) env m
  allocate (((vars body).filter (· ∉ params)).map fun name => (name, .undefined)) scope.1 scope.2

/-- Calls a function that was declared in the scope `env`. -/
def Engine.call (E : Engine σ) (params : List String) (body : List Stmt) (args : List Value) (env : Env)
    (m : Machine σ) : Completion × Machine σ :=
  let outer := frame params body args env m
  let scope := E.enter body outer.1 outer.2
  E.execAll scope.1 body scope.2

/-! ## Standard engines -/

/-- The value of a constant, and the global name that spells it, if one does. -/
def Expr.constant? : Expr → Option (Value × Option String)
  | .number value =>
    some (.number value, if value.isNaN then some "NaN" else if value.isInfinite then some "Infinity" else none)
  | .boolean value => some (.boolean value, none)
  | .null => some (.null, none)
  | .undefined => some (.undefined, some "undefined")
  | .string value => some (.string value, none)
  | .call (.member (.name holder) method) [.string key] =>
    if holder = "Symbol" ∧ method = "for" then some (.symbol key, some "Symbol") else none
  | _ => none

/-- What a standard engine leaves open: global variables, calls, arithmetic, objects and so on. -/
structure Primitives (σ : Type) where
  other : Env → Expr → Machine σ → Outcome × Machine σ
  closure : Env → List String → List Stmt → Nat → σ → σ
  keeps : ∀ (env : Env) (e : Expr) (m : Machine σ), m.Keeps (other env e m).2

/-- Goes on with the value of a part of an expression. -/
def evalThen (r : Outcome × Machine σ) (next : Value → Machine σ → Outcome × Machine σ) : Outcome × Machine σ :=
  match r with
  | (.value v, m) => next v m
  | (.threw fault, m) => (.threw fault, m)

theorem keeps_evalThen {m : Machine σ} {r : Outcome × Machine σ} {next : Value → Machine σ → Outcome × Machine σ}
    (h : m.Keeps r.2) (hnext : ∀ (v : Value) (m' : Machine σ), m'.Keeps (next v m').2) : m.Keeps (evalThen r next).2 := by
  unfold evalThen
  split
  · exact h.trans (hnext _ _)
  · exact h

namespace Primitives

variable (P : Primitives σ)

/-- Reads a variable. -/
def lookup (env : Env) (name : String) (m : Machine σ) : Outcome × Machine σ :=
  match env name with
  | none => P.other env (.name name) m
  | some cell => ((m.read cell).elim (.threw (.uninitialised name)) .value, m)

/-- A constant has its value where the name that spells it has not been declared otherwise. -/
def constant (env : Env) (e : Expr) (m : Machine σ) : Outcome × Machine σ :=
  match e.constant? with
  | some (v, global) => if global.all fun name => (env name).isNone then (.value v, m) else P.other env e m
  | none => P.other env e m

def eval (env : Env) : Expr → Machine σ → Outcome × Machine σ
  | .name name, m => P.lookup env name m
  | .paren inner, m => eval env inner m
  | .binary .strictEq left right, m =>
    evalThen (eval env left m) fun v m =>
      evalThen (eval env right m) fun w m => (.value (.boolean (v.strictlyEquals w)), m)
  | .binary .looseEq left .null, m => evalThen (eval env left m) fun v m => (.value (.boolean v.isNullish), m)
  | .binary .and left right, m =>
    evalThen (eval env left m) fun v m => if v.isTruthy then eval env right m else (.value v, m)
  | e, m => P.constant env e m

theorem eval_strictEq (env : Env) (left right : Expr) (m : Machine σ) :
    P.eval env (.binary .strictEq left right) m = evalThen (P.eval env left m) fun v m =>
      evalThen (P.eval env right m) fun w m => (.value (.boolean (v.strictlyEquals w)), m) := rfl

theorem eval_looseEq_null (env : Env) (left : Expr) (m : Machine σ) :
    P.eval env (.binary .looseEq left .null) m =
      evalThen (P.eval env left m) fun v m => (.value (.boolean v.isNullish), m) := rfl

theorem eval_and (env : Env) (left right : Expr) (m : Machine σ) :
    P.eval env (.binary .and left right) m =
      evalThen (P.eval env left m) fun v m => if v.isTruthy then P.eval env right m else (.value v, m) := rfl

theorem keeps_lookup (env : Env) (name : String) (m : Machine σ) : m.Keeps (P.lookup env name m).2 := by
  unfold lookup
  split
  · exact P.keeps env _ m
  · exact .refl m

theorem keeps_constant (env : Env) (e : Expr) (m : Machine σ) : m.Keeps (P.constant env e m).2 := by
  unfold constant
  split
  · split
    · exact .refl m
    · exact P.keeps env e m
  · exact P.keeps env e m

theorem keeps_eval (env : Env) (e : Expr) (m : Machine σ) : m.Keeps (P.eval env e m).2 := by
  fun_induction P.eval env e m with
  | case1 name m => exact P.keeps_lookup env name m
  | case2 inner m ih => exact ih
  | case3 left right m ihl ihr =>
    exact keeps_evalThen ihl fun v m' => keeps_evalThen (ihr m') fun w m'' => .refl m''
  | case4 left m ih => exact keeps_evalThen ih fun v m' => .refl m'
  | case5 left right m ihl ihr =>
    refine keeps_evalThen ihl fun v m' => ?_
    split
    · exact ihr m'
    · exact .refl m'
  | case6 e m => exact P.keeps_constant env e m

/-- The engine that evaluates as the language says what the language fixes. -/
def standard : Engine σ := ⟨P.eval, P.closure, P.keeps_eval⟩

/-- All that is left open is `undefined`. -/
def blank : Primitives Unit := ⟨fun _ _ m => (.value .undefined, m), fun _ _ _ _ world => world, fun _ _ m => .refl m⟩

end Primitives

end Script

end TreeScript
