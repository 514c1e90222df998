/-
  TreeScript.Lowering.Expr — expressions of a tree as expressions of a script.

  Three operators have no counterpart in scripts and become calls; equality is loose
  exactly when one side is nil. An operand is put in parentheses where the script's grammar
  would otherwise regroup it. A name is spelled by the library's alias unless a declaration
  around it binds it; a call of a built-in goes to the module that owns it.
-/

import TreeScript.Library.Basic

namespace TreeScript

/-- What an expression is written against: the library, and the names bound around it. -/
structure Scope where
  library : Library
  bound : List String := []

namespace Scope

def binding (s : Scope) (names : List String) : Scope := { s with bound := s.bound ++ names }

/-- A name as it is spelled in this scope. -/
def spelled (s : Scope) (name : String) : String := if name ∈ s.bound then name else s.library.spelling name

end Scope

namespace Lowering

open TreeScript.Tree (BinaryOp)

/-! ## Parentheses -/

/-- How tightly an operator binds in the script; an operator that becomes a call binds like one. -/
def precedence : BinaryOp → Nat
  | .intDiv | .concat | .append => 18
  | .pow => 14
  | .mul | .div | .mod => 13
  | .add | .sub => 12
  | .lt | .gt | .le | .ge => 10
  | .eq | .notEq => 9
  | .and => 5
  | .or => 4

inductive Side where
  | left
  | right
  deriving DecidableEq, Repr

/-- The side on which an operator does not group with its like: `**` groups to the right, all others to
the left. -/
def looseSide (op : BinaryOp) : Side := if op = .pow then .left else .right

def isNegative : Tree.Expr → Bool
  | .literal (.number value) => value.negative
  | _ => false

/-- Whether a child of an infix operator stands in parentheses. -/
def wrapsOperand (parent : BinaryOp) (side : Side) : Tree.Expr → Bool
  | .binary op _ _ =>
    precedence op < precedence parent || (precedence op = precedence parent && side = looseSide parent)
  | .unary _ _ => parent = .pow && side = .left
  | child => parent = .pow && side = .left && isNegative child

/-- Whether the operand of a sign stands in parentheses. -/
def wrapsSigned : Tree.Expr → Bool
  | .unary _ _ => true
  | .binary _ _ _ => true
  | operand => isNegative operand

/-- Whether the object of a member access, an index or a call stands in parentheses. -/
def wrapsObject : Tree.Expr → Bool
  | .binary _ _ _ => true
  | .unary _ _ => true
  | .literal (.number _) => true
  | _ => false

def wrapped (wrap : Bool) (e : Script.Expr) : Script.Expr := if wrap then .paren e else e

/-! ## Nodes -/

def literal : Tree.Literal → Script.Expr
  | .number value => .number value
  | .boolean value => .boolean value
  | .nil => .null
  | .string value => .string value
  | .symbol name => .call (.member (.name "Symbol") "for") [.string name]

/-- An operator between two operands whose scripts are `left'` and `right'`. -/
def infixed (parent : BinaryOp) (op : Script.Operator) (left right : Tree.Expr) (left' right' : Script.Expr) :
    Script.Expr :=
  .binary op (wrapped (wrapsOperand parent .left left) left') (wrapped (wrapsOperand parent .right right) right')

def binary (op : BinaryOp) (left right : Tree.Expr) (left' right' : Script.Expr) : Script.Expr :=
  let loose := left.isNil || right.isNil
  match op with
  | .intDiv => .call (.member (.name "Math") "floor") [infixed .div .div left right left' right']
  | .concat => .call (.member (.string "") "concat") [left', right']
  | .append => .call (.member (.array []) "concat") [left', right']
  | .eq => infixed .eq (if loose then .looseEq else .strictEq) left right left' right'
  | .notEq => infixed .notEq (if loose then .looseNe else .strictNe) left right left' right'
  | .add => infixed .add .add left right left' right'
  | .sub => infixed .sub .sub left right left' right'
  | .mul => infixed .mul .mul left right left' right'
  | .div => infixed .div .div left right left' right'
  | .mod => infixed .mod .mod left right left' right'
  | .pow => infixed .pow .pow left right left' right'
  | .lt => infixed .lt .lt left right left' right'
  | .gt => infixed .gt .gt left right left' right'
  | .le => infixed .le .le left right left' right'
  | .ge => infixed .ge .ge left right left' right'
  | .and => infixed .and .and left right left' right'
  | .or => infixed .or .or left right left' right'

/-- The module object and name that a call of a built-in goes to. -/
def builtin? (s : Scope) : Tree.Expr → Option Script.Expr
  | .identifier name =>
    (s.library.builtinOwner? name).map fun owner => .member (.name (s.library.spelling owner)) name
  | _ => none

def callee (s : Scope) (e : Tree.Expr) (e' : Script.Expr) : Script.Expr :=
  (builtin? s e).getD (wrapped (wrapsObject e) e')

/-- Whether a property is written as its key alone. -/
def isBare (s : Scope) (key : String) (shorthand : Bool) : Tree.Expr → Bool
  | .identifier name => shorthand && name = key && s.spelled key = key
  | _ => false

mutual

def expr (s : Scope) : Tree.Expr → Script.Expr
  | .conditional test consequent alternate =>
    .paren (.conditional (expr s test) (expr s consequent) (expr s alternate))
  | .binary op left right => binary op left right (expr s left) (expr s right)
  | .unary op operand => .unary op (wrapped (wrapsSigned operand) (expr s operand))
  | .call f args => .call (callee s f (expr s f)) (exprs s args)
  | .member object property => .member (wrapped (wrapsObject object) (expr s object)) property
  | .index object position => .index (wrapped (wrapsObject object) (expr s object)) (expr s position)
  | .range first last none => .construct "_Range" [expr s first, expr s last]
  | .range first last (some step) => .construct "_Range" [expr s first, expr s last, expr s step]
  | .array elements => .array (exprs s elements)
  | .object properties => .object (entries s properties)
  | .identifier name => .name (s.spelled name)
  | .literal value => literal value
  | .undefined => .undefined
  | .interpolated parts => .template (templateParts s parts)

def exprs (s : Scope) : List Tree.Expr → List Script.Expr
  | [] => []
  | e :: es => expr s e :: exprs s es

def entries (s : Scope) : List Tree.Property → List Script.Entry
  | [] => []
  | ⟨key, value, shorthand⟩ :: ps =>
    (if isBare s key shorthand value then .bare key else .keyed key (expr s value)) :: entries s ps

def templateParts (s : Scope) : List Tree.Part → List Script.TemplatePart
  | [] => []
  | .text text :: ps => .text text :: templateParts s ps
  | .expr value :: ps => .expr (expr s value) :: templateParts s ps

end

/-- A key that stands alone is the name of a variable, and its own spelling. -/
theorem isBare_iff {s : Scope} {key : String} {shorthand : Bool} {value : Tree.Expr}
    (h : isBare s key shorthand value = true) : value = .identifier key ∧ s.spelled key = key := by
  cases value with
  | identifier name =>
    simp only [isBare, Bool.and_eq_true, decide_eq_true_eq] at h
    obtain ⟨⟨-, rfl⟩, hk⟩ := h
    exact ⟨rfl, hk⟩
  | _ => cases h

end Lowering

end TreeScript
