/-
  TreeScript.Json.Value — JSON values.

  Objects keep their entries in the order in which they were written, repeated keys and
  all. A number is an integer or a double, by the way it was written. `Value.fold` is the
  one recursion over values: it hands each value, its parts already folded, to a function
  on a single layer.
-/

import TreeScript.Binary64.Basic

namespace TreeScript.Json

inductive Number where
  | integer (value : Int)
  | double (value : Binary64)
  deriving DecidableEq, Repr

def Number.toBinary64 : Number → Binary64
  | .integer value => .ofInt value
  | .double value => value

inductive Value where
  | null
  | boolean (value : Bool)
  | number (value : Number)
  | text (value : String)
  | items (items : List Value)
  | entries (entries : List (String × Value))

/-- One layer of a value, with `α` in the places of its parts. -/
inductive Layer (α : Type) where
  | null
  | boolean (value : Bool)
  | number (value : Number)
  | text (value : String)
  | items (items : List α)
  | entries (entries : List (String × α))

namespace Value

variable {α : Type}

mutual

def fold (f : Layer α → α) : Value → α
  | .null => f .null
  | .boolean b => f (.boolean b)
  | .number n => f (.number n)
  | .text s => f (.text s)
  | .items vs => f (.items (foldItems f vs))
  | .entries es => f (.entries (foldEntries f es))

def foldItems (f : Layer α → α) : List Value → List α
  | [] => []
  | v :: vs => v.fold f :: foldItems f vs

def foldEntries (f : Layer α → α) : List (String × Value) → List (String × α)
  | [] => []
  | (key, v) :: es => (key, v.fold f) :: foldEntries f es

end

theorem foldItems_eq_map (f : Layer α → α) (vs : List Value) : foldItems f vs = vs.map (fold f) := by
  induction vs with
  | nil => rfl
  | cons v vs ih => simp [foldItems, ih]

theorem foldEntries_eq_map (f : Layer α → α) (es : List (String × Value)) :
    foldEntries f es = es.map fun e => (e.1, e.2.fold f) := by
  induction es with
  | nil => rfl
  | cons e es ih => simp [foldEntries, ih]

end Value

end TreeScript.Json
