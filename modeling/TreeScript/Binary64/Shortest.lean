/-
  TreeScript.Binary64.Shortest — the shortest decimal that reads back.

  `shortest x` has the fewest digits among the decimals that round to the magnitude of
  `x`, and of those with that many digits it is the nearest. For 1, 2, … digits the two
  neighbours of the magnitude on that decimal grid are tried: if any decimal of the grid
  rounds to `x`, one of the two does. Seventeen digits always suffice.
-/

import TreeScript.Binary64.Basic

namespace TreeScript

attribute [local instance] naturalPowers

/-- The decimal `digits · 10 ^ exponent`. -/
structure Decimal where
  digits : Nat
  exponent : Int
  deriving DecidableEq, Repr

namespace Decimal

/-- The same decimal without zeros at the end of its digits. -/
def trimmed (d : Decimal) : Decimal :=
  let zeros := ((Nat.toDigits 10 d.digits).reverse.takeWhile (· = '0')).length
  ⟨d.digits / 10 ^ zeros, d.exponent + zeros⟩

/-- Digits with a decimal point where it belongs, and no exponent. -/
def positional (d : Decimal) : List Char :=
  let ds := Nat.toDigits 10 d.digits
  let places := (-d.exponent).toNat
  if places = 0 then ds ++ List.replicate d.exponent.toNat '0'
  else if places < ds.length then
    ds.take (ds.length - places) ++ '.' :: ds.drop (ds.length - places)
  else '0' :: '.' :: (List.replicate (places - ds.length) '0' ++ ds)

end Decimal

namespace Binary64

/-- The least `s` with `num / den < 10 ^ s`, for positive `num` and `den`. -/
def decimalScale (num den : Nat) : Int :=
  if den ≤ num then (Nat.toDigits 10 (num / den)).length
  else
    let k := (Nat.toDigits 10 (den / num)).length - 1
    if num * 10 ^ k < den then -(k : Int) else 1 - (k : Int)

/-- The candidates with `n` digits: the neighbours of the magnitude at that place. Both may read
back as `x`; then the nearer is taken, and the upper one of two equally near. -/
def shortestAt (x : Binary64) (num den : Nat) (scale : Int) (n : Nat) : Option Decimal :=
  let e := scale - n
  let top := num * 10 ^ (-e).toNat
  let unit := den * 10 ^ e.toNat
  let low := top / unit
  let back (digits : Nat) : Bool := (ofDecimal digits e).rank = x.rank
  let nearer := if top % unit * 2 < unit then low else low + 1
  if back low then
    if back (low + 1) then some ⟨nearer, e⟩ else some ⟨low, e⟩
  else if back (low + 1) then some ⟨low + 1, e⟩
  else none

/-- The shortest decimal that rounds to the magnitude of a finite double. -/
def shortest (x : Binary64) : Decimal :=
  if x.isZero then ⟨0, 0⟩
  else
    let (num, den) := x.ratio
    let scale := decimalScale num den
    match (List.range' 1 17).findSome? (shortestAt x num den scale) with
    | some d => d.trimmed
    | none => ⟨num * 10 ^ (1074 : Nat) / den, -1074⟩

end Binary64

end TreeScript
