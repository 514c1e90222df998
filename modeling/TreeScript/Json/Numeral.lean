/-
  TreeScript.Json.Numeral — numbers as JSON writes them.

  `Scan` reads a numeral one character at a time. A numeral without point and exponent
  whose value fits 64 bits is an integer; every other one is a double, and so is minus
  zero. A double is not always the nearest to what is written: the digits that fit 64 bits
  are collected and scaled by the power of ten that is due, in one rounded product or
  quotient for each 308 places.
-/

import TreeScript.Json.Fault
import TreeScript.Json.Value

namespace TreeScript.Json

attribute [local instance] naturalPowers

/-- The digits of a numeral, as they were written. -/
structure Numeral where
  negative : Bool := false
  whole : List Nat := []
  fraction : List Nat := []
  /-- The sign and the digits after an exponent mark. -/
  exponent : Option (Bool × List Nat) := none
  deriving DecidableEq, Repr

namespace Numeral

/-! ## The value of a numeral -/

/-- Whether a significand and one more digit fit 64 bits. -/
def fits (significand digit : Nat) : Bool := decide (significand * 10 + digit < 2 ^ (64 : Nat))

/-- The significand of digits before the point, and the number of digits that were dropped from it. -/
def takeWhole (significand : Nat) : List Nat → Nat × Nat
  | [] => (significand, 0)
  | d :: ds => if fits significand d then takeWhole (significand * 10 + d) ds else (significand, ds.length + 1)

/-- The significand with digits after the point, and the number of digits that were taken into it. -/
def takeFraction (significand : Nat) : List Nat → Nat × Nat
  | [] => (significand, 0)
  | d :: ds =>
    if fits significand d then
      let (s, taken) := takeFraction (significand * 10 + d) ds
      (s, taken + 1)
    else (significand, 0)

/-- `f · 10 ^ e`, rounded at every step; a result beyond the greatest double is out of range. -/
def scaled (f : Binary64) (e : Int) : Except Fault Binary64 :=
  if e.natAbs ≤ 308 then
    let power := Binary64.ofNat (10 ^ e.natAbs)
    if 0 ≤ e then
      let product := f.mul power
      if product.isInfinite then .error .numberOutOfRange else .ok product
    else .ok (f.div power)
  else if f.isZero then .ok f
  else if 0 ≤ e then .error .numberOutOfRange
  else scaled (f.div (Binary64.ofNat (10 ^ (308 : Nat)))) (e + 308)
termination_by e.natAbs
decreasing_by omega

def digitsValue (ds : List Nat) : Nat := ds.foldl (fun n d => n * 10 + d) 0

/-- The greatest exponent that can be written. -/
def exponentLimit : Nat := 2 ^ (31 : Nat) - 1

def magnitude (n : Numeral) : Except Fault Binary64 :=
  let (whole, dropped) := takeWhole 0 n.whole
  let (significand, taken) := takeFraction whole n.fraction
  let place : Int := dropped - taken
  match n.exponent with
  | none => scaled (.ofNat significand) place
  | some (down, ds) =>
    let written := digitsValue ds
    if exponentLimit < written then
      if significand ≠ 0 ∧ !down then .error .numberOutOfRange else .ok .zero
    else scaled (.ofNat significand) (if down then place - written else place + written)

def signed (negative : Bool) (x : Binary64) : Binary64 := if negative then x.neg else x

def value (n : Numeral) : Except Fault Number :=
  let whole := digitsValue n.whole
  if n.fraction = [] ∧ n.exponent = none ∧ whole < 2 ^ (64 : Nat) then
    if !n.negative then .ok (.integer whole)
    else if 0 < whole ∧ whole ≤ 2 ^ (63 : Nat) then .ok (.integer (-whole))
    else .ok (.double (.neg (.ofNat whole)))
  else n.magnitude.map fun x => .double (signed n.negative x)

/-! ## Reading a numeral -/

/-- How far a numeral has been read. -/
inductive Phase where
  | sign
  | zero
  | whole
  | point
  | fraction
  | mark
  | markSign
  | exponent
  deriving DecidableEq, Repr

/-- Whether the numeral may end here. -/
def Phase.complete : Phase → Bool
  | .zero | .whole | .fraction | .exponent => true
  | .sign | .point | .mark | .markSign => false

structure Scan where
  phase : Phase
  /-- What has been read; its digits stand last first. -/
  read : Numeral
  deriving DecidableEq, Repr

/-- What the next character is to a numeral. -/
inductive Move where
  | goes (s : Scan)
  | ends
  | fails

def digit? (c : Char) : Option Nat := if c.isDigit then some (c.toNat - '0'.toNat) else none

def start? (c : Char) : Option Scan :=
  if c = '-' then some ⟨.sign, { negative := true }⟩
  else (digit? c).map fun d => ⟨if d = 0 then .zero else .whole, { whole := [d] }⟩

namespace Scan

/-- The exponent part with one more digit. -/
def pushExponent (e : Option (Bool × List Nat)) (d : Nat) : Option (Bool × List Nat) :=
  e.map fun (down, ds) => (down, d :: ds)

def digit (s : Scan) (d : Nat) : Move :=
  let n := s.read
  match s.phase with
  | .sign => .goes ⟨if d = 0 then .zero else .whole, { n with whole := [d] }⟩
  | .zero => .fails
  | .whole => .goes ⟨.whole, { n with whole := d :: n.whole }⟩
  | .point => .goes ⟨.fraction, { n with fraction := [d] }⟩
  | .fraction => .goes ⟨.fraction, { n with fraction := d :: n.fraction }⟩
  | .mark | .markSign | .exponent => .goes ⟨.exponent, { n with exponent := pushExponent n.exponent d }⟩

def other (s : Scan) (c : Char) : Move :=
  let n := s.read
  match s.phase with
  | .zero | .whole =>
    if c = '.' then .goes ⟨.point, n⟩
    else if c = 'e' || c = 'E' then .goes ⟨.mark, { n with exponent := some (false, []) }⟩
    else .ends
  | .fraction => if c = 'e' || c = 'E' then .goes ⟨.mark, { n with exponent := some (false, []) }⟩ else .ends
  | .mark =>
    if c = '+' then .goes ⟨.markSign, n⟩
    else if c = '-' then .goes ⟨.markSign, { n with exponent := some (true, []) }⟩
    else .fails
  | .exponent => .ends
  | .sign | .point | .markSign => .fails

def step (s : Scan) (c : Char) : Move :=
  match digit? c with
  | some d => s.digit d
  | none => s.other c

/-- The numeral that has been read. -/
def numeral (s : Scan) : Numeral :=
  { s.read with
    whole := s.read.whole.reverse
    fraction := s.read.fraction.reverse
    exponent := s.read.exponent.map fun (down, ds) => (down, ds.reverse) }

end Scan

end Numeral

end TreeScript.Json
