/-
  TreeScript.Binary64.Basic — IEEE 754 doubles as exact data.

  A double is its sign and its rank: the doubles of one sign, in order of magnitude,
  have the ranks 0, 1, 2, …, so the rank is the number that the 63 bits below the sign
  bit spell. Everything is `Nat` arithmetic: the magnitude of a finite double is
  `significand · 2 ^ exponent`, and `ofRatio` is the double nearest to a quotient, a tie
  going to the even significand. The rank makes rounding one formula: the significands of
  one binade follow those of the binade below, so a carry out of a binade, the step from
  subnormal to normal and the step to infinity need no case of their own.
-/

namespace TreeScript

/-- The powers of natural numbers that the kernel computes. A module that computes with them makes this its
instance and gives each exponent its type, so that no other instance in scope is chosen in its place. -/
abbrev naturalPowers : Pow Nat Nat := instPowNat

attribute [local instance] naturalPowers

structure Binary64 where
  negative : Bool
  rank : Fin (2 ^ (63 : Nat))
  deriving DecidableEq, Repr

namespace Binary64

def ofBits (bits : UInt64) : Binary64 :=
  ⟨decide (2 ^ (63 : Nat) ≤ bits.toNat), ⟨bits.toNat % 2 ^ (63 : Nat), Nat.mod_lt _ (by decide)⟩⟩

def toBits (x : Binary64) : UInt64 := UInt64.ofNat (x.rank + if x.negative then 2 ^ (63 : Nat) else 0)

@[simp] theorem ofBits_toBits (x : Binary64) : ofBits x.toBits = x := by
  obtain ⟨negative, rank, h⟩ := x
  have hb : (toBits ⟨negative, rank, h⟩).toNat = rank + if negative then 2 ^ (63 : Nat) else 0 := by
    simp only [toBits, UInt64.toNat_ofNat']
    split <;> omega
  cases negative <;> simp [ofBits, hb] <;> omega

@[simp] theorem toBits_ofBits (bits : UInt64) : toBits (ofBits bits) = bits := by
  apply UInt64.toNat_inj.mp
  have h := bits.toNat_lt
  simp only [toBits, ofBits, UInt64.toNat_ofNat', decide_eq_true_eq]
  split <;> omega

/-- The rank of infinity; the ranks above it are those of not-a-number. -/
def infinityRank : Nat := 2047 * 2 ^ (52 : Nat)

def isNaN (x : Binary64) : Bool := decide (infinityRank < x.rank)

def isInfinite (x : Binary64) : Bool := decide (x.rank.val = infinityRank)

def isFinite (x : Binary64) : Bool := decide (x.rank < infinityRank)

def isZero (x : Binary64) : Bool := decide (x.rank.val = 0)

def zero : Binary64 := ⟨false, 0⟩

def neg (x : Binary64) : Binary64 := ⟨!x.negative, x.rank⟩

/-! ## The magnitude -/

def significand (x : Binary64) : Nat :=
  if x.rank.val < 2 ^ (52 : Nat) then x.rank else 2 ^ (52 : Nat) + x.rank % 2 ^ (52 : Nat)

def exponent (x : Binary64) : Int :=
  if x.rank.val < 2 ^ (52 : Nat) then -1074 else (x.rank / 2 ^ (52 : Nat) : Nat) - 1075

/-- The magnitude of a finite double, as numerator and denominator. -/
def ratio (x : Binary64) : Nat × Nat :=
  (x.significand * 2 ^ x.exponent.toNat, 2 ^ (-x.exponent).toNat)

/-! ## Rounding -/

/-- The integer nearest to `num / den`; a half goes to the even neighbour. -/
def roundDiv (num den : Nat) : Nat :=
  let low := num / den
  let rest := num % den
  if 2 * rest < den ∨ (2 * rest = den ∧ low % 2 = 0) then low else low + 1

/-- The greatest `e` with `2 ^ e ≤ num / den`, for positive `num` and `den`. -/
def binaryScale (num den : Nat) : Int :=
  let e : Int := num.log2 - den.log2
  if den * 2 ^ e.toNat ≤ num * 2 ^ (-e).toNat then e else e - 1

/-- The non-negative double of a rank; ranks beyond infinity's stop there. -/
def ofRank (rank : Nat) : Binary64 :=
  ⟨false, ⟨min rank infinityRank, Nat.lt_of_le_of_lt (Nat.min_le_right _ _) (by decide)⟩⟩

/-- The double nearest to `num / den`. -/
def ofRatio (num den : Nat) : Binary64 :=
  if num = 0 then zero
  else
    let q := max (binaryScale num den - 52) (-1074)
    let m := roundDiv (num * 2 ^ (-q).toNat) (den * 2 ^ q.toNat)
    ofRank ((q + 1074).toNat * 2 ^ (52 : Nat) + m)

def ofNat (n : Nat) : Binary64 := ofRatio n 1

def ofInt (n : Int) : Binary64 := if n < 0 then neg (ofNat n.natAbs) else ofNat n.natAbs

/-- The double nearest to `digits · 10 ^ exponent`. -/
def ofDecimal (digits : Nat) (exponent : Int) : Binary64 :=
  ofRatio (digits * 10 ^ exponent.toNat) (10 ^ (-exponent).toNat)

/-- The product of two non-negative finite doubles, rounded. -/
def mul (x y : Binary64) : Binary64 := ofRatio (x.ratio.1 * y.ratio.1) (x.ratio.2 * y.ratio.2)

/-- The quotient of two non-negative finite doubles, rounded. -/
def div (x y : Binary64) : Binary64 := ofRatio (x.ratio.1 * y.ratio.2) (x.ratio.2 * y.ratio.1)

end Binary64

end TreeScript
