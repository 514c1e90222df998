/-
  TreeScript.Text.CharSet — sets of characters as lists of code point ranges.

  The tables of the character properties that the reader and the writer ask for are such
  sets, one module a property.
-/

namespace TreeScript.Text

/-- A set of characters: ranges of code points, both ends included. -/
structure CharSet where
  ranges : List (Nat × Nat)

namespace CharSet

def contains (s : CharSet) (c : Char) : Bool :=
  s.ranges.any fun r => decide (r.1 ≤ c.toNat) && decide (c.toNat ≤ r.2)

theorem contains_iff (s : CharSet) (c : Char) :
    s.contains c = true ↔ ∃ r ∈ s.ranges, r.1 ≤ c.toNat ∧ c.toNat ≤ r.2 := by
  simp [contains]

end CharSet

end TreeScript.Text
