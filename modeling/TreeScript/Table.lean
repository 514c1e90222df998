/-
  TreeScript.Table — tables that keep the order of first entry.

  A table is a list of keys with their values. A value that is entered under a key that is
  there already takes the place of the old one. Seen through `List.lookup`, entering sets
  one key and leaves all others; the order of the keys only ever grows at its end.
-/

namespace TreeScript

/-- A table in order of first entry. -/
abbrev Table (κ α : Type) := List (κ × α)

namespace Table

variable {κ α : Type} [BEq κ]

/-- Enter a value; a key that is there already keeps its place. -/
def enter (key : κ) (value : α) : Table κ α → Table κ α
  | [] => [(key, value)]
  | (k, v) :: t => if key == k then (key, value) :: t else (k, v) :: enter key value t

@[simp] theorem lookup_enter_self [ReflBEq κ] (key : κ) (value : α) (t : Table κ α) :
    (enter key value t).lookup key = some value := by
  induction t with
  | nil => simp [enter]
  | cons e t ih =>
    obtain ⟨k, v⟩ := e
    by_cases h : key == k <;> simp [enter, List.lookup_cons, h, ih]

theorem lookup_enter_of_ne [LawfulBEq κ] {key other : κ} (value : α) (t : Table κ α) (h : other ≠ key) :
    (enter key value t).lookup other = t.lookup other := by
  have hb : (other == key) = false := beq_false_of_ne h
  induction t with
  | nil => simp [enter, List.lookup_cons, hb]
  | cons e t ih =>
    obtain ⟨k, v⟩ := e
    by_cases he : key == k
    · have hk := eq_of_beq he
      simp [enter, List.lookup_cons, hb, ← hk]
    · simp [enter, List.lookup_cons, he, ih]

theorem lookup_enter [LawfulBEq κ] (key other : κ) (value : α) (t : Table κ α) :
    (enter key value t).lookup other = if other == key then some value else t.lookup other := by
  by_cases h : other == key
  · have := eq_of_beq h
    subst this
    simp
  · have hne : other ≠ key := fun e => h (by simp [e])
    simp [h, lookup_enter_of_ne value t hne]

/-- The keys, in order: a new one stands at the end. -/
theorem keys_enter [LawfulBEq κ] (key : κ) (value : α) (t : Table κ α) :
    (enter key value t).map Prod.fst =
      if (t.map Prod.fst).contains key then t.map Prod.fst else t.map Prod.fst ++ [key] := by
  induction t with
  | nil => rfl
  | cons e t ih =>
    by_cases h : key == e.1
    · have hk := eq_of_beq h
      simp [enter, ← hk]
    · simp only [enter, h, Bool.false_eq_true, if_false, List.map_cons, ih, List.contains_cons, Bool.false_or]
      split <;> simp

end Table

end TreeScript
