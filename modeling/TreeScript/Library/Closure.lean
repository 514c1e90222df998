/-
  TreeScript.Library.Closure — a set of modules with all that they depend on.

  The list of modules grows while it is walked: each key's dependencies that are not in it
  yet are put at its end, in declared order. The walk ends because only dependencies that
  the library names can be added, and each of them once.
-/

import TreeScript.Library.Basic

namespace TreeScript.Library

/-- Put a key at the end of a list that does not hold it yet. -/
def note (keys : List String) (key : String) : List String := if key ∈ keys then keys else keys ++ [key]

/-- The keys, in order, that noting `new` adds to `keys`. -/
def fresh (keys : List String) : List String → List String
  | [] => []
  | k :: ks => if k ∈ keys then fresh keys ks else k :: fresh (keys ++ [k]) ks

/-- Every key that some module of the library depends on. -/
def named (lib : Library) : List String := lib.modules.flatMap fun e => e.2.dependencies

/-- The named keys that are still outside of `keys`. -/
def outside (lib : Library) (keys : List String) : List String := lib.named.filter (· ∉ keys)

theorem mem_named {lib : Library} {key d : String} (h : d ∈ lib.dependencies key) : d ∈ lib.named := by
  unfold dependencies module? at h
  cases hl : lib.modules.lookup key with
  | none => simp [hl] at h
  | some m =>
    simp only [hl, Option.map_some, Option.getD_some] at h
    obtain ⟨l₁, l₂, he, -⟩ := List.lookup_eq_some_iff.mp hl
    simp only [named, List.mem_flatMap]
    exact ⟨(key, m), by simp [he], h⟩

theorem outside_fresh_lt (lib : Library) (keys new : List String) (hn : ∀ k ∈ new, k ∈ lib.named) :
    (lib.outside (keys ++ fresh keys new)).length + (fresh keys new).length ≤ (lib.outside keys).length := by
  induction new generalizing keys with
  | nil => simp [fresh]
  | cons k ks ih =>
    have hks : ∀ k' ∈ ks, k' ∈ lib.named := fun k' h => hn k' (List.mem_cons_of_mem _ h)
    by_cases hk : k ∈ keys
    · simpa [fresh, hk] using ih keys hks
    · have step := ih (keys ++ [k]) hks
      have one : (lib.outside (keys ++ [k])).length + 1 ≤ (lib.outside keys).length := by
        have hmem : k ∈ lib.outside keys := by simp [outside, hk, hn k]
        have heq : lib.outside (keys ++ [k]) = (lib.outside keys).filter (· ≠ k) := by
          simp only [outside, List.filter_filter]
          congr 1; funext x; by_cases hx : x = k <;> simp [hx]
        rw [heq]
        exact List.length_filter_lt_length_iff_exists.mpr ⟨k, hmem, by simp⟩
      simp only [fresh, hk, ↓reduceIte, List.length_cons]
      simp only [List.append_assoc, List.cons_append, List.nil_append] at step
      omega

/-- Walk the keys that still have to be looked at; `keys` holds them and all before them. -/
def grow (lib : Library) (keys pending : List String) : List String :=
  match pending with
  | [] => keys
  | k :: rest =>
    let new := fresh keys (lib.dependencies k)
    grow lib (keys ++ new) (rest ++ new)
termination_by (lib.outside keys).length + pending.length
decreasing_by
  have := outside_fresh_lt lib keys (lib.dependencies k) (fun _ h => mem_named h)
  simp only [List.length_append, List.length_cons]
  omega

/-- The used keys, followed by what they need, breadth first. -/
def closure (lib : Library) (used : List String) : List String :=
  let used := used.foldl note []
  grow lib used used

end TreeScript.Library
