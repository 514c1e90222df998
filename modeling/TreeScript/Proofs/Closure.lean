/-
  TreeScript.Proofs.Closure — a closure is all that can be reached along dependencies.

  The walk keeps two lists: the keys found so far, and those of them that it still has to
  look at. Each key that it adds is a dependency of one it looks at, so it finds only what
  can be reached (`reaches_of_mem_grow`). Each key that it has looked at has all its
  dependencies among the keys found, so what it finds in the end is closed
  (`closed_grow`), and no key is found twice (`nodup_grow`).

  The same walk is a loop with a cursor into one list that grows while the cursor moves
  (`Cursor`). The cursor comes to the end of the list, and the list is then the closure
  (`runs_grow`); `closure_exact` says all of this of an ordered set of keys.
-/

import Mathlib.Data.List.Nodup
import Mathlib.Logic.Relation
import TreeScript.Proofs.Usage

namespace TreeScript.Library

open Relation (ReflTransGen)

/-- A module depends on another one. -/
def Needs (lib : Library) (key d : String) : Prop := d ∈ lib.dependencies key

/-- Keys and all that they need, at first or second hand. -/
def Reaches (lib : Library) (used : List String) (k : String) : Prop := ∃ u ∈ used, ReflTransGen lib.Needs u k

theorem reaches_append {lib : Library} {used used' : List String} {k : String} :
    lib.Reaches (used ++ used') k ↔ lib.Reaches used k ∨ lib.Reaches used' k := by
  simp [Reaches, or_and_right, exists_or]

/-! ## New keys -/

theorem mem_fresh {keys new : List String} {k : String} : k ∈ fresh keys new ↔ k ∈ new ∧ k ∉ keys := by
  induction new generalizing keys with
  | nil => simp [fresh]
  | cons d new ih =>
    unfold fresh
    by_cases hd : d ∈ keys
    · rw [if_pos hd, ih, List.mem_cons]
      constructor
      · intro h
        exact ⟨.inr h.1, h.2⟩
      · intro h
        obtain ⟨rfl | hk, hn⟩ := h
        · exact absurd hd hn
        · exact ⟨hk, hn⟩
    · rw [if_neg hd, List.mem_cons, ih, List.mem_cons, List.mem_append, List.mem_singleton]
      by_cases hk : k = d
      · simp [hk, hd]
      · simp [hk]

theorem nodup_note {keys : List String} (h : keys.Nodup) (key : String) : (note keys key).Nodup := by
  unfold note
  split
  · exact h
  · rename_i hkey
    simpa using h.concat hkey

theorem nodup_append_fresh {keys : List String} (h : keys.Nodup) (new : List String) :
    (keys ++ fresh keys new).Nodup := by
  induction new generalizing keys with
  | nil => simpa [fresh] using h
  | cons d new ih =>
    unfold fresh
    by_cases hd : d ∈ keys
    · rw [if_pos hd]
      exact ih h
    · rw [if_neg hd]
      have hkeys : (keys ++ [d]).Nodup := by simpa [note, hd] using nodup_note h d
      simpa using ih hkeys

theorem nodup_foldl_note {keys : List String} (h : keys.Nodup) (new : List String) : (new.foldl note keys).Nodup := by
  induction new generalizing keys with
  | nil => exact h
  | cons d new ih => exact ih (nodup_note h d)

/-! ## The walk -/

section Grow

variable {lib : Library} {keys pending : List String}

/-- The walk finds only what it has and what can be reached from where it still has to look. -/
theorem reaches_of_mem_grow {k : String} (h : k ∈ lib.grow keys pending) : k ∈ keys ∨ lib.Reaches pending k := by
  fun_induction grow lib keys pending with
  | case1 keys => exact .inl h
  | case2 keys key rest new ih =>
    have hneeds : ∀ d ∈ new, lib.Needs key d := fun d hd => (mem_fresh.1 hd).1
    rcases ih h with h | h
    · rcases List.mem_append.1 h with h | h
      · exact .inl h
      · exact .inr ⟨key, List.mem_cons_self, .single (hneeds k h)⟩
    · rcases reaches_append.1 h with ⟨u, hu, h⟩ | ⟨d, hd, h⟩
      · exact .inr ⟨u, List.mem_cons_of_mem _ hu, h⟩
      · exact .inr ⟨key, List.mem_cons_self, .head (hneeds d hd) h⟩

/-- What the walk finds is closed under dependencies, if all that it need not look at is. -/
theorem closed_grow (h : ∀ k ∈ keys, k ∈ pending ∨ lib.dependencies k ⊆ keys) :
    ∀ k ∈ lib.grow keys pending, lib.dependencies k ⊆ lib.grow keys pending := by
  fun_induction grow lib keys pending with
  | case1 keys =>
    intro k hk
    exact (h k hk).resolve_left List.not_mem_nil
  | case2 keys key rest new ih =>
    refine ih fun k hk => ?_
    by_cases hnew : k ∈ new
    · exact .inl (List.mem_append_right _ hnew)
    · rcases h k ((List.mem_append.1 hk).resolve_right hnew) with hp | hd
      · rcases List.mem_cons.1 hp with rfl | hrest
        · -- the key that was just looked at
          refine .inr fun d hd => ?_
          by_cases hin : d ∈ keys
          · exact List.mem_append_left _ hin
          · exact List.mem_append_right _ (mem_fresh.2 ⟨hd, hin⟩)
        · exact .inl (List.mem_append_left _ hrest)
      · exact .inr (List.subset_append_of_subset_left _ hd)

theorem nodup_grow (h : keys.Nodup) : (lib.grow keys pending).Nodup := by
  fun_induction grow lib keys pending with
  | case1 keys => exact h
  | case2 keys key rest new ih => exact ih (nodup_append_fresh h _)

end Grow

/-! ## Closures -/

theorem mem_closure {lib : Library} {used : List String} {k : String} : k ∈ lib.closure used ↔ lib.Reaches used k := by
  have hused : ∀ u, u ∈ used.foldl note [] ↔ u ∈ used := fun u => by simp [mem_foldl_note]
  constructor
  · intro h
    rcases reaches_of_mem_grow h with h | ⟨u, hu, h⟩
    · exact ⟨k, (hused k).1 h, .refl⟩
    · exact ⟨u, (hused u).1 hu, h⟩
  · intro h
    obtain ⟨u, hu, hpath⟩ := h
    have hclosed : ∀ k ∈ lib.closure used, lib.dependencies k ⊆ lib.closure used := closed_grow fun k hk => .inl hk
    induction hpath with
    | refl => exact subset_grow lib _ _ ((hused u).2 hu)
    | tail _ hneeds ih => exact hclosed _ ih hneeds

theorem nodup_closure (lib : Library) (used : List String) : (lib.closure used).Nodup :=
  nodup_grow (nodup_foldl_note List.nodup_nil used)

/-! ## The loop -/

theorem foldl_note_eq (keys new : List String) : new.foldl note keys = keys ++ fresh keys new := by
  induction new generalizing keys with
  | nil => simp [fresh]
  | cons d new ih =>
    rw [List.foldl_cons, ih]
    by_cases hd : d ∈ keys
    · simp [note, fresh, hd]
    · simp [note, fresh, hd]

/-- The keys that noting adds are the new ones without repeats. -/
theorem fresh_eq_eraseDups (keys new : List String) : fresh keys new = (new.filter (· ∉ keys)).eraseDups := by
  induction new generalizing keys with
  | nil => rfl
  | cons k new ih =>
    by_cases hk : k ∈ keys
    · rw [fresh, if_pos hk, ih, List.filter_cons_of_neg (by simpa using hk)]
    · have hrest : new.filter (· ∉ keys ++ [k]) = (new.filter (· ∉ keys)).filter fun x => !x == k := by
        rw [List.filter_filter]
        refine List.filter_congr fun x _ => ?_
        by_cases hx : x = k <;> simp [hx]
      rw [fresh, if_neg hk, ih, List.filter_cons_of_pos (by simpa using hk), List.eraseDups_cons, hrest]

theorem fresh_of_nodup {keys new : List String} (h : (keys ++ new).Nodup) : fresh keys new = new := by
  induction new generalizing keys with
  | nil => rfl
  | cons d new ih =>
    have hd : d ∉ keys := fun hd => (List.nodup_append.1 h).2.2 d hd d List.mem_cons_self rfl
    have hrest : ((keys ++ [d]) ++ new).Nodup := by simpa using h
    rw [fresh, if_neg hd, ih hrest]

/-- Noting the keys of an ordered set gives them back. -/
theorem foldl_note_of_nodup {used : List String} (h : used.Nodup) : used.foldl note [] = used := by
  have hfresh : fresh [] used = used := fresh_of_nodup (by simpa using h)
  rw [foldl_note_eq, hfresh, List.nil_append]

theorem prefix_grow (lib : Library) (keys pending : List String) : keys <+: lib.grow keys pending := by
  fun_induction grow lib keys pending with
  | case1 keys => exact List.prefix_refl keys
  | case2 keys key rest new ih => exact (List.prefix_append keys new).trans ih

/-- A list of keys that is walked while it grows, and the position of the next key to look at. -/
structure Cursor where
  keys : List String
  next : Nat
  deriving DecidableEq, Repr

/-- One turn of the loop: the dependencies of the next key are noted. There is none at the end of the list. -/
def Cursor.turn? (lib : Library) (c : Cursor) : Option Cursor :=
  c.keys[c.next]?.map fun key => ⟨(lib.dependencies key).foldl note c.keys, c.next + 1⟩

/-- Some turns of the loop. -/
def Runs (lib : Library) : Cursor → Cursor → Prop := ReflTransGen fun c c' => c.turn? lib = some c'

/-- The loop looks at every key that the walk still has to look at, and stops at its end. -/
theorem runs_grow (lib : Library) (looked pending : List String) :
    lib.Runs ⟨looked ++ pending, looked.length⟩
      ⟨lib.grow (looked ++ pending) pending, (lib.grow (looked ++ pending) pending).length⟩ := by
  -- the cursor stands between what has been looked at and what is pending
  generalize hkeys : looked ++ pending = keys
  fun_induction grow lib keys pending generalizing looked with
  | case1 keys =>
    rw [List.append_nil] at hkeys
    rw [hkeys]
    exact .refl
  | case2 keys key rest new ih =>
    have hlooked : (looked ++ [key]) ++ (rest ++ new) = keys ++ new := by simp [← hkeys]
    have hturn : Cursor.turn? lib ⟨keys, looked.length⟩ = some ⟨keys ++ new, (looked ++ [key]).length⟩ := by
      have hnext : keys[looked.length]? = some key := by simp [← hkeys]
      simp only [Cursor.turn?, hnext, Option.map_some, foldl_note_eq, List.length_append, List.length_singleton]
      rfl
    exact .head hturn (ih (looked ++ [key]) hlooked)

/-- For an ordered set of keys the loop comes to its end, which is the closure: the keys themselves come first, no key
comes twice, and the keys are those that can be reached from a used one along dependencies. -/
theorem closure_exact (lib : Library) {used : List String} (h : used.Nodup) :
    lib.Runs ⟨used, 0⟩ ⟨lib.closure used, (lib.closure used).length⟩ ∧
      Cursor.turn? lib ⟨lib.closure used, (lib.closure used).length⟩ = none ∧
      used <+: lib.closure used ∧ (lib.closure used).Nodup ∧
      ∀ k, k ∈ lib.closure used ↔ ∃ u ∈ used, ReflTransGen lib.Needs u k := by
  have hclosure : lib.closure used = lib.grow used used := by rw [closure, foldl_note_of_nodup h]
  refine ⟨?_, ?_, ?_, nodup_closure lib used, fun k => mem_closure⟩
  · rw [hclosure]
    exact runs_grow lib [] used
  · simp [Cursor.turn?]
  · rw [hclosure]
    exact prefix_grow lib used used

/-- Modules that depend on each other, on themselves, twice on the same one, and on one that is not there. -/
def tangled : Library := [
  Step.module ⟨"A", "a", ["A"], ["B", "A", "B"]⟩,
  .module ⟨"B", "b", ["B"], ["C", "Gone"]⟩,
  .module ⟨"C", "c", ["C"], ["A"]⟩].foldl add {}

theorem closure_exact_tangled :
    ["Lost", "B"].Nodup ∧ tangled.Runs ⟨["Lost", "B"], 0⟩ ⟨["Lost", "B", "C", "Gone", "A"], 5⟩ ∧
      ∀ k, k ∈ ["Lost", "B", "C", "Gone", "A"] ↔ ∃ u ∈ ["Lost", "B"], ReflTransGen tangled.Needs u k := by
  have hclosure : tangled.closure ["Lost", "B"] = ["Lost", "B", "C", "Gone", "A"] := by
    decide +kernel
  have hnodup : ["Lost", "B"].Nodup := by decide
  obtain ⟨hruns, -, -, -, hmem⟩ := closure_exact tangled hnodup
  rw [hclosure] at hruns hmem
  exact ⟨hnodup, hruns, hmem⟩

end TreeScript.Library
