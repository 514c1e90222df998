/-
  TreeScript.Proofs.Levels — a closure is ordered level by level.

  The used keys are the first level, and the keys that a level depends on and that no level
  up to it holds are the next one. The walk of `Library.grow` keeps a single list of keys to
  look at, which holds the rest of one level and the beginning of the next. After all keys
  of a level it has the next level before it (`grow_append`), so in the end it has found the
  levels one after another (`grow_stage`).

  The keys of a level are those at its distance from the used keys (`mem_level`), so
  distances never fall along a closure. A closure depends on nothing outside of it, and the
  walk leaves such a list as it is (`closure_closure`).
-/

import TreeScript.Proofs.Closure

namespace TreeScript.Library

/-! ## Levels -/

/-- A level of keys, and all keys of the levels before it. -/
structure Stage where
  earlier : List String
  level : List String
  deriving DecidableEq, Repr

/-- The keys of all levels up to this one. -/
def Stage.keys (s : Stage) : List String := s.earlier ++ s.level

/-- The next level: what the keys of this one depend on, key by key and in declared order, without the keys of the
levels so far and without repeats. -/
def Stage.next (lib : Library) (s : Stage) : Stage :=
  ⟨s.keys, ((s.level.flatMap lib.dependencies).filter (· ∉ s.keys)).eraseDups⟩

def stage (lib : Library) (used : List String) : Nat → Stage
  | 0 => ⟨[], used⟩
  | n + 1 => (stage lib used n).next lib

/-- The keys of the `n`th level. -/
def level (lib : Library) (used : List String) (n : Nat) : List String := (lib.stage used n).level

theorem earlier_stage (lib : Library) (used : List String) (n : Nat) :
    (lib.stage used n).earlier = (List.range n).flatMap (lib.level used) := by
  induction n with
  | zero => rfl
  | succ n ih =>
    have hearlier : (lib.stage used (n + 1)).earlier = (lib.stage used n).earlier ++ lib.level used n := rfl
    rw [hearlier, ih, List.range_succ, List.flatMap_append, List.flatMap_singleton]

theorem keys_stage (lib : Library) (used : List String) (n : Nat) :
    (lib.stage used n).keys = (List.range (n + 1)).flatMap (lib.level used) :=
  earlier_stage lib used (n + 1)

theorem level_succ (lib : Library) (used : List String) (n : Nat) :
    lib.level used (n + 1) =
      (((lib.level used n).flatMap lib.dependencies).filter
        (· ∉ (List.range (n + 1)).flatMap (lib.level used))).eraseDups := by
  rw [← keys_stage]
  rfl

/-- A key of the next level is needed by a key of this one and is in no level so far. -/
theorem mem_level_succ {lib : Library} {used : List String} {n : Nat} {k : String} :
    k ∈ lib.level used (n + 1) ↔
      (∃ j ∈ lib.level used n, lib.Needs j k) ∧ ∀ m ≤ n, k ∉ lib.level used m := by
  have hsofar : k ∉ (List.range (n + 1)).flatMap (lib.level used) ↔ ∀ m ≤ n, k ∉ lib.level used m := by
    simp only [List.mem_flatMap, List.mem_range, Nat.lt_succ_iff, not_exists, not_and]
  rw [level_succ, List.mem_eraseDups, List.mem_filter, List.mem_flatMap, decide_eq_true_iff, hsofar]
  rfl

/-! ## The walk -/

theorem fresh_append (keys new new' : List String) :
    fresh keys (new ++ new') = fresh keys new ++ fresh (keys ++ fresh keys new) new' := by
  have h := foldl_note_eq keys (new ++ new')
  rw [List.foldl_append, foldl_note_eq, foldl_note_eq, List.append_assoc] at h
  exact (List.append_cancel_left h).symm

/-- Looking at some keys one after another adds what they need together. -/
theorem grow_append (lib : Library) (keys now later : List String) :
    lib.grow keys (now ++ later) =
      lib.grow (keys ++ fresh keys (now.flatMap lib.dependencies))
        (later ++ fresh keys (now.flatMap lib.dependencies)) := by
  induction now generalizing keys later with
  | nil => simp [fresh]
  | cons k now ih =>
    rw [List.cons_append, grow, List.append_assoc, ih, List.flatMap_cons, fresh_append]
    simp only [List.append_assoc]

/-- After any number of levels the walk has found their keys and has to look at those of the last one. -/
theorem grow_stage (lib : Library) (used : List String) (n : Nat) :
    lib.grow used used = lib.grow (lib.stage used n).keys (lib.stage used n).level := by
  induction n with
  | zero => rfl
  | succ n ih =>
    have hnext := grow_append lib (lib.stage used n).keys (lib.stage used n).level []
    rw [List.append_nil, List.nil_append, fresh_eq_eraseDups] at hnext
    exact ih.trans hnext

theorem length_keys_stage_le (lib : Library) (used : List String) (n : Nat) :
    (lib.stage used n).keys.length ≤ (lib.grow used used).length := by
  rw [grow_stage lib used n]
  exact (prefix_grow lib _ _).length_le

/-- The levels come to an end: as long as they hold keys, the walk finds one more at each. -/
theorem exists_level_nil (lib : Library) (used : List String) : ∃ n, lib.level used n = [] := by
  by_contra h
  have hpos (n : Nat) : 0 < (lib.level used n).length := List.length_pos_iff.2 fun hn => h ⟨n, hn⟩
  have hgrows (n : Nat) : n < (lib.stage used n).keys.length := by
    induction n with
    | zero => exact hpos 0
    | succ n ih =>
      have hlength : (lib.stage used (n + 1)).keys.length =
          (lib.stage used n).keys.length + (lib.level used (n + 1)).length := List.length_append
      have hlevel := hpos (n + 1)
      omega
  have hmore := hgrows (lib.grow used used).length
  have hbound := length_keys_stage_le lib used (lib.grow used used).length
  omega

theorem level_nil_of_le {lib : Library} {used : List String} {m n : Nat} (h : lib.level used m = []) (hmn : m ≤ n) :
    lib.level used n = [] := by
  induction hmn with
  | refl => exact h
  | step _ ih =>
    apply List.eq_nil_iff_forall_not_mem.2
    intro k hk
    obtain ⟨⟨j, hj, -⟩, -⟩ := mem_level_succ.1 hk
    rw [ih] at hj
    exact List.not_mem_nil hj

theorem closure_of_nodup (lib : Library) {used : List String} (h : used.Nodup) :
    lib.closure used = lib.grow used used := by
  rw [closure, foldl_note_of_nodup h]

/-- Past the last level that has keys, the levels so far are the closure. -/
theorem closure_eq_flatMap_level (lib : Library) {used : List String} (h : used.Nodup) :
    ∃ N, ∀ n ≥ N, lib.closure used = (List.range n).flatMap (lib.level used) := by
  obtain ⟨N, hN⟩ := exists_level_nil lib used
  refine ⟨N, fun n hn => ?_⟩
  have hlevel : (lib.stage used n).level = [] := level_nil_of_le hN hn
  have hkeys : (lib.stage used n).keys = (lib.stage used n).earlier := by rw [Stage.keys, hlevel, List.append_nil]
  rw [closure_of_nodup lib h, grow_stage lib used n, hlevel, grow, hkeys, earlier_stage]

/-! ## Distances -/

/-- A key that is reached from a used one over `n` dependencies. -/
inductive Hops (lib : Library) (used : List String) : Nat → String → Prop
  | used {k : String} : k ∈ used → Hops lib used 0 k
  | need {n : Nat} {j k : String} : Hops lib used n j → lib.Needs j k → Hops lib used (n + 1) k

/-- The fewest dependencies over which a key is reached. -/
def Distance (lib : Library) (used : List String) (k : String) (n : Nat) : Prop :=
  lib.Hops used n k ∧ ∀ m < n, ¬ lib.Hops used m k

section Distance

variable {lib : Library} {used : List String} {n : Nat} {k : String}

theorem Distance.unique {m : Nat} (h : lib.Distance used k n) (h' : lib.Distance used k m) : n = m := by
  rcases Nat.lt_trichotomy n m with hlt | heq | hlt
  · exact absurd h.1 (h'.2 n hlt)
  · exact heq
  · exact absurd h'.1 (h.2 m hlt)

theorem hops_of_mem_level (h : k ∈ lib.level used n) : lib.Hops used n k := by
  induction n generalizing k with
  | zero => exact .used h
  | succ n ih =>
    obtain ⟨⟨j, hj, hneeds⟩, -⟩ := mem_level_succ.1 h
    exact .need (ih hj) hneeds

theorem exists_level_of_hops (h : lib.Hops used n k) : ∃ m ≤ n, k ∈ lib.level used m := by
  induction h with
  | used h => exact ⟨0, Nat.le_refl 0, h⟩
  | @need n j k _ hneeds ih =>
    obtain ⟨m, hm, hj⟩ := ih
    -- the key is in the level after that of `j`, unless an earlier one has it
    by_cases hk : ∃ m' ≤ m, k ∈ lib.level used m'
    · obtain ⟨m', hm', hk⟩ := hk
      exact ⟨m', by omega, hk⟩
    · refine ⟨m + 1, by omega, mem_level_succ.2 ⟨⟨j, hj, hneeds⟩, ?_⟩⟩
      intro m' hm' hmem
      exact hk ⟨m', hm', hmem⟩

theorem notMem_level_of_lt {m : Nat} (h : k ∈ lib.level used n) (hm : m < n) : k ∉ lib.level used m := by
  cases n with
  | zero => omega
  | succ n => exact (mem_level_succ.1 h).2 m (by omega)

/-- The keys of a level are those at its distance. -/
theorem mem_level : k ∈ lib.level used n ↔ lib.Distance used k n := by
  constructor
  · intro h
    refine ⟨hops_of_mem_level h, fun m hm hhops => ?_⟩
    obtain ⟨m', hm', hk⟩ := exists_level_of_hops hhops
    exact notMem_level_of_lt h (by omega) hk
  · intro h
    obtain ⟨m, hm, hk⟩ := exists_level_of_hops h.1
    rcases Nat.lt_or_eq_of_le hm with hlt | rfl
    · exact absurd (hops_of_mem_level hk) (h.2 m hlt)
    · exact hk

end Distance

/-- Every key of a closure has a distance, and distances never fall along it. -/
theorem distances_closure (lib : Library) {used : List String} (h : used.Nodup) :
    ∃ d : String → Nat, (∀ k ∈ lib.closure used, lib.Distance used k (d k)) ∧
      (lib.closure used).Pairwise fun k k' => d k ≤ d k' := by
  obtain ⟨N, hN⟩ := closure_eq_flatMap_level lib h
  have hclosure := hN N (Nat.le_refl N)
  have hdistance : ∀ k, ∃ n, k ∈ lib.closure used → lib.Distance used k n := by
    intro k
    by_cases hk : k ∈ lib.closure used
    · rw [hclosure, List.mem_flatMap] at hk
      obtain ⟨n, -, hn⟩ := hk
      exact ⟨n, fun _ => mem_level.1 hn⟩
    · exact ⟨0, fun h => absurd h hk⟩
  choose d hd using hdistance
  have hlevel : ∀ n < N, ∀ k ∈ lib.level used n, d k = n := by
    intro n hn k hk
    have hmem : k ∈ lib.closure used := by
      rw [hclosure, List.mem_flatMap]
      exact ⟨n, List.mem_range.2 hn, hk⟩
    exact (hd k hmem).unique (mem_level.1 hk)
  refine ⟨d, hd, ?_⟩
  rw [hclosure, List.pairwise_flatMap]
  constructor
  · intro n hn
    apply List.pairwise_of_forall_mem_list
    intro k hk k' hk'
    have hd := hlevel n (List.mem_range.1 hn) k hk
    have hd' := hlevel n (List.mem_range.1 hn) k' hk'
    omega
  · refine List.pairwise_lt_range.imp_of_mem ?_
    intro n n' hn hn' hlt k hk k' hk'
    have hd := hlevel n (List.mem_range.1 hn) k hk
    have hd' := hlevel n' (List.mem_range.1 hn') k' hk'
    omega

/-! ## Closed lists -/

/-- The walk leaves a list that depends on nothing outside of it. -/
theorem grow_of_closed {lib : Library} {keys pending : List String} (h : ∀ k ∈ pending, lib.dependencies k ⊆ keys) :
    lib.grow keys pending = keys := by
  have hfresh : fresh keys (pending.flatMap lib.dependencies) = [] := by
    apply List.eq_nil_iff_forall_not_mem.2
    intro d hd
    obtain ⟨hneeded, hnew⟩ := mem_fresh.1 hd
    obtain ⟨k, hk, hd⟩ := List.mem_flatMap.1 hneeded
    exact hnew (h k hk hd)
  have hgrow := grow_append lib keys pending []
  rw [List.append_nil, hfresh, List.append_nil, List.append_nil] at hgrow
  rw [hgrow, grow]

theorem closure_closure (lib : Library) (used : List String) : lib.closure (lib.closure used) = lib.closure used := by
  rw [closure_of_nodup lib (nodup_closure lib used)]
  apply grow_of_closed
  intro k hk
  exact closed_grow (fun k hk => .inl hk) k hk

/-- For an ordered set of keys the closure is the levels one after another, up to any level past the last one that
holds keys. So the distance from the used keys never falls along it, and closing it once more changes nothing. -/
theorem closure_breadth_first (lib : Library) {used : List String} (h : used.Nodup) :
    (∃ N, ∀ n ≥ N, lib.closure used = (List.range n).flatMap (lib.level used)) ∧
      (∃ d : String → Nat, (∀ k ∈ lib.closure used, lib.Distance used k (d k)) ∧
        (lib.closure used).Pairwise fun k k' => d k ≤ d k') ∧
      lib.closure (lib.closure used) = lib.closure used :=
  ⟨closure_eq_flatMap_level lib h, distances_closure lib h, closure_closure lib used⟩

/-- Two ways lead to `Core`, `Log` and `App` need each other, and `Net` needs itself. -/
def crossed : Library := [
  Step.module ⟨"App", "app", ["App"], ["Net", "Log"]⟩,
  .module ⟨"Net", "net", ["Net"], ["Log", "Core", "Net"]⟩,
  .module ⟨"Log", "log", ["Log"], ["Core", "App"]⟩,
  .module ⟨"Core", "core", ["Core"], ["Gone"]⟩].foldl add {}

theorem closure_breadth_first_crossed :
    ["Log", "App"].Nodup ∧ crossed.closure ["Log", "App"] = ["Log", "App", "Core", "Net", "Gone"] ∧
      (∃ N, ∀ n ≥ N, ["Log", "App", "Core", "Net", "Gone"] = (List.range n).flatMap (crossed.level ["Log", "App"])) ∧
      (∃ d : String → Nat, (∀ k ∈ ["Log", "App", "Core", "Net", "Gone"], crossed.Distance ["Log", "App"] k (d k)) ∧
        ["Log", "App", "Core", "Net", "Gone"].Pairwise fun k k' => d k ≤ d k') ∧
      crossed.closure ["Log", "App", "Core", "Net", "Gone"] = ["Log", "App", "Core", "Net", "Gone"] := by
  have hclosure : crossed.closure ["Log", "App"] = ["Log", "App", "Core", "Net", "Gone"] := by
    decide +kernel
  have hnodup : ["Log", "App"].Nodup := by decide
  have hall := closure_breadth_first crossed hnodup
  rw [hclosure] at hall
  exact ⟨hnodup, hclosure, hall⟩

end TreeScript.Library
