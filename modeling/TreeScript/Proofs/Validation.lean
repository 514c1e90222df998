/-
  TreeScript.Proofs.Validation — which libraries hold together, and what is said of the others.

  A library is built from steps, and each step makes entries into one of its tables. What a
  table holds in the end is read off all entries that were made into it: its keys stand in
  the order of their first entry (`firsts`), and each has the value of its last one
  (`last?`). So the tables do not depend on how steps of different kinds are mixed
  (`foldl_add`), a module may be named before it is registered, and the first gap is the
  first in the order of first entries, by the values that were entered last (`FirstGap`).
-/

import TreeScript.Proofs.Calls

namespace TreeScript

/-! ## Entries of a table -/

namespace Table

variable {α β : Type}

/-- A table that is entered into, one entry after another. -/
def entered (t : Table String α) (es : List (String × α)) : Table String α := es.foldl (fun t e => enter e.1 e.2 t) t

/-- The keys of some entries, in the order of their first ones. -/
def firsts (es : List (String × α)) : List String := (es.map Prod.fst).eraseDups

/-- The value that was entered last under a key. -/
def last? (es : List (String × α)) (key : String) : Option α := es.reverse.lookup key

theorem keys_entered (t : Table String α) (es : List (String × α)) :
    (t.entered es).map Prod.fst = (es.map Prod.fst).foldl Library.note (t.map Prod.fst) := by
  induction es generalizing t with
  | nil => rfl
  | cons e es ih =>
    have hkeys : (enter e.1 e.2 t).map Prod.fst = Library.note (t.map Prod.fst) e.1 := by
      rw [keys_enter, Library.note]
      simp only [List.contains_eq_mem, decide_eq_true_eq]
    rw [List.map_cons, List.foldl_cons, ← hkeys]
    exact ih (enter e.1 e.2 t)

theorem lookup_entered (t : Table String α) (es : List (String × α)) (key : String) :
    (t.entered es).lookup key = (last? es key).or (t.lookup key) := by
  induction es generalizing t with
  | nil => rfl
  | cons e es ih =>
    have hone : (enter e.1 e.2 t).lookup key = ([e].lookup key).or (t.lookup key) := by
      rw [lookup_enter, List.lookup_cons]
      cases key == e.1 <;> rfl
    calc ((enter e.1 e.2 t).entered es).lookup key
        = (last? es key).or (([e].lookup key).or (t.lookup key)) := by rw [ih, hone]
      _ = (last? (e :: es) key).or (t.lookup key) := by
        rw [← Option.or_assoc, last?, last?, List.reverse_cons, List.lookup_append]

theorem mem_iff_lookup {t : Table String α} (h : (t.map Prod.fst).Nodup) {key : String} {value : α} :
    (key, value) ∈ t ↔ t.lookup key = some value := by
  constructor
  · intro hmem
    obtain ⟨l, l', rfl⟩ := List.append_of_mem hmem
    refine List.lookup_eq_some_iff.2 ⟨l, l', rfl, fun e he => bne_iff_ne.2 ?_⟩
    rw [List.map_append, List.map_cons, List.nodup_append] at h
    exact fun hkey => h.2.2 e.1 (List.mem_map_of_mem he) key List.mem_cons_self hkey.symm
  · intro hlookup
    obtain ⟨l, l', rfl, -⟩ := List.lookup_eq_some_iff.1 hlookup
    exact List.mem_append_right l List.mem_cons_self

section Final

variable (es : List (String × α))

theorem keys_final : (entered [] es).map Prod.fst = firsts es := by
  rw [keys_entered, List.map_nil, Library.foldl_note_eq_eraseDups, firsts]

/-- A table holds, under each key, the value that was entered last. -/
theorem mem_final {es : List (String × α)} {key : String} {value : α} :
    (key, value) ∈ entered [] es ↔ last? es key = some value := by
  have hnodup : ((entered [] es).map Prod.fst).Nodup := by
    rw [keys_entered]
    exact Library.nodup_foldl_note List.nodup_nil _
  rw [mem_iff_lookup hnodup, lookup_entered, List.lookup_nil, Option.or_none]

/-- The first entry of a table that a question has an answer for: it is the first in the order of first entries. -/
theorem findSome?_final {f : String × α → Option β} {b : β} : (entered [] es).findSome? f = some b ↔
    ∃ before key after value, firsts es = before ++ key :: after ∧ last? es key = some value ∧
      f (key, value) = some b ∧ ∀ k ∈ before, ∀ w, last? es k = some w → f (k, w) = none := by
  rw [List.findSome?_eq_some_iff]
  constructor
  · rintro ⟨l, ⟨key, value⟩, l', hsplit, hanswer, hnone⟩
    refine ⟨l.map Prod.fst, key, l'.map Prod.fst, value, ?_, ?_, hanswer, ?_⟩
    · rw [← keys_final, hsplit, List.map_append, List.map_cons]
    · exact mem_final.1 (hsplit ▸ List.mem_append_right l List.mem_cons_self)
    · intro k hk w hw
      obtain ⟨⟨k', w'⟩, he, rfl⟩ := List.mem_map.1 hk
      have hlast := mem_final.1 (hsplit ▸ List.mem_append_left _ he)
      rw [hw] at hlast
      cases hlast
      exact hnone _ he
  · rintro ⟨before, key, after, value, hfirsts, hvalue, hanswer, hnone⟩
    rw [← keys_final, List.map_eq_append_iff] at hfirsts
    obtain ⟨l, rest, hsplit, rfl, hrest⟩ := hfirsts
    obtain ⟨⟨k, w⟩, l', rfl, rfl, rfl⟩ := List.map_eq_cons_iff.1 hrest
    have hlast := mem_final.1 (hsplit ▸ List.mem_append_right l List.mem_cons_self)
    rw [hvalue] at hlast
    cases hlast
    refine ⟨l, _, l', hsplit, hanswer, ?_⟩
    rintro ⟨k', w'⟩ he
    exact hnone k' (List.mem_map_of_mem he) w' (mem_final.1 (hsplit ▸ List.mem_append_left _ he))

theorem findSome?_final_eq_none {f : String × α → Option β} :
    (entered [] es).findSome? f = none ↔ ∀ key value, last? es key = some value → f (key, value) = none := by
  rw [List.findSome?_eq_none_iff]
  constructor
  · intro h key value hvalue
    exact h _ (mem_final.2 hvalue)
  · rintro h ⟨key, value⟩ hmem
    exact h key value (mem_final.1 hmem)

end Final

end Table

namespace Library

open Table (entered firsts last?)

/-! ## Entries of steps -/

namespace Step

/-- The entries that a step makes into the table of modules. -/
def toModules : Step → List (String × Module)
  | .module m => [(m.key, m)]
  | _ => []

def toFacilities : Step → List (String × String)
  | .facility name key => [(name, key)]
  | _ => []

def toBuiltins : Step → List (String × String)
  | .builtins key names => names.map (·, key)
  | _ => []

def toAliases : Step → List (String × String)
  | .spelling name target => [(name, target)]
  | _ => []

end Step

/-- One step: every table takes the entries that the step has for it. -/
theorem add_eq (lib : Library) (s : Step) :
    lib.add s = ⟨entered lib.modules s.toModules, entered lib.facilities s.toFacilities,
      entered lib.builtins s.toBuiltins, entered lib.aliases s.toAliases⟩ := by
  cases s with
  | builtins key names =>
    have hnames : entered lib.builtins (names.map (·, key)) =
        names.foldl (fun t name => Table.enter name key t) lib.builtins := List.foldl_map
    rw [Step.toBuiltins, hnames]
    rfl
  | _ => rfl

theorem foldl_add (lib : Library) (steps : List Step) :
    steps.foldl add lib = ⟨entered lib.modules (steps.flatMap Step.toModules),
      entered lib.facilities (steps.flatMap Step.toFacilities), entered lib.builtins (steps.flatMap Step.toBuiltins),
      entered lib.aliases (steps.flatMap Step.toAliases)⟩ := by
  induction steps generalizing lib with
  | nil => rfl
  | cons s steps ih =>
    rw [List.foldl_cons, ih, add_eq]
    simp only [entered, List.flatMap_cons, List.foldl_append]

/-! ## Gaps -/

/-- Some step registers a module under the key. -/
def Registered (steps : List Step) (key : String) : Prop := ∃ m, .module m ∈ steps ∧ m.key = key

/-- The first dependency of a module that no step registers. -/
def Lacks (steps : List Step) (m : Module) (missing : String) : Prop :=
  ∃ before after, m.dependencies = before ++ missing :: after ∧ (∀ d ∈ before, Registered steps d) ∧
    ¬ Registered steps missing

/-- Every module's dependencies are registered, as the module was registered last. -/
def DependenciesHold (steps : List Step) : Prop :=
  ∀ key m, last? (steps.flatMap Step.toModules) key = some m → ∀ d ∈ m.dependencies, Registered steps d

/-- Every name's target is registered, as it was entered last. -/
def TargetsHold (steps : List Step) (es : List (String × String)) : Prop :=
  ∀ name key, last? es name = some key → Registered steps key

/-- The first name, in the order of first entries, whose target is not registered. -/
def FirstStray (steps : List Step) (es : List (String × String)) (name missing : String) : Prop :=
  ∃ before after, firsts es = before ++ name :: after ∧ last? es name = some missing ∧ ¬ Registered steps missing ∧
    ∀ n ∈ before, ∀ key, last? es n = some key → Registered steps key

/-- The first module, in the order of first registration, with a dependency that is not registered. -/
def FirstLacking (steps : List Step) (key missing : String) : Prop :=
  ∃ before after m, firsts (steps.flatMap Step.toModules) = before ++ key :: after ∧
    last? (steps.flatMap Step.toModules) key = some m ∧ Lacks steps m missing ∧
    ∀ k ∈ before, ∀ m', last? (steps.flatMap Step.toModules) k = some m' → ∀ d ∈ m'.dependencies, Registered steps d

/-- What is said of steps that leave a gap. Facilities are looked at only if no dependency is missing, and
built-ins only if no facility is astray either. -/
inductive FirstGap (steps : List Step) : Diagnostic → Prop
  | dependency {key missing : String} : FirstLacking steps key missing →
      FirstGap steps
        { header := "module " ++ key ++ " depends on unknown module " ++ missing,
          footer := "Help: register every module before it is named as a dependency." }
  | facility {name missing : String} : DependenciesHold steps →
      FirstStray steps (steps.flatMap Step.toFacilities) name missing →
      FirstGap steps { header := "name " ++ name ++ " refers to unknown module " ++ missing, footer := "" }
  | builtin {name missing : String} : DependenciesHold steps → TargetsHold steps (steps.flatMap Step.toFacilities) →
      FirstStray steps (steps.flatMap Step.toBuiltins) name missing →
      FirstGap steps { header := "name " ++ name ++ " refers to unknown module " ++ missing, footer := "" }

section Gaps

variable {steps : List Step}

theorem last?_toModules {key : String} {m : Module} (h : last? (steps.flatMap Step.toModules) key = some m) :
    .module m ∈ steps ∧ m.key = key := by
  obtain ⟨l, l', hsplit, -⟩ := List.lookup_eq_some_iff.1 h
  have hmem : (key, m) ∈ steps.flatMap Step.toModules := by
    rw [← List.mem_reverse, hsplit]
    exact List.mem_append_right l List.mem_cons_self
  obtain ⟨s, hs, he⟩ := List.mem_flatMap.1 hmem
  cases s with
  | module m' =>
    cases List.mem_singleton.1 he
    exact ⟨hs, rfl⟩
  | _ => cases he

theorem unknown_iff (key : String) : ((steps.foldl add {}).module? key).isNone = true ↔ ¬ Registered steps key := by
  have hlookup : (steps.foldl add {}).module? key = last? (steps.flatMap Step.toModules) key := by
    rw [foldl_add]
    exact (Table.lookup_entered [] _ key).trans (Option.or_none)
  rw [hlookup, Option.isNone_iff_eq_none]
  constructor
  · rintro hnone ⟨m, hm, rfl⟩
    have hne := List.lookup_eq_none_iff.1 hnone (m.key, m)
      (List.mem_reverse.2 (List.mem_flatMap.2 ⟨_, hm, List.mem_singleton_self _⟩))
    exact bne_iff_ne.1 hne rfl
  · intro hunknown
    cases hlast : last? (steps.flatMap Step.toModules) key with
    | none => rfl
    | some m => exact absurd ⟨m, last?_toModules hlast⟩ hunknown

/-- Whether a key is unknown, as building asks it. -/
def unknown (steps : List Step) (key : String) : Bool := ((steps.foldl add {}).module? key).isNone

theorem unknown_eq_false (key : String) : unknown steps key = false ↔ Registered steps key := by
  rw [← Bool.not_eq_true, unknown, unknown_iff, not_not]

theorem find?_unknown (m : Module) (missing : String) :
    m.dependencies.find? (unknown steps) = some missing ↔ Lacks steps m missing := by
  simp only [List.find?_eq_some_iff_append, Bool.not_eq_true', unknown_eq_false]
  rw [unknown, unknown_iff]
  constructor
  · rintro ⟨hunknown, before, after, hsplit, hbefore⟩
    exact ⟨before, after, hsplit, hbefore, hunknown⟩
  · rintro ⟨before, after, hsplit, hbefore, hunknown⟩
    exact ⟨hunknown, before, after, hsplit, hbefore⟩

theorem find?_unknown_eq_none (m : Module) :
    m.dependencies.find? (unknown steps) = none ↔ ∀ d ∈ m.dependencies, Registered steps d := by
  simp only [List.find?_eq_none, Bool.not_eq_true, unknown_eq_false]

/-! ## The first gap -/

/-- The gap that a module leaves by itself. -/
def dependencyGap (steps : List Step) (e : String × Module) : Option Gap :=
  (e.2.dependencies.find? (unknown steps)).map (.dependency e.2.key)

/-- The gap that a name leaves by itself. -/
def targetGap (steps : List Step) (e : String × String) : Option Gap :=
  if unknown steps e.2 then some (.target e.1 e.2) else none

theorem gap?_eq (steps : List Step) :
    (steps.foldl add {}).gap? = ((entered [] (steps.flatMap Step.toModules)).findSome? (dependencyGap steps)).or
      (((entered [] (steps.flatMap Step.toFacilities)).findSome? (targetGap steps)).or
        ((entered [] (steps.flatMap Step.toBuiltins)).findSome? (targetGap steps))) := by
  have htarget (t : Table String String) :
      (t.find? fun e => unknown steps e.2).map (fun e => Gap.target e.1 e.2) = t.findSome? (targetGap steps) := by
    rw [List.find?_eq_findSome?_guard, List.map_findSome?]
    congr 1
    funext e
    simp only [Function.comp_apply, Option.guard, targetGap]
    split <;> rfl
  have hgap : (steps.foldl add {}).gap? = ((steps.foldl add {}).modules.findSome? (dependencyGap steps)).or
      ((((steps.foldl add {}).facilities ++ (steps.foldl add {}).builtins).find? fun e => unknown steps e.2).map
        fun e => Gap.target e.1 e.2) := Option.orElse_eq_or
  rw [hgap, htarget, List.findSome?_append, foldl_add]

theorem dependencyGap_eq_none (e : String × Module) :
    dependencyGap steps e = none ↔ ∀ d ∈ e.2.dependencies, Registered steps d := by
  rw [dependencyGap, Option.map_eq_none_iff, find?_unknown_eq_none]

theorem targetGap_eq_none (e : String × String) : targetGap steps e = none ↔ Registered steps e.2 := by
  rw [targetGap, ← unknown_eq_false]
  cases unknown steps e.2 <;> simp

theorem targetGap_eq_some {e : String × String} {g : Gap} :
    targetGap steps e = some g ↔ ¬ Registered steps e.2 ∧ g = .target e.1 e.2 := by
  rw [targetGap, ← unknown_eq_false]
  cases unknown steps e.2 <;> simp [eq_comm]

theorem findSome?_dependencyGap {g : Gap} :
    (entered [] (steps.flatMap Step.toModules)).findSome? (dependencyGap steps) = some g ↔
      ∃ key missing, FirstLacking steps key missing ∧ g = .dependency key missing := by
  simp only [Table.findSome?_final, dependencyGap_eq_none]
  constructor
  · rintro ⟨before, key, after, m, hfirsts, hlast, hgap, hbefore⟩
    obtain ⟨missing, hmissing, rfl⟩ := Option.map_eq_some_iff.1 hgap
    obtain ⟨-, rfl⟩ := last?_toModules hlast
    exact ⟨m.key, missing, ⟨before, after, m, hfirsts, hlast, (find?_unknown m missing).1 hmissing, hbefore⟩, rfl⟩
  · rintro ⟨key, missing, ⟨before, after, m, hfirsts, hlast, hlacks, hbefore⟩, rfl⟩
    refine ⟨before, key, after, m, hfirsts, hlast, ?_, hbefore⟩
    rw [dependencyGap, (find?_unknown m missing).2 hlacks, (last?_toModules hlast).2]
    rfl

theorem findSome?_targetGap {es : List (String × String)} {g : Gap} :
    (entered [] es).findSome? (targetGap steps) = some g ↔
      ∃ name missing, FirstStray steps es name missing ∧ g = .target name missing := by
  simp only [Table.findSome?_final, targetGap_eq_none, targetGap_eq_some]
  constructor
  · rintro ⟨before, name, after, missing, hfirsts, hlast, ⟨hmissing, rfl⟩, hbefore⟩
    exact ⟨name, missing, ⟨before, after, hfirsts, hlast, hmissing, hbefore⟩, rfl⟩
  · rintro ⟨name, missing, ⟨before, after, hfirsts, hlast, hmissing, hbefore⟩, rfl⟩
    exact ⟨before, name, after, missing, hfirsts, hlast, ⟨hmissing, rfl⟩, hbefore⟩

theorem findSome?_dependencyGap_eq_none :
    (entered [] (steps.flatMap Step.toModules)).findSome? (dependencyGap steps) = none ↔ DependenciesHold steps := by
  simp only [Table.findSome?_final_eq_none, dependencyGap_eq_none]
  rfl

theorem findSome?_targetGap_eq_none {es : List (String × String)} :
    (entered [] es).findSome? (targetGap steps) = none ↔ TargetsHold steps es := by
  simp only [Table.findSome?_final_eq_none, targetGap_eq_none]
  rfl

theorem gap?_eq_none : (steps.foldl add {}).gap? = none ↔ DependenciesHold steps ∧
    TargetsHold steps (steps.flatMap Step.toFacilities) ∧ TargetsHold steps (steps.flatMap Step.toBuiltins) := by
  rw [gap?_eq, Option.or_eq_none_iff, Option.or_eq_none_iff, findSome?_dependencyGap_eq_none,
    findSome?_targetGap_eq_none, findSome?_targetGap_eq_none]

/-- The diagnostic of the gap that building finds is the one of the first gap. -/
theorem firstGap_iff (d : Diagnostic) :
    (∃ g, (steps.foldl add {}).gap? = some g ∧ g.diagnostic = d) ↔ FirstGap steps d := by
  simp only [gap?_eq, Option.or_eq_some_iff, findSome?_dependencyGap, findSome?_targetGap,
    findSome?_dependencyGap_eq_none, findSome?_targetGap_eq_none]
  constructor
  · rintro ⟨g, ⟨key, missing, hfirst, rfl⟩ | ⟨hdeps, ⟨name, missing, hfirst, rfl⟩ | ⟨htargets, name, missing, hfirst, rfl⟩⟩,
      rfl⟩
    · exact .dependency hfirst
    · exact .facility hdeps hfirst
    · exact .builtin hdeps htargets hfirst
  · intro h
    cases h with
    | dependency hfirst => exact ⟨_, .inl ⟨_, _, hfirst, rfl⟩, rfl⟩
    | facility hdeps hfirst => exact ⟨_, .inr ⟨hdeps, .inl ⟨_, _, hfirst, rfl⟩⟩, rfl⟩
    | builtin hdeps htargets hfirst => exact ⟨_, .inr ⟨hdeps, .inr ⟨htargets, _, _, hfirst, rfl⟩⟩, rfl⟩

end Gaps

/-- Building succeeds exactly if every dependency of every module, and the target of every facility and of every
built-in, as they were entered last, is the key of a module that some step registers. If it fails, what is said is
said of the first gap. And steps that make the same entries into each table build the same, in whatever order the
entries into different tables are made. -/
theorem build_validates (steps : List Step) :
    ((∃ lib, build steps = .ok lib) ↔ DependenciesHold steps ∧
        TargetsHold steps (steps.flatMap Step.toFacilities) ∧ TargetsHold steps (steps.flatMap Step.toBuiltins)) ∧
      (∀ d, (build steps).mapError Gap.diagnostic = .error d ↔ FirstGap steps d) ∧
      ∀ steps', steps'.flatMap Step.toModules = steps.flatMap Step.toModules →
        steps'.flatMap Step.toFacilities = steps.flatMap Step.toFacilities →
        steps'.flatMap Step.toBuiltins = steps.flatMap Step.toBuiltins →
        steps'.flatMap Step.toAliases = steps.flatMap Step.toAliases → build steps' = build steps := by
  refine ⟨?_, fun d => ?_, ?_⟩
  · rw [← gap?_eq_none]
    simp only [build]
    cases (steps.foldl add {}).gap? <;> simp
  · rw [← firstGap_iff]
    simp only [build]
    cases (steps.foldl add {}).gap? with
    | none =>
      constructor
      · intro h
        cases h
      · rintro ⟨g, hg, -⟩
        cases hg
    | some gap =>
      constructor
      · intro h
        cases h
        exact ⟨gap, rfl, rfl⟩
      · rintro ⟨g, hg, rfl⟩
        cases hg
        rfl
  · intro steps' hmodules hfacilities hbuiltins haliases
    rw [build, build, foldl_add, foldl_add, hmodules, hfacilities, hbuiltins, haliases]

/-- A module and a facility that are entered twice, the second time without a gap, and a module that is registered
after it is named. The gap that stays is the built-in's. -/
def overriding : List Step := [
  .builtins "Gone" ["abs", "max"],
  .module ⟨"A", "a", ["A"], ["Ghost", "B"]⟩,
  .facility "x" "Nowhere",
  .module ⟨"B", "b", ["B"], []⟩,
  .builtins "B" ["max"],
  .facility "x" "A",
  .module ⟨"A", "a2", ["A"], ["B"]⟩]

/-- The same entries into each table, table by table. -/
def sorted : List Step := [
  .facility "x" "Nowhere",
  .facility "x" "A",
  .module ⟨"A", "a", ["A"], ["Ghost", "B"]⟩,
  .module ⟨"B", "b", ["B"], []⟩,
  .module ⟨"A", "a2", ["A"], ["B"]⟩,
  .builtins "Gone" ["abs"],
  .builtins "Gone" ["max"],
  .builtins "B" ["max"]]

theorem build_validates_overriding :
    FirstGap overriding { header := "name abs refers to unknown module Gone", footer := "" } ∧
      build sorted = build overriding :=
  ⟨((build_validates overriding).2.1 _).1 rfl, (build_validates overriding).2.2 sorted rfl rfl rfl rfl⟩

end Library

end TreeScript
