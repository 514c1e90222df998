/-
  TreeScript.Proofs.Imports — a script imports exactly the modules that are reported for it.

  Writing the imports passes over keys that have no module. None is passed over: a library
  that could be built is `Whole`, that is, all it refers to is there, and a key gets into
  the list of modules only from such a reference or as the kind of a node that has a module
  (`Whole.known`). What is there under a key is what the steps registered last
  (`module?_foldl_add`).
-/

import TreeScript.Proofs.Closure
import TreeScript.Proofs.RuntimeNames

namespace TreeScript

namespace Library

/-! ## Registered modules -/

def Step.module? (key : String) : Step → Option Module
  | .module m => if m.key = key then some m else none
  | _ => none

/-- The module that steps register under a key; of several it is the last. -/
def registered? (key : String) : List Step → Option Module
  | [] => none
  | s :: steps => registered? key steps <|> s.module? key

theorem module?_add (lib : Library) (s : Step) (key : String) :
    (lib.add s).module? key = (s.module? key <|> lib.module? key) := by
  cases s with
  | module m =>
    unfold add Step.module? module?
    rw [Table.lookup_enter]
    by_cases h : m.key = key
    · simp [h]
    · have hne : ¬ key = m.key := fun e => h e.symm
      simp [h, hne]
  | facility name target => rfl
  | builtins target names => rfl
  | spelling name target => rfl

theorem module?_foldl_add (steps : List Step) (lib : Library) (key : String) :
    (steps.foldl add lib).module? key = (registered? key steps <|> lib.module? key) := by
  induction steps generalizing lib with
  | nil => rfl
  | cons s steps ih =>
    rw [List.foldl_cons, ih, module?_add, registered?]
    cases registered? key steps with
    | none => simp
    | some m => simp

/-! ## Whole libraries -/

/-- All that a library refers to is there. -/
structure Whole (lib : Library) : Prop where
  dependencies : ∀ e ∈ lib.modules, ∀ d ∈ e.2.dependencies, (lib.module? d).isSome
  facilities : ∀ e ∈ lib.facilities, (lib.module? e.2).isSome
  builtins : ∀ e ∈ lib.builtins, (lib.module? e.2).isSome

theorem whole_of_gap? {lib : Library} (h : lib.gap? = none) : lib.Whole := by
  unfold gap? at h
  simp only [Option.orElse_eq_orElse, Option.orElse_eq_or, Option.or_eq_none_iff, List.findSome?_eq_none_iff,
    Option.map_eq_none_iff, List.find?_eq_none, List.mem_append] at h
  obtain ⟨hdependencies, htargets⟩ := h
  refine ⟨?_, ?_, ?_⟩
  · intro e he d hd
    simpa [Option.isSome_iff_ne_none] using hdependencies e he d hd
  · intro e he
    simpa [Option.isSome_iff_ne_none] using htargets e (.inl he)
  · intro e he
    simpa [Option.isSome_iff_ne_none] using htargets e (.inr he)

theorem build_eq_ok {steps : List Step} {lib : Library} (h : build steps = .ok lib) :
    (∀ key, lib.module? key = registered? key steps) ∧ lib.Whole := by
  unfold build at h
  simp only at h
  split at h
  · cases h
  · rename_i hgap
    cases h
    refine ⟨?_, whole_of_gap? hgap⟩
    intro key
    rw [module?_foldl_add]
    simp [module?]

namespace Whole

variable {lib : Library} (h : lib.Whole)

include h

theorem known_of_needs {key d : String} (hd : lib.Needs key d) : (lib.module? d).isSome := by
  unfold Needs Library.dependencies at hd
  cases hm : lib.module? key with
  | none => simp [hm] at hd
  | some m =>
    rw [hm] at hd
    exact h.dependencies (key, m) (mem_of_lookup hm) d hd

/-- A node calls only for modules that are there. -/
theorem known_of_calls {n : Tree.Node} {k : String} (hk : k ∈ lib.calls n) : (lib.module? k).isSome := by
  have hkind : ∀ kind, k ∈ (lib.nodeModule? kind).toList → (lib.module? k).isSome := by
    intro kind hkind
    unfold nodeModule? at hkind
    cases hm : lib.module? kind with
    | none => simp [hm] at hkind
    | some m =>
      have hk : k = kind := by simpa [hm] using hkind
      simp [hk, hm]
  cases n with
  | stmt s => exact hkind s.kind hk
  | expr e =>
    rcases List.mem_append.1 hk with hk | hk
    · exact hkind e.kind hk
    · rw [Option.mem_toList] at hk
      cases e with
      | identifier name =>
        rw [nameModule?] at hk
        cases hb : lib.builtinOwner? name with
        | some owner =>
          have hk : owner = k := by simpa [hb] using hk
          exact hk ▸ h.builtins (name, owner) (mem_of_lookup hb)
        | none =>
          have hk : lib.facility? name = some k := by simpa [hb] using hk
          exact h.facilities (name, k) (mem_of_lookup hk)
      | _ => cases hk

/-- Every key that a program needs has a module. -/
theorem known {p : Tree.Program} {k : String} (hk : k ∈ lib.needed p) : (lib.module? k).isSome := by
  obtain ⟨u, hu, hpath⟩ := mem_closure.1 hk
  induction hpath with
  | refl =>
    obtain ⟨n, -, hcalls⟩ := mem_used.1 hu
    exact h.known_of_calls hcalls
  | tail _ hneeds _ => exact h.known_of_needs hneeds

end Whole

theorem map_module?_eq {lib : Library} {keys : List String} (h : ∀ k ∈ keys, (lib.module? k).isSome) :
    keys.map lib.module? = (keys.filterMap lib.module?).map some := by
  induction keys with
  | nil => rfl
  | cons k keys ih =>
    obtain ⟨m, hm⟩ := Option.isSome_iff_exists.1 (h k List.mem_cons_self)
    rw [List.map_cons, List.filterMap_cons_some hm, List.map_cons, hm, ih fun k hk => h k (List.mem_cons_of_mem _ hk)]

end Library

/-! ## The text of a script -/

namespace Script

theorem unlines_append_newline {l : List Char} {ls : List (List Char)} :
    unlines (l :: ls) ++ ['\n'] = (l :: ls).flatMap (· ++ ['\n']) := by
  induction ls generalizing l with
  | nil => simp [unlines]
  | cons l' ls ih =>
    have hcons : unlines (l :: l' :: ls) = l ++ '\n' :: unlines (l' :: ls) := by simp [unlines]
    rw [hcons, List.append_assoc, List.cons_append, ih]
    simp

/-- The text of a script: its imports, a line each, and what it would be without them. -/
theorem Program.text_eq (imports : List Import) (body : List Stmt) :
    Program.text ⟨imports, body⟩ = String.join (imports.map fun i => i.text ++ "\n") ++ Program.text ⟨[], body⟩ := by
  cases imports with
  | nil => simp [Program.text, Program.chars]
  | cons i imports =>
    have hlines : unlines (i.chars :: imports.map Import.chars) ++ ['\n'] =
        (i.chars :: imports.map Import.chars).flatMap (· ++ ['\n']) := unlines_append_newline
    have hchars : Program.chars ⟨i :: imports, body⟩ =
        (i.chars :: imports.map Import.chars).flatMap (· ++ ['\n']) ++ Program.chars ⟨[], body⟩ := by
      rw [← hlines]
      simp [Program.chars]
    apply String.toList_inj.1
    rw [Program.text, String.toList_ofList, hchars]
    simp [Program.text, Import.text, List.flatMap_map]

end Script

/-- A program that is compiled against a library that was built: the modules reported for it are distinct, each is
registered, and with a module its dependencies are reported too. The script is an import of every one of them, a line
each and in their order, and then the program's statements. -/
theorem imports_match_modules {steps : List Library.Step} {lib : Library} (hlib : Library.build steps = .ok lib)
    {p : Tree.Program} {out : Lowering.Output} (hout : compileWith lib p = .ok out) :
    out.modules.Nodup ∧
      ∃ ms : List Library.Module,
        out.modules.map (Library.registered? · steps) = ms.map some ∧
        (∀ m ∈ ms, m.dependencies ⊆ out.modules) ∧
        Lowering.stmts ⟨lib, Lowering.declared p.gathered.body⟩ p.gathered.body = .ok out.script.body ∧
        out.source = String.join (ms.map fun m => m.binding.text ++ "\n") ++ Script.Program.text ⟨[], out.script.body⟩ := by
  obtain ⟨hregistered, hwhole⟩ := Library.build_eq_ok hlib
  obtain ⟨hbody, hmodules, himports⟩ := Lowering.compile_eq_ok (Lowering.mapError_eq_ok.1 hout)
  have hknown : ∀ k ∈ out.modules, (lib.module? k).isSome := fun k hk => hwhole.known (hmodules ▸ hk)
  have hms : out.modules.map lib.module? = (out.modules.filterMap lib.module?).map some :=
    Library.map_module?_eq hknown
  refine ⟨?_, out.modules.filterMap lib.module?, ?_, ?_, hbody, ?_⟩
  · rw [hmodules]
    exact Library.nodup_closure _ _
  · rw [← hms]
    exact List.map_congr_left fun k _ => (hregistered k).symm
  · intro m hm d hd
    obtain ⟨k, hk, hkm⟩ := List.mem_filterMap.1 hm
    have hneeds : lib.Needs k d := by
      unfold Library.Needs Library.dependencies
      rw [hkm]
      exact hd
    rw [hmodules] at hk ⊢
    obtain ⟨u, hu, hpath⟩ := Library.mem_closure.1 hk
    exact Library.mem_closure.2 ⟨u, hu, hpath.tail hneeds⟩
  · have hbindings : out.script.imports = (out.modules.filterMap lib.module?).map Library.Module.binding := by
      rw [himports, List.map_filterMap]
    calc out.source
        = String.join (out.script.imports.map fun i => i.text ++ "\n") ++ Script.Program.text ⟨[], out.script.body⟩ :=
          Script.Program.text_eq _ _
      _ = String.join ((out.modules.filterMap lib.module?).map fun m => m.binding.text ++ "\n") ++
            Script.Program.text ⟨[], out.script.body⟩ := by
          rw [hbindings, List.map_map]
          rfl

/-- A library in which a module is registered twice, the second time with a dependency that comes only later. -/
def relayed : List Library.Step := [
  .facility "Clock" "Time",
  .module ⟨"Time", "old", ["Stale"], []⟩,
  .module ⟨"Time", "time", ["Clock", "Zone"], ["Zones", "Time", "Zones"]⟩,
  .builtins "Time" ["now"],
  .module ⟨"Zones", "zones", ["Zones"], ["Time"]⟩,
  .module ⟨"ReturnStatement", "leave", [], []⟩]

def clockReader : Tree.Program := ⟨[.function "f" [] [.ret (.call (.identifier "now") [.identifier "Clock"])]]⟩

theorem imports_match_modules_relayed :
    ∃ lib out, Library.build relayed = .ok lib ∧ compileWith lib clockReader = .ok out ∧ out.modules.Nodup ∧
      ∃ ms : List Library.Module,
        out.modules.map (Library.registered? · relayed) = ms.map some ∧
        (∀ m ∈ ms, m.dependencies ⊆ out.modules) ∧
        out.source = String.join (ms.map fun m => m.binding.text ++ "\n") ++
          Script.Program.text ⟨[], out.script.body⟩ := by
  have hlib : Library.build relayed = .ok (relayed.foldl .add {}) := rfl
  have hout : compileWith (relayed.foldl .add {}) clockReader = .ok _ := rfl
  obtain ⟨hnodup, ms, hms, hclosed, -, hsource⟩ := imports_match_modules hlib hout
  exact ⟨_, _, hlib, hout, hnodup, ms, hms, hclosed, hsource⟩

end TreeScript
