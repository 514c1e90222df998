/-
  TreeScript.Proofs.Staging — what a compile command does to the files around it.

  The command is run on a tree of files (`ran`). It writes nothing before the program is
  compiled, then the script, and then it stages the library's files one by one, each by a
  copy (`stageFile`). A copy that succeeds changes one file, and one that fails changes none
  (`stageFile_eq_ok`); so at any module where staging stops, the files of the modules before
  it are copied and all others are as they were (`ran_stageFiles`).
-/

import TreeScript.Command.Run
import TreeScript.Proofs.Imports
import TreeScript.Proofs.Paths

namespace TreeScript.Command

open FileTree (disk)

/-! ## Running a command -/

/-- How a command comes out on a tree of files. -/
def ran {α : Type} (c : ExceptT Problem (StateM FileTree) α) (t : FileTree) : Except Problem α × FileTree := c.run.run t

section

variable {α β : Type} {t t' : FileTree}

theorem ran_bind_ok {c : ExceptT Problem (StateM FileTree) α} {a : α} (h : ran c t = (.ok a, t'))
    (f : α → ExceptT Problem (StateM FileTree) β) : ran (c >>= f) t = ran (f a) t' := by
  simp only [ran, ExceptT.run_bind, StateT.run_bind] at h ⊢
  rw [h]
  rfl

theorem ran_bind_error {c : ExceptT Problem (StateM FileTree) α} {p : Problem} (h : ran c t = (.error p, t'))
    (f : α → ExceptT Problem (StateM FileTree) β) : ran (c >>= f) t = (.error p, t') := by
  simp only [ran, ExceptT.run_bind, StateT.run_bind] at h ⊢
  rw [h]
  rfl

theorem ran_isThere (path : String) (t : FileTree) :
    ran (liftM (disk.isThere path)) t = (.ok (t.find path).toBool, t) := by
  have hthere : disk.isThere path t = ((t.find path).toBool, t) := by
    simp only [disk]
    cases t.find path <;> rfl
  show (Except.ok (disk.isThere path t).1, (disk.isThere path t).2) = _
  rw [hthere]

theorem ran_asking_ok {answer : StateM FileTree (Except SystemError α)} {a : α} (h : answer.run t = (.ok a, t')) :
    ran (asking answer) t = (.ok a, t') := by
  have hlift : ran (liftM answer) t = (.ok (.ok a), t') := by
    show (Except.ok (answer.run t).1, (answer.run t).2) = _
    rw [h]
  rw [asking, ran_bind_ok hlift]
  rfl

theorem ran_asking_error {answer : StateM FileTree (Except SystemError α)} {e : SystemError}
    (h : answer.run t = (.error e, t')) : ran (asking answer) t = (.error (.system e), t') := by
  have hlift : ran (liftM answer) t = (.ok (.error e), t') := by
    show (Except.ok (answer.run t).1, (answer.run t).2) = _
    rw [h]
  rw [asking, ran_bind_ok hlift]
  rfl

theorem run_read (path : String) (t : FileTree) : (disk.read path).run t = (t.read path, t) := rfl

/-- A change that the system makes or refuses. -/
def after (t : FileTree) : Except SystemError FileTree → Except SystemError Unit × FileTree
  | .ok t' => (.ok (), t')
  | .error e => (.error e, t)

theorem run_write (path content : String) (t : FileTree) :
    (disk.write path content).run t = after t (t.write path content) := by
  show (match t.write path content with | .ok t' => (Except.ok (), t') | .error e => (.error e, t)) = _
  cases t.write path content <;> rfl

theorem run_makeDirectory (path : String) (t : FileTree) :
    (disk.makeDirectory path).run t = after t (t.makeDirectory path) := by
  show (match t.makeDirectory path with | .ok t' => (Except.ok (), t') | .error e => (.error e, t)) = _
  cases t.makeDirectory path <;> rfl

theorem run_copy (source destination : String) (t : FileTree) :
    (disk.copy source destination).run t = after t (t.copy source destination) := by
  show (match t.copy source destination with | .ok t' => (Except.ok (), t') | .error e => (.error e, t)) = _
  cases t.copy source destination <;> rfl

end

/-! ## One module -/

/-- A file of the library in a directory. -/
def fileIn (directory : String) (m : Library.Module) : String := joinPath directory (m.file ++ ".js")

/-- Stage the file of one module. -/
def stageFile (t : FileTree) (runtime directory : String) (m : Library.Module) : Except Problem FileTree :=
  match t.find (fileIn runtime m), t.copy (fileIn runtime m) (fileIn directory m) with
  | .error _, _ => .error (.missingRuntime (fileIn runtime m))
  | .ok _, .error e => .error (.system e)
  | .ok _, .ok t' => .ok t'

/-- Stage the files of modules until one fails. -/
def stageAll (runtime directory : String) : FileTree → List Library.Module → Except Problem Unit × FileTree
  | t, [] => (.ok (), t)
  | t, m :: ms =>
    match stageFile t runtime directory m with
    | .ok t' => stageAll runtime directory t' ms
    | .error p => (.error p, t)

/-- Staging by the keys of modules is staging the modules. -/
theorem ran_stageFiles {lib : Library} {keys : List String} {ms : List Library.Module}
    (hms : keys.map lib.module? = ms.map some) (runtime directory : String) (t : FileTree) :
    ran (stageFiles disk lib runtime directory keys) t = stageAll runtime directory t ms := by
  induction keys generalizing ms t with
  | nil =>
    cases ms with
    | nil => rfl
    | cons m ms => cases hms
  | cons key keys ih =>
    cases ms with
    | nil => cases hms
    | cons m ms =>
      rw [List.map_cons, List.map_cons, List.cons.injEq] at hms
      rw [stageFiles, hms.1, stageAll, stageFile]
      simp only
      rw [ran_bind_ok (ran_isThere _ t)]
      cases hfind : t.find (fileIn runtime m) with
      | error e =>
        rw [show t.find (joinPath runtime (m.file ++ ".js")) = _ from hfind]
        rfl
      | ok found =>
        rw [show t.find (joinPath runtime (m.file ++ ".js")) = _ from hfind]
        have hcopied := run_copy (fileIn runtime m) (fileIn directory m) t
        cases hcopy : t.copy (fileIn runtime m) (fileIn directory m) with
        | error e =>
          rw [hcopy] at hcopied
          exact ran_bind_error (ran_asking_error hcopied) _
        | ok t' =>
          rw [hcopy] at hcopied
          exact (ran_bind_ok (ran_asking_ok hcopied) _).trans (ih hms.2 t')

/-- Where a module's file is staged. -/
def stagedAt (directory : Location) (m : Library.Module) : Location := directory ++ [m.file ++ ".js"]

/-- A module's file has been staged: it holds what the library's file held, or nothing if they are one file. -/
def Copied (t t' : FileTree) (runtime : String) (directory : Location) (m : Library.Module) : Prop :=
  ∃ src content, t.find (fileIn runtime m) = .ok (src, .file content) ∧
    t'.get? (stagedAt directory m) = some (.file (if src = stagedAt directory m then "" else content))

/-- Modules with names that stand for files, each for its own. -/
structure Apart (ms : List Library.Module) : Prop where
  plain : ∀ m ∈ ms, Plain (m.file ++ ".js")
  nodup : (ms.map (·.file ++ ".js")).Nodup

theorem Apart.tail {m : Library.Module} {ms : List Library.Module} (h : Apart (m :: ms)) : Apart ms :=
  ⟨fun m' hm' => h.plain m' (List.mem_cons_of_mem _ hm'), (List.nodup_cons.1 h.nodup).2⟩

section

variable {t t' : FileTree} {runtime path : String} {directory : Location} {m : Library.Module}

/-- Staging one module changes the one file that it is staged into. -/
theorem stageFile_eq_ok (hm : Plain (m.file ++ ".js")) (hpath : t.reach path = .ok directory)
    (h : stageFile t runtime path m = .ok t') :
    Copied t t' runtime directory m ∧ t.get? (stagedAt directory m) ≠ some .directory ∧
      ∀ loc, loc ≠ stagedAt directory m → t'.get? loc = t.get? loc := by
  unfold stageFile at h
  split at h
  · cases h
  · cases h
  · rename_i found t'' hfind hcopy
    cases h
    obtain ⟨src, content, dst, hsrc, hplace, hdst, hframe⟩ := FileTree.copy_eq_ok hcopy
    obtain ⟨l, hl, -, rfl, hfree⟩ := FileTree.place_joinPath hm hplace
    obtain rfl : directory = l := Except.ok.inj (hpath.symm.trans hl)
    exact ⟨⟨src, content, hsrc, hdst⟩, hfree, hframe⟩

/-- Both trees have the same directories. -/
theorem keeps_of_frame {dst : Location} {content : String} (hfree : t.get? dst ≠ some .directory)
    (hdst : t'.get? dst = some (.file content)) (hframe : ∀ loc, loc ≠ dst → t'.get? loc = t.get? loc) :
    t.Keeps t' ∧ t'.Keeps t := by
  constructor
  · intro loc hloc
    have hne : loc ≠ dst := by
      intro heq
      exact hfree (heq ▸ hloc)
    rw [hframe loc hne]
    exact hloc
  · intro loc hloc
    have hne : loc ≠ dst := by
      intro heq
      rw [heq, hdst] at hloc
      cases hloc
    rw [← hframe loc hne]
    exact hloc

/-- What was copied after another module was staged could be copied before. -/
theorem Copied.before {t₁ : FileTree} {m' : Library.Module} (h : Copied t₁ t' runtime directory m')
    (hm' : Plain (m'.file ++ ".js")) (hkeeps : t₁.Keeps t)
    (hframe : ∀ loc, loc ≠ stagedAt directory m → t₁.get? loc = t.get? loc)
    (hne : m.file ++ ".js" ≠ m'.file ++ ".js") : Copied t t' runtime directory m' := by
  obtain ⟨src, content, hfind, hdst⟩ := h
  obtain ⟨hfollow, hget⟩ := FileTree.find_eq_ok hfind
  obtain ⟨l, -, -, rfl⟩ := (FileTree.follow_joinPath hm').1 hfollow
  have hsrc : l ++ [m'.file ++ ".js"] ≠ stagedAt directory m := by
    intro heq
    obtain ⟨-, heq⟩ := List.append_inj' heq rfl
    exact hne (List.cons.inj heq).1.symm
  exact ⟨_, content, hkeeps.find hfind (by rw [← hframe _ hsrc, hget]), hdst⟩

/-- Staging copies the files of modules in their order, up to the first one that fails. -/
theorem stageAll_eq {ms : List Library.Module} (hms : Apart ms) (hpath : t.reach path = .ok directory)
    {result : Except Problem Unit} (h : stageAll runtime path t ms = (result, t')) :
    ∃ before rest, ms = before ++ rest ∧ (∀ m ∈ before, Copied t t' runtime directory m) ∧
      (∀ loc, (∀ m ∈ before, loc ≠ stagedAt directory m) → t'.get? loc = t.get? loc) ∧
      (result = .ok () ∧ rest = [] ∨
        ∃ m later p, result = .error p ∧ rest = m :: later ∧ stageFile t' runtime path m = .error p) := by
  -- The rest is staged from the tree that the first module leaves. What was copied from that tree could be copied from
  -- `t`, as no module's source is the file that another is staged into.
  induction ms generalizing t with
  | nil =>
    cases h
    exact ⟨[], [], rfl, by simp, fun _ _ => rfl, .inl ⟨rfl, rfl⟩⟩
  | cons m ms ih =>
    rw [stageAll] at h
    cases hstep : stageFile t runtime path m with
    | error p =>
      rw [hstep] at h
      cases h
      exact ⟨[], m :: ms, rfl, by simp, fun _ _ => rfl, .inr ⟨m, ms, p, rfl, rfl, hstep⟩⟩
    | ok t₁ =>
      rw [hstep] at h
      have hm := hms.plain m List.mem_cons_self
      obtain ⟨hcopied, hfree, hframe⟩ := stageFile_eq_ok hm hpath hstep
      obtain ⟨src, content, hfind, hdst⟩ := hcopied
      obtain ⟨hto, hfrom⟩ := keeps_of_frame hfree hdst hframe
      obtain ⟨before, rest, rfl, hbefore, hframe', hend⟩ := ih hms.tail (hto.reach hpath) h
      have hother : ∀ m' ∈ before, m.file ++ ".js" ≠ m'.file ++ ".js" := by
        intro m' hm' heq
        exact (List.nodup_cons.1 hms.nodup).1 (List.mem_map.2 ⟨m', List.mem_append_left _ hm', heq.symm⟩)
      refine ⟨m :: before, rest, rfl, ?_, ?_, hend⟩
      · intro m' hm'
        rcases List.mem_cons.1 hm' with rfl | hm'
        · -- its own file is not touched again
          refine ⟨src, content, hfind, ?_⟩
          rw [hframe' _ fun m' hm' heq => hother m' hm' (by simpa [stagedAt] using heq), hdst]
        · have hplain := hms.plain m' (List.mem_cons_of_mem _ (List.mem_append_left _ hm'))
          exact (hbefore m' hm').before hplain hfrom hframe (hother m' hm')
      · intro loc hloc
        rw [hframe' loc fun m' hm' => hloc m' (List.mem_cons_of_mem _ hm'), hframe loc (hloc m List.mem_cons_self)]

end

/-! ## Files and the modules directory -/

/-- The content of the file at a location. -/
def content? (t : FileTree) (loc : Location) : Option String :=
  match t.get? loc with
  | some (.file content) => some content
  | _ => none

theorem content?_congr {t t' : FileTree} {loc : Location} (h : t'.get? loc = t.get? loc) :
    content? t' loc = content? t loc := by
  rw [content?, content?, h]

theorem plain_directory : Plain Library.directory := ⟨by decide, by decide, by decide, by decide⟩

/-- Making a directory leaves all files as they are. -/
theorem makeDirectory_eq_ok {t t' : FileTree} {dir name : String} {loc : Location} (hname : Plain name)
    (hdir : t.reach dir = .ok loc) (h : t.makeDirectory (joinPath dir name) = .ok t') :
    t'.reach (joinPath dir name) = .ok (loc ++ [name]) ∧ ∀ l, content? t' l = content? t l := by
  unfold FileTree.makeDirectory at h
  cases hfollow : t.follow [] (components (joinPath dir name)) with
  | error e => simp [hfollow, bind, Except.bind] at h
  | ok l =>
    obtain ⟨loc', hloc', hdirectory, rfl⟩ := (FileTree.follow_joinPath hname).1 hfollow
    obtain rfl : loc = loc' := Except.ok.inj (hdir.symm.trans hloc')
    have hreach : t.reach (joinPath dir name) = .ok (loc ++ [name]) :=
      (FileTree.reach_joinPath hname).2 ⟨loc, hdir, hdirectory, rfl⟩
    simp only [hfollow, bind, Except.bind] at h
    split at h
    · cases h
      exact ⟨hreach, fun _ => rfl⟩
    · cases h
    · rename_i hnone
      cases h
      have hkeeps : t.Keeps (t.set (loc ++ [name]) .directory) := FileTree.Keeps.set (by simp [hnone]) _
      refine ⟨hkeeps.reach hreach, ?_⟩
      intro l
      by_cases hl : l = loc ++ [name]
      · rw [hl, content?, content?, FileTree.get?_set_self _ _ (by simp), hnone]
      · exact content?_congr (FileTree.get?_set_of_ne _ _ hl)

/-! ## The command -/

/-- Where a request's script goes. -/
def Request.target (r : Request) : String := r.output.getD (withExtension r.input "js")

section

variable {t : FileTree} {r : Request}

theorem ran_compile_unreadable {e : SystemError} (h : t.read r.input = .error e) :
    ∃ p, ran (compile disk r) t = (.error p, t) := by
  rw [compile, ran_bind_ok (ran_isThere _ t)]
  cases t.find r.input with
  | error e => exact ⟨_, rfl⟩
  | ok found =>
    have hread := ran_asking_error ((run_read r.input t).trans (by rw [h]))
    exact ⟨_, ran_bind_error hread _⟩

theorem ran_compile_read {text : String} (h : t.read r.input = .ok text) :
    ran (compile disk r) t =
      ran (match compileText text with
        | .error d => fails (.program d)
        | .ok compiled => do
          asking (disk.write r.target (compiled.source ++ "\n"))
          match r.runtime with
          | some runtime => stage disk .standard runtime r.target compiled.modules
          | none => pure ()
          return successLine r.input r.target) t := by
  have hfind : (t.find r.input).toBool = true := by
    unfold FileTree.read at h
    cases hfind : t.find r.input with
    | error e => simp [hfind, bind, Except.bind] at h
    | ok found => rfl
  rw [compile, ran_bind_ok (ran_isThere _ t), hfind]
  have hread := ran_asking_ok ((run_read r.input t).trans (by rw [h]))
  exact ran_bind_ok hread _

variable {text : String} {out : Lowering.Output}

/-- Staging, if a request asks for it. -/
def staging (r : Request) (modules : List String) : ExceptT Problem (StateM FileTree) Unit :=
  match r.runtime with
  | some runtime => stage disk .standard runtime r.target modules
  | none => pure ()

theorem ran_compile_unwritable {e : SystemError} (hread : t.read r.input = .ok text) (hout : compileText text = .ok out)
    (hwrite : t.write r.target (out.source ++ "\n") = .error e) : ran (compile disk r) t = (.error (.system e), t) := by
  rw [ran_compile_read hread, hout]
  have hwritten := ran_asking_error ((run_write r.target (out.source ++ "\n") t).trans (by rw [hwrite]; rfl))
  exact ran_bind_error hwritten _

variable {t₁ t' : FileTree}

theorem ran_compile_written (hread : t.read r.input = .ok text) (hout : compileText text = .ok out)
    (hwrite : t.write r.target (out.source ++ "\n") = .ok t₁) :
    ran (compile disk r) t = ran (staging r out.modules >>= fun _ => pure (successLine r.input r.target)) t₁ := by
  rw [ran_compile_read hread, hout]
  have hwritten := ran_asking_ok ((run_write r.target (out.source ++ "\n") t).trans (by rw [hwrite]; rfl))
  refine (ran_bind_ok hwritten _).trans ?_
  unfold staging
  cases r.runtime with
  | none => rfl
  | some runtime => rfl

/-- A command that gets to staging comes out as staging does. -/
theorem ran_compile_staged {result : Except Problem Unit} (hread : t.read r.input = .ok text)
    (hout : compileText text = .ok out) (hwrite : t.write r.target (out.source ++ "\n") = .ok t₁)
    (hstage : ran (staging r out.modules) t₁ = (result, t')) :
    ran (compile disk r) t = (result.map fun _ => successLine r.input r.target, t') := by
  rw [ran_compile_written hread hout hwrite]
  cases result with
  | ok _ => exact ran_bind_ok hstage _
  | error p => exact ran_bind_error hstage _

/-- Where the library's files are staged beside a script. -/
def modulesPath (output : String) : String := joinPath (parentPath output) Library.directory

theorem ran_stage {lib : Library} {keys : List String} {ms : List Library.Module} (hkeys : keys ≠ [])
    (hms : keys.map lib.module? = ms.map some) (runtime output : String) (t : FileTree) :
    ran (stage disk lib runtime output keys) t =
      match t.makeDirectory (modulesPath output) with
      | .error e => (.error (.system e), t)
      | .ok t' => stageAll runtime (modulesPath output) t' ms := by
  have hempty : keys.isEmpty = false := by simpa using hkeys
  unfold modulesPath
  have hmade := run_makeDirectory (joinPath (parentPath output) Library.directory) t
  rw [stage, hempty]
  cases hmake : t.makeDirectory (joinPath (parentPath output) Library.directory) with
  | error e =>
    rw [hmake] at hmade
    exact ran_bind_error (ran_asking_error hmade) _
  | ok t' =>
    rw [hmake] at hmade
    exact (ran_bind_ok (ran_asking_ok hmade) _).trans (ran_stageFiles hms _ _ t')

/-- The outcome of a command that came out with a result. -/
def outcomeOf : Except Problem String → Outcome
  | .ok line => { status := 0, out := line }
  | .error p => { status := 1, err := p.message ++ "\n" }

theorem run_compile {args : List String} (hargs : parseArgs args = some (.compile r)) {result : Except Problem String}
    (h : ran (compile disk r) t = (result, t')) : (run disk args).run t = (outcomeOf result, t') := by
  rw [run, hargs]
  show (perform disk (.compile r)).run t = _
  rw [perform, StateT.run_bind]
  rw [show (compile disk r).run.run t = (result, t') from h]
  cases result with
  | ok line => rfl
  | error p => rfl

end

/-! ## The standard library's files -/

theorem apart_standard {keys : List String} {ms : List Library.Module} (hkeys : keys.Nodup)
    (hms : keys.map Library.standard.module? = ms.map some) : Apart ms := by
  have hplain : ∀ e ∈ Library.standard.modules, '/' ∉ (e.2.file ++ ".js").toList ∧ e.2.file ++ ".js" ≠ "" ∧
      e.2.file ++ ".js" ≠ "." ∧ e.2.file ++ ".js" ≠ ".." := by decide
  have hinjective : ∀ e ∈ Library.standard.modules, ∀ e' ∈ Library.standard.modules,
      e.2.file ++ ".js" = e'.2.file ++ ".js" → e.1 = e'.1 := by decide
  constructor
  · intro m hm
    have hsome : some m ∈ keys.map Library.standard.module? := hms ▸ List.mem_map_of_mem hm
    obtain ⟨k, -, hk⟩ := List.mem_map.1 hsome
    obtain ⟨hslash, hempty, hdot, hdots⟩ := hplain (k, m) (Library.mem_of_lookup hk)
    exact ⟨hslash, hempty, hdot, hdots⟩
  · have hfiles : keys.map (fun k => (Library.standard.module? k).map (·.file ++ ".js")) =
        (ms.map (·.file ++ ".js")).map some := by
      have hmap := congrArg (List.map (Option.map (·.file ++ ".js"))) hms
      simpa [Function.comp_def] using hmap
    refine List.Nodup.of_map some ?_
    rw [← hfiles]
    refine List.Nodup.map_on ?_ hkeys
    intro k hk k' hk' heq
    have hknown : ∀ k ∈ keys, ∃ m, Library.standard.module? k = some m := by
      intro k hk
      have hsome : Library.standard.module? k ∈ ms.map some := hms ▸ List.mem_map_of_mem hk
      obtain ⟨m, -, hm⟩ := List.mem_map.1 hsome
      exact ⟨m, hm.symm⟩
    obtain ⟨m, hm⟩ := hknown k hk
    obtain ⟨m', hm'⟩ := hknown k' hk'
    simp only [hm, hm', Option.map_some, Option.some.injEq] at heq
    exact hinjective (k, m) (Library.mem_of_lookup hm) (k', m') (Library.mem_of_lookup hm') heq

/-- The modules that are reported for a text are in the standard library, each with a file of its own. -/
theorem modules_of_compileText {text : String} {out : Lowering.Output} (h : compileText text = .ok out) :
    ∃ ms, out.modules.map Library.standard.module? = ms.map some ∧ Apart ms := by
  obtain ⟨p, -, hp⟩ := Lowering.bind_eq_ok.1 h
  obtain ⟨-, hmodules, -⟩ := Lowering.compile_eq_ok (Lowering.mapError_eq_ok.1 hp)
  have hwhole : Library.standard.Whole := Library.whole_of_gap? (by decide)
  have hms := Library.map_module?_eq (fun k hk => hwhole.known hk : ∀ k ∈ Library.standard.needed p.gathered, _)
  rw [← hmodules] at hms
  have hnodup : out.modules.Nodup := hmodules ▸ Library.nodup_closure _ _
  exact ⟨_, hms, apart_standard hnodup hms⟩

/-! ## What changes -/

theorem write_eq_ok {t t' : FileTree} {path content : String} (h : t.write path content = .ok t') :
    ∃ loc, t.place path = .ok loc ∧ t' = t.set loc (.file content) := by
  obtain ⟨loc, hplace, h⟩ := Lowering.bind_eq_ok.1 h
  cases h
  exact ⟨loc, hplace, rfl⟩

/-- How staging leaves the files. It went through all modules or stopped at the first that could not be staged; the
files of those before it are copied, from `made` on, and those of the others are as they were in `old`. -/
def Staged (old made new : FileTree) (runtime path : String) (directory : Location)
    (ms : List Library.Module) (outcome : Outcome) : Prop :=
  ∃ before rest, ms = before ++ rest ∧
    (∀ m ∈ before, Copied made new runtime directory m) ∧
    (∀ m ∈ rest, content? new (stagedAt directory m) = content? old (stagedAt directory m)) ∧
    (outcome.status = 0 ↔ rest = []) ∧
    ∀ m later, rest = m :: later →
      ∃ p, stageFile new runtime path m = .error p ∧ outcome.err = p.message ++ "\n"

section

variable {r : Request} {keys : List String} {ms : List Library.Module} {t₁ t' : FileTree} {dir : Location}
  {result : Except Problem Unit}

theorem staging_nothing (h : r.runtime = none ∨ keys = []) : ran (staging r keys) t₁ = (.ok (), t₁) := by
  unfold staging
  rcases h with h | rfl
  · rw [h]
    rfl
  · cases r.runtime with
    | none => rfl
    | some runtime => rfl

theorem staging_some {runtime : String} (hruntime : r.runtime = some runtime) (hkeys : keys ≠ [])
    (hms : keys.map Library.standard.module? = ms.map some) :
    ran (staging r keys) t₁ =
      match t₁.makeDirectory (modulesPath r.target) with
      | .error e => (.error (.system e), t₁)
      | .ok t₂ => stageAll runtime (modulesPath r.target) t₂ ms := by
  unfold staging
  rw [hruntime]
  exact ran_stage hkeys hms runtime r.target t₁

/-- Staging changes only files that modules are staged into. -/
theorem staging_frame (hdir : t₁.reach (parentPath r.target) = .ok dir)
    (hms : keys.map Library.standard.module? = ms.map some) (hapart : Apart ms)
    (h : ran (staging r keys) t₁ = (result, t')) (loc : Location) :
    content? t' loc = content? t₁ loc ∨ ∃ m ∈ ms, loc = stagedAt (dir ++ [Library.directory]) m := by
  by_cases hnothing : r.runtime = none ∨ keys = []
  · rw [staging_nothing hnothing] at h
    cases h
    exact .inl rfl
  rw [not_or] at hnothing
  obtain ⟨runtime, hruntime⟩ := Option.ne_none_iff_exists'.1 hnothing.1
  rw [staging_some hruntime hnothing.2 hms] at h
  split at h
  · cases h
    exact .inl rfl
  · rename_i t₂ hmake
    obtain ⟨hreach, hcontent⟩ := makeDirectory_eq_ok plain_directory hdir hmake
    obtain ⟨before, rest, rfl, -, hframe, -⟩ := stageAll_eq hapart hreach h
    by_cases hloc : ∀ m ∈ before, loc ≠ stagedAt (dir ++ [Library.directory]) m
    · exact .inl ((content?_congr (hframe loc hloc)).trans (hcontent loc))
    · simp only [not_forall, Decidable.not_not] at hloc
      obtain ⟨m, hm, heq⟩ := hloc
      exact .inr ⟨m, List.mem_append_left _ hm, heq⟩

theorem staged_of_stageAll {t t₂ : FileTree} {runtime path line : String} {directory : Location} {outcome : Outcome}
    (hapart : Apart ms) (hpath : t₂.reach path = .ok directory)
    (hcontent : ∀ m, content? t₂ (stagedAt directory m) = content? t (stagedAt directory m))
    (h : stageAll runtime path t₂ ms = (result, t')) (houtcome : outcome = outcomeOf (result.map fun _ => line)) :
    Staged t t₂ t' runtime path directory ms outcome := by
  obtain ⟨before, rest, rfl, hcopied, hframe, hend⟩ := stageAll_eq hapart hpath h
  refine ⟨before, rest, rfl, hcopied, ?_, ?_, ?_⟩
  · intro m hm
    have hother : ∀ m' ∈ before, stagedAt directory m ≠ stagedAt directory m' := by
      intro m' hm' heq
      have hnodup := hapart.nodup
      rw [List.map_append, List.nodup_append] at hnodup
      have hfile : m'.file ++ ".js" = m.file ++ ".js" := by simpa [stagedAt] using heq.symm
      exact hnodup.2.2 _ (List.mem_map_of_mem hm') _ (List.mem_map_of_mem hm) hfile
    exact (content?_congr (hframe _ hother)).trans (hcontent m)
  · rcases hend with ⟨rfl, rfl⟩ | ⟨m, later, p, rfl, rfl, -⟩
    · rw [houtcome]
      exact ⟨fun _ => rfl, fun _ => rfl⟩
    · rw [houtcome]
      exact ⟨fun h => absurd h Nat.one_ne_zero, fun h => absurd h (List.cons_ne_nil _ _)⟩
  · intro m later hrest
    rcases hend with ⟨-, hnil⟩ | ⟨m', later', p, rfl, hcons, hfails⟩
    · rw [hnil] at hrest
      cases hrest
    · obtain ⟨rfl, rfl⟩ := List.cons.inj (hrest.symm.trans hcons)
      exact ⟨p, hfails, by rw [houtcome]; rfl⟩

end

/-- What a compile command may change. If the input cannot be read, its text does not compile or the output cannot be
written, the command fails and nothing changes. Otherwise only the output can be another file than before, and what
modules are staged into; nothing is staged without a runtime directory or without modules; and where staging fails at
a module, those before it have been copied and no other. -/
theorem compile_changes (t : FileTree) {args : List String} {r : Request} (hargs : parseArgs args = some (.compile r))
    {outcome : Outcome} {t' : FileTree} (hrun : (run disk args).run t = (outcome, t')) :
    (∀ e, t.read r.input = .error e → outcome.status ≠ 0 ∧ t' = t) ∧
    ∀ text, t.read r.input = .ok text →
      (∀ d, compileText text = .error d → outcome.status ≠ 0 ∧ t' = t) ∧
      ∀ out, compileText text = .ok out →
        (∀ e, t.write r.target (out.source ++ "\n") = .error e → outcome.status ≠ 0 ∧ t' = t) ∧
        ∀ t₁, t.write r.target (out.source ++ "\n") = .ok t₁ →
          ∃ dir name ms, t.place r.target = .ok (dir ++ [name]) ∧
            out.modules.map Library.standard.module? = ms.map some ∧
            (∀ loc, content? t' loc = content? t loc ∨ loc = dir ++ [name] ∨
              ∃ m ∈ ms, loc = stagedAt (dir ++ [Library.directory]) m) ∧
            (r.runtime = none ∨ out.modules = [] → outcome.status = 0 ∧ t' = t₁) ∧
            ∀ runtime, r.runtime = some runtime → out.modules ≠ [] →
              match t₁.makeDirectory (modulesPath r.target) with
              | .error _ => outcome.status ≠ 0 ∧ t' = t₁
              | .ok t₂ => Staged t t₂ t' runtime (modulesPath r.target) (dir ++ [Library.directory]) ms outcome := by
  have hends : ∀ {result t''}, ran (compile disk r) t = (result, t'') → outcome = outcomeOf result ∧ t' = t'' := by
    intro result t'' h
    have heq := hrun.symm.trans (run_compile hargs h)
    exact ⟨congrArg Prod.fst heq, congrArg Prod.snd heq⟩
  refine ⟨?_, fun text hread => ⟨?_, fun out hout => ⟨?_, fun t₁ hwrite => ?_⟩⟩⟩
  · intro e he
    obtain ⟨p, hp⟩ := ran_compile_unreadable he
    obtain ⟨rfl, rfl⟩ := hends hp
    exact ⟨Nat.one_ne_zero, rfl⟩
  · intro d hd
    have hran : ran (compile disk r) t = (.error (.program d), t) := by
      rw [ran_compile_read hread, hd]
      rfl
    obtain ⟨rfl, rfl⟩ := hends hran
    exact ⟨Nat.one_ne_zero, rfl⟩
  · intro e he
    obtain ⟨rfl, rfl⟩ := hends (ran_compile_unwritable hread hout he)
    exact ⟨Nat.one_ne_zero, rfl⟩
  obtain ⟨loc, hplace, rfl⟩ := write_eq_ok hwrite
  obtain ⟨dir, hdir, -, rfl, hfree⟩ := FileTree.place_eq_ok hplace
  obtain ⟨ms, hms, hapart⟩ := modules_of_compileText hout
  have hkeeps := FileTree.Keeps.set hfree (.file (out.source ++ "\n"))
  have hreach := hkeeps.reach hdir
  have hwritten : ∀ loc, loc ≠ dir ++ [lastComponent r.target] →
      content? (t.set (dir ++ [lastComponent r.target]) (.file (out.source ++ "\n"))) loc = content? t loc :=
    fun loc hloc => content?_congr (FileTree.get?_set_of_ne t _ hloc)
  -- Staging is about this tree whatever it is; that it holds the output at one place is all that is kept.
  generalize t.set (dir ++ [lastComponent r.target]) (.file (out.source ++ "\n")) = t₁ at hwrite hreach hwritten ⊢
  rcases hstaging : ran (staging r out.modules) t₁ with ⟨result, t''⟩
  obtain ⟨houtcome, rfl⟩ := hends (ran_compile_staged hread hout hwrite hstaging)
  refine ⟨dir, lastComponent r.target, ms, hplace, hms, ?_, ?_, ?_⟩
  · intro loc
    by_cases hloc : loc = dir ++ [lastComponent r.target]
    · exact .inr (.inl hloc)
    · rcases staging_frame hreach hms hapart hstaging loc with h | h
      · exact .inl (h.trans (hwritten loc hloc))
      · exact .inr (.inr h)
  · intro hnothing
    rw [staging_nothing hnothing] at hstaging
    cases hstaging
    exact ⟨by rw [houtcome]; rfl, rfl⟩
  · intro runtime hruntime hkeys
    rw [staging_some hruntime hkeys hms] at hstaging
    cases hmake : t₁.makeDirectory (modulesPath r.target) with
    | error e =>
      rw [hmake] at hstaging
      cases hstaging
      exact ⟨by rw [houtcome]; exact Nat.one_ne_zero, rfl⟩
    | ok t₂ =>
      rw [hmake] at hstaging
      obtain ⟨hmade, hcontent⟩ := makeDirectory_eq_ok plain_directory hreach hmake
      refine staged_of_stageAll hapart hmade ?_ hstaging houtcome
      intro m
      rw [hcontent, hwritten]
      simp [stagedAt]

/-- A program that names the printer. -/
def printing : String :=
  "\x7b\"body\":[\x7b\"type\":\"ExpressionStatement\",\"expr\":\x7b\"type\":\"Identifier\",\"name\":\"print\"\x7d\x7d]\x7d"

/-- A tree with that program and one of the library files that it needs. -/
def halfStocked : FileTree := FileTree.addFile (FileTree.addFile {} "a.json" printing) "rt/kernel.js" "k"

theorem compile_changes_halfStocked :
    ∃ out outcome t₁ t₂ t' ms,
      parseArgs ["compile", "a.json", "--runtime", "rt"] = some (.compile ⟨"a.json", none, some "rt"⟩) ∧
      (run disk ["compile", "a.json", "--runtime", "rt"]).run halfStocked = (outcome, t') ∧ outcome.status = 1 ∧
      compileText printing = .ok out ∧ out.modules = ["Kernel", "RangeLiteral"] ∧
      out.modules.map Library.standard.module? = ms.map some ∧
      halfStocked.write "a.js" (out.source ++ "\n") = .ok t₁ ∧ t₁.makeDirectory ".dazzl_modules" = .ok t₂ ∧
      (∀ loc, content? t' loc = content? halfStocked loc ∨ loc = ["a.js"] ∨
        ∃ m ∈ ms, loc = stagedAt [".dazzl_modules"] m) ∧
      Staged halfStocked t₂ t' "rt" ".dazzl_modules" [".dazzl_modules"] ms outcome := by
  have hargs : parseArgs ["compile", "a.json", "--runtime", "rt"] = some (.compile ⟨"a.json", none, some "rt"⟩) := by
    decide +kernel
  have hstatus : ((run disk ["compile", "a.json", "--runtime", "rt"]).run halfStocked).1.status = 1 := by
    decide +kernel
  have hcompiled : (compileText printing).toOption.map (·.modules) = some ["Kernel", "RangeLiteral"] := by
    decide +kernel
  obtain ⟨out, hout, hmodules⟩ := Option.map_eq_some_iff.1 hcompiled
  have hout : compileText printing = .ok out := by
    cases h : compileText printing with
    | ok out' =>
      rw [h] at hout
      exact congrArg Except.ok (Option.some.inj hout)
    | error d =>
      rw [h] at hout
      cases hout
  have hplace : halfStocked.place "a.js" = .ok ["a.js"] := rfl
  have hwrite : halfStocked.write "a.js" (out.source ++ "\n") =
      .ok (halfStocked.set ["a.js"] (.file (out.source ++ "\n"))) := rfl
  have hmake : (halfStocked.set ["a.js"] (.file (out.source ++ "\n"))).makeDirectory ".dazzl_modules" = .ok _ := rfl
  obtain ⟨-, hread⟩ := compile_changes halfStocked hargs rfl
  obtain ⟨-, hcompiles⟩ := hread printing rfl
  obtain ⟨-, hwritten⟩ := hcompiles out hout
  obtain ⟨dir, name, ms, hloc, hms, hframe, -, hstaged⟩ := hwritten _ hwrite
  have hsame : [] ++ ["a.js"] = dir ++ [name] := Except.ok.inj (hplace.symm.trans hloc)
  obtain ⟨rfl, hname⟩ := List.append_inj' hsame rfl
  cases hname
  have hstaged := hstaged "rt" rfl (by rw [hmodules]; exact List.cons_ne_nil _ _)
  have hdirectory : modulesPath (Request.mk "a.json" none (some "rt")).target = ".dazzl_modules" := by decide
  rw [hdirectory, hmake] at hstaged
  exact ⟨out, _, _, _, _, ms, hargs, rfl, hstatus, hout, hmodules, hms, hwrite, hmake, hframe, hstaged⟩

end TreeScript.Command
