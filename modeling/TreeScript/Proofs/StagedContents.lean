/-
  TreeScript.Proofs.StagedContents — what the files hold that a compile command leaves.

  A command that succeeds has gone through all of it (`compile_succeeds`): it wrote the
  script, made the modules directory and copied every module's file. The copies are made
  from the tree that it has changed by then (`find_changed`). So a module's file is staged
  as it was before the command unless it is where the script goes, or is copied onto itself
  (`copied_faithful_iff`). The script stays as written: a modules directory is a level
  deeper than the script beside it.
-/

import TreeScript.Proofs.Staging

namespace TreeScript.Command

open FileTree (disk)

/-! ## Reading at the end of a path -/

namespace FileTree

variable {t t' : FileTree} {path content : String} {loc : Location}

/-- A path that a file can be written under ends in a name. -/
theorem stepTo_of_place (h : t.place path = .ok loc) :
    path.isEmpty = false ∧ lastComponent path ≠ "" ∧
      ∀ dir, stepTo dir (lastComponent path) = dir ++ [lastComponent path] := by
  unfold place at h
  split at h
  · cases h
  · rename_i hempty
    obtain ⟨dir, -, h⟩ := Lowering.bind_eq_ok.1 h
    simp only at h
    split at h
    · cases h
    · rename_i hname
      simp only [ne_eq, Bool.or_eq_true, decide_eq_true_eq, not_or, Decidable.not_not] at hname
      obtain ⟨⟨⟨hbare, hnone⟩, hdot⟩, hdots⟩ := hname
      rw [hbare] at hnone hdot hdots
      exact ⟨by simpa using hempty, hnone, fun dir => by simp [stepTo, hnone, hdot, hdots]⟩

/-- A path leads to the place that it names for a file. -/
theorem follow_of_place (h : t.place path = .ok loc) : t.follow [] (components path) = .ok loc := by
  obtain ⟨-, hnone, hstep⟩ := stepTo_of_place h
  obtain ⟨dir, hdir, hdirectory, rfl, -⟩ := place_eq_ok h
  rw [reach_parentPath] at hdir
  have hlast : components path = (components path).dropLast ++ [lastComponent path] := by
    rcases List.eq_nil_or_concat (components path) with hnil | ⟨cs, c, hcs⟩
    · simp [lastComponent, hnil] at hnone
    · simp [lastComponent, hcs]
  rw [hlast, follow_concat]
  exact ⟨dir, hdir, hdirectory, (hstep dir).symm⟩

theorem find_eq_ok_iff {e : Entry} :
    t.find path = .ok (loc, e) ↔
      path.isEmpty = false ∧ t.follow [] (components path) = .ok loc ∧ t.get? loc = some e := by
  constructor
  · intro h
    refine ⟨?_, find_eq_ok h⟩
    unfold find at h
    split at h
    · cases h
    · rename_i hempty
      simpa using hempty
  · rintro ⟨hpath, hfollow, he⟩
    simp [find, hpath, hfollow, he, bind, Except.bind, pure, Except.pure]

theorem read_of_find (h : t.find path = .ok (loc, .file content)) : t.read path = .ok content :=
  Lowering.bind_eq_ok.2 ⟨_, h, rfl⟩

theorem read_eq_ok (h : t.read path = .ok content) : ∃ loc, t.find path = .ok (loc, .file content) := by
  obtain ⟨⟨loc, e⟩, hfind, h⟩ := Lowering.bind_eq_ok.1 h
  cases e with
  | file content' =>
    cases h
    exact ⟨loc, hfind⟩
  | directory => cases h

theorem Keeps.refl (t : FileTree) : t.Keeps t := fun _ h => h

theorem Keeps.trans {t₁ t₂ t₃ : FileTree} (h : t₁.Keeps t₂) (h' : t₂.Keeps t₃) : t₁.Keeps t₃ :=
  fun loc hloc => h' loc (h loc hloc)

/-- Making a directory leads to one, and leaves those that were there. -/
theorem makeDirectory_leads (h : t.makeDirectory path = .ok t') :
    t.Keeps t' ∧ ∃ loc, t'.follow [] (components path) = .ok loc ∧ t'.get? loc = some .directory := by
  obtain ⟨loc, hfollow, h⟩ := Lowering.bind_eq_ok.1 h
  split at h
  · rename_i hdirectory
    cases h
    exact ⟨.refl t, loc, hfollow, hdirectory⟩
  · cases h
  · rename_i hnone
    cases h
    have hkeeps : t.Keeps (t.set loc .directory) := .set (by simp [hnone]) _
    have hloc : loc ≠ [] := by
      rintro rfl
      simp at hnone
    exact ⟨hkeeps, loc, hkeeps.follow hfollow, get?_set_self t _ hloc⟩

end FileTree

/-! ## Directories through a command -/

section

variable {t t' : FileTree} {runtime path : String} {m : Library.Module}

theorem keeps_stageFile (h : stageFile t runtime path m = .ok t') : t.Keeps t' := by
  unfold stageFile at h
  split at h
  · cases h
  · cases h
  · rename_i hcopy
    cases h
    obtain ⟨src, content, dst, -, hplace, hdst, hframe⟩ := FileTree.copy_eq_ok hcopy
    obtain ⟨-, -, -, -, hfree⟩ := FileTree.place_eq_ok hplace
    exact (keeps_of_frame hfree hdst hframe).1

theorem keeps_stageAll {ms : List Library.Module} {result : Except Problem Unit}
    (h : stageAll runtime path t ms = (result, t')) : t.Keeps t' := by
  induction ms generalizing t with
  | nil =>
    cases h
    exact FileTree.Keeps.refl _
  | cons m ms ih =>
    rw [stageAll] at h
    cases hstep : stageFile t runtime path m with
    | error p =>
      rw [hstep] at h
      cases h
      exact FileTree.Keeps.refl _
    | ok t₁ =>
      rw [hstep] at h
      exact (keeps_stageFile hstep).trans (ih h)

end

/-! ## A command that succeeds -/

section

variable {t t₁ t' : FileTree} {r : Request}

theorem compile_succeeds {args : List String} {outcome : Outcome} (hargs : parseArgs args = some (.compile r))
    (hrun : (run disk args).run t = (outcome, t')) (hstatus : outcome.status = 0) :
    ∃ text out t₁, t.read r.input = .ok text ∧ compileText text = .ok out ∧
      t.write r.target (out.source ++ "\n") = .ok t₁ ∧ ran (staging r out.modules) t₁ = (.ok (), t') := by
  have hfails : ∀ {p : Problem} {t''}, ran (compile disk r) t ≠ (.error p, t'') := by
    intro p t'' h
    obtain ⟨rfl, -⟩ := Prod.mk.inj (hrun.symm.trans (run_compile hargs h))
    exact absurd hstatus Nat.one_ne_zero
  cases hread : t.read r.input with
  | error e =>
    obtain ⟨p, hp⟩ := ran_compile_unreadable hread
    exact absurd hp hfails
  | ok text =>
    cases hout : compileText text with
    | error d =>
      refine absurd (?_ : ran (compile disk r) t = (.error (.program d), t)) hfails
      rw [ran_compile_read hread, hout]
      rfl
    | ok out =>
      cases hwrite : t.write r.target (out.source ++ "\n") with
      | error e => exact absurd (ran_compile_unwritable hread hout hwrite) hfails
      | ok t₁ =>
        rcases hstaging : ran (staging r out.modules) t₁ with ⟨result, t''⟩
        have hran := ran_compile_staged hread hout hwrite hstaging
        cases result with
        | error p => exact absurd hran hfails
        | ok _ =>
          obtain ⟨-, rfl⟩ := Prod.mk.inj (hrun.symm.trans (run_compile hargs hran))
          exact ⟨text, out, t₁, rfl, hout, hwrite, hstaging⟩

variable {keys : List String} {ms : List Library.Module} {runtime : String} {dir : Location}

/-- Staging that succeeds copies every module's file. -/
theorem staging_succeeds (hruntime : r.runtime = some runtime) (hdir : t₁.reach (parentPath r.target) = .ok dir)
    (hms : keys.map Library.standard.module? = ms.map some) (hapart : Apart ms)
    (h : ran (staging r keys) t₁ = (.ok (), t')) :
    t₁.Keeps t' ∧ ∀ m ∈ ms, ∃ t₂, t₁.Keeps t₂ ∧ (∀ loc, content? t₂ loc = content? t₁ loc) ∧
      Copied t₂ t' runtime (dir ++ [Library.directory]) m ∧
      t'.reach (modulesPath r.target) = .ok (dir ++ [Library.directory]) ∧
      t'.get? (dir ++ [Library.directory]) = some .directory := by
  by_cases hkeys : keys = []
  · rw [staging_nothing (.inr hkeys)] at h
    cases h
    refine ⟨FileTree.Keeps.refl t₁, fun m hm => ?_⟩
    rw [hkeys] at hms
    rw [List.map_eq_nil_iff.1 hms.symm] at hm
    cases hm
  rw [staging_some hruntime hkeys hms] at h
  split at h
  · cases h
  · rename_i t₂ hmake
    obtain ⟨hkeeps, loc, hfollow, hdirectory⟩ := FileTree.makeDirectory_leads hmake
    have hkeeps' := keeps_stageAll h
    obtain ⟨hreach, hcontent⟩ := makeDirectory_eq_ok plain_directory hdir hmake
    obtain rfl : dir ++ [Library.directory] = loc := by
      rw [modulesPath, FileTree.follow_joinPath plain_directory, ← FileTree.reach_joinPath plain_directory] at hfollow
      exact Except.ok.inj (hreach.symm.trans hfollow)
    obtain ⟨before, rest, rfl, hcopied, -, hend⟩ := stageAll_eq hapart hreach h
    rcases hend with ⟨-, rfl⟩ | ⟨m, later, p, hp, -⟩
    · refine ⟨hkeeps.trans hkeeps', fun m hm => ?_⟩
      rw [List.append_nil] at hm
      exact ⟨t₂, hkeeps, hcontent, hcopied m hm, hkeeps'.reach hreach, hkeeps' _ hdirectory⟩
    · cases hp

end

/-! ## The copies -/

theorem content?_eq_some {t : FileTree} {loc : Location} {content : String} :
    content? t loc = some content ↔ t.get? loc = some (.file content) := by
  unfold content?
  split
  · rename_i heq
    simp [heq]
  · rename_i hno
    simp only [reduceCtorEq, false_iff]
    exact hno content

section

variable {t t₂ t' : FileTree} {script runtime path : String} {out directory : Location} {m : Library.Module}

/-- A file that was there before the script is found where it was, unless the script is there. -/
theorem find_changed {source content : String} {src : Location} (hkeeps : t.Keeps t₂)
    (hchanged : ∀ loc, content? t₂ loc = if loc = out then some script else content? t loc)
    (hfind : t.find source = .ok (src, .file content)) :
    t₂.find source = .ok (src, .file (if src = out then script else content)) := by
  obtain ⟨hpath, hfollow, hget⟩ := FileTree.find_eq_ok_iff.1 hfind
  refine FileTree.find_eq_ok_iff.2 ⟨hpath, hkeeps.follow hfollow, ?_⟩
  rw [← content?_eq_some, hchanged]
  split
  · rfl
  · exact content?_eq_some.2 hget

/-- A module's file is staged as it was before, but for one that is staged into itself and one that the script has
replaced. Those are staged as they were if they were empty, or the script already. -/
theorem copied_faithful_iff (hm : Plain (m.file ++ ".js")) (hkeeps : t.Keeps t₂)
    (hchanged : ∀ loc, content? t₂ loc = if loc = out then some script else content? t loc)
    (hcopied : Copied t₂ t' runtime directory m) (hreach : t'.reach path = .ok directory)
    (hdirectory : t'.get? directory = some .directory) (hout : out ≠ stagedAt directory m) :
    (∃ content, t.read (fileIn runtime m) = .ok content ∧ t'.read (fileIn path m) = .ok content) ↔
      ∃ src content, t.find (fileIn runtime m) = .ok (src, .file content) ∧
        (src = stagedAt directory m → content = "") ∧ (src = out → content = script) := by
  obtain ⟨src', content', hfind', hstaged⟩ := hcopied
  have hfound : t'.find (fileIn path m) =
      .ok (stagedAt directory m, .file (if src' = stagedAt directory m then "" else content')) :=
    FileTree.find_eq_ok_iff.2 ⟨FileTree.isEmpty_joinPath path hm,
      (FileTree.follow_joinPath hm).2 ⟨directory, hreach, hdirectory, rfl⟩, hstaged⟩
  -- what is staged is what the source has become, so the cases are those of where the source is
  have hholds : ∀ src content, t.find (fileIn runtime m) = .ok (src, .file content) →
      (t'.read (fileIn path m) = .ok content ↔
        (src = stagedAt directory m → content = "") ∧ (src = out → content = script)) := by
    intro src content hfind
    obtain ⟨rfl, hcontent⟩ := Prod.mk.inj (Except.ok.inj (hfind'.symm.trans (find_changed hkeeps hchanged hfind)))
    cases hcontent
    rw [FileTree.read_of_find hfound]
    by_cases hself : src' = stagedAt directory m
    · simp [hself, hout.symm, eq_comm]
    · by_cases hscript : src' = out
      · simp [hscript, hout, eq_comm]
      · simp [hself, hscript]
  constructor
  · rintro ⟨content, hread, hread'⟩
    obtain ⟨src, hfind⟩ := FileTree.read_eq_ok hread
    exact ⟨src, content, hfind, (hholds src content hfind).1 hread'⟩
  · rintro ⟨src, content, hfind, hcases⟩
    exact ⟨content, FileTree.read_of_find hfind, (hholds src content hfind).2 hcases⟩

end

/-- What a compile command with a runtime directory leaves if it succeeds. The output holds the script and one line
feed. Every module's file is staged as it was in the runtime directory before, if and only if it was there as a file,
is not the file that it is staged into unless it was empty, and is not the output unless it held the script already. -/
theorem staging_faithful_iff (t : FileTree) {args : List String} {r : Request} {runtime : String}
    (hargs : parseArgs args = some (.compile r)) (hruntime : r.runtime = some runtime) {outcome : Outcome}
    {t' : FileTree} (hrun : (run disk args).run t = (outcome, t')) (hstatus : outcome.status = 0) :
    ∃ (text : String) (compiled : Lowering.Output) (dir : Location) (name : String) (ms : List Library.Module),
      t.read r.input = .ok text ∧ compileText text = .ok compiled ∧
      t.place r.target = .ok (dir ++ [name]) ∧ compiled.modules.map Library.standard.module? = ms.map some ∧
      t'.read r.target = .ok (compiled.source ++ "\n") ∧
      ∀ m ∈ ms,
        ((∃ content, t.read (fileIn runtime m) = .ok content ∧
            t'.read (fileIn (modulesPath r.target) m) = .ok content) ↔
          ∃ src content, t.find (fileIn runtime m) = .ok (src, .file content) ∧
            (src = stagedAt (dir ++ [Library.directory]) m → content = "") ∧
            (src = dir ++ [name] → content = compiled.source ++ "\n")) := by
  obtain ⟨text, compiled, t₁, hread, hcompiled, hwrite, hstaging⟩ := compile_succeeds hargs hrun hstatus
  obtain ⟨loc, hplace, rfl⟩ := write_eq_ok hwrite
  have hfollow := FileTree.follow_of_place hplace
  have hpath := (FileTree.stepTo_of_place hplace).1
  obtain ⟨dir, hdir, -, rfl, hfree⟩ := FileTree.place_eq_ok hplace
  obtain ⟨ms, hms, hapart⟩ := modules_of_compileText hcompiled
  have hkeeps := FileTree.Keeps.set hfree (.file (compiled.source ++ "\n"))
  obtain ⟨hkeeps', hcopies⟩ := staging_succeeds hruntime (hkeeps.reach hdir) hms hapart hstaging
  have hwritten : ∀ loc, content? (t.set (dir ++ [lastComponent r.target]) (.file (compiled.source ++ "\n"))) loc =
      if loc = dir ++ [lastComponent r.target] then some (compiled.source ++ "\n") else content? t loc := by
    intro loc
    split
    · rename_i heq
      rw [heq, content?_eq_some]
      exact FileTree.get?_set_self t _ (by simp)
    · rename_i hne
      exact content?_congr (FileTree.get?_set_of_ne t _ hne)
  refine ⟨text, compiled, dir, lastComponent r.target, ms, hread, hcompiled, hplace, hms, ?_, ?_⟩
  · have hsame : content? t' (dir ++ [lastComponent r.target]) = some (compiled.source ++ "\n") := by
      rcases staging_frame (hkeeps.reach hdir) hms hapart hstaging (dir ++ [lastComponent r.target]) with h | ⟨m, -, h⟩
      · rw [h, hwritten, if_pos rfl]
      · simp [stagedAt] at h
    have hfollow' := (hkeeps.trans hkeeps').follow hfollow
    exact FileTree.read_of_find (FileTree.find_eq_ok_iff.2 ⟨hpath, hfollow', content?_eq_some.1 hsame⟩)
  · intro m hm
    obtain ⟨t₂, hkeeps₂, hcontent, hcopied, hreach, hdirectory⟩ := hcopies m hm
    exact copied_faithful_iff (hapart.plain m hm) (hkeeps.trans hkeeps₂)
      (fun loc => (hcontent loc).trans (hwritten loc)) hcopied hreach hdirectory (by simp [stagedAt])

/-- A tree with a program that needs two modules, and their files in a directory. -/
def stockedAt (directory : String) : FileTree :=
  FileTree.addFile (FileTree.addFile (FileTree.addFile {} "a.json" printing) (directory ++ "/kernel.js") "kernel code")
    (directory ++ "/range.js") "range code"

theorem modules_printing : (compileText printing).toOption.map (·.modules) = some ["Kernel", "RangeLiteral"] := by
  decide +kernel

theorem staging_faithful_iff_stocked :
    ∃ (outcome : Outcome) (t' : FileTree) (compiled : Lowering.Output) (ms : List Library.Module),
      parseArgs ["compile", "a.json", "--runtime", "rt"] = some (.compile ⟨"a.json", none, some "rt"⟩) ∧
      (run disk ["compile", "a.json", "--runtime", "rt"]).run (stockedAt "rt") = (outcome, t') ∧ outcome.status = 0 ∧
      compileText printing = .ok compiled ∧ compiled.modules = ["Kernel", "RangeLiteral"] ∧
      compiled.modules.map Library.standard.module? = ms.map some ∧
      t'.read "a.js" = .ok (compiled.source ++ "\n") ∧
      ∀ m ∈ ms, ∃ content, (stockedAt "rt").read (fileIn "rt" m) = .ok content ∧
        t'.read (fileIn ".dazzl_modules" m) = .ok content := by
  have hargs : parseArgs ["compile", "a.json", "--runtime", "rt"] = some (.compile ⟨"a.json", none, some "rt"⟩) := by
    decide +kernel
  have hstatus : ((run disk ["compile", "a.json", "--runtime", "rt"]).run (stockedAt "rt")).1.status = 0 := by
    decide +kernel
  rcases hrun : (run disk ["compile", "a.json", "--runtime", "rt"]).run (stockedAt "rt") with ⟨outcome, t'⟩
  rw [hrun] at hstatus
  have hfound : ∀ m ∈ ["Kernel", "RangeLiteral"].filterMap Library.standard.module?,
      ((stockedAt "rt").find (fileIn "rt" m)).toOption =
        some (["rt", m.file ++ ".js"], .file (m.file ++ " code")) := by
    decide +kernel
  obtain ⟨text, compiled, dir, name, ms, hread, hcompiled, hplace, hms, houtput, hfiles⟩ :=
    staging_faithful_iff (stockedAt "rt") hargs rfl hrun hstatus
  obtain rfl : printing = text := Except.ok.inj hread
  have hmodules : compiled.modules = ["Kernel", "RangeLiteral"] := by
    have hprinting := modules_printing
    rw [hcompiled] at hprinting
    exact Option.some.inj hprinting
  have hms' : ms = ["Kernel", "RangeLiteral"].filterMap Library.standard.module? := by
    have hmap := congrArg (List.filterMap id) hms
    simpa [hmodules] using hmap.symm
  have hdirectory : modulesPath (Request.mk "a.json" none (some "rt")).target = ".dazzl_modules" := by decide
  rw [hdirectory] at hfiles
  have hdir : [] ++ ["a.js"] = dir ++ [name] := Except.ok.inj hplace
  obtain ⟨rfl, hname⟩ := List.append_inj' hdir rfl
  refine ⟨outcome, t', compiled, ms, hargs, rfl, hstatus, hcompiled, hmodules, hms, houtput, fun m hm => ?_⟩
  refine (hfiles m hm).2 ⟨_, _, Lowering.toOption_eq_some.1 (hfound m (hms' ▸ hm)), ?_, ?_⟩
  · intro h
    have hrt : "rt" = Library.directory := (List.cons.inj h).1
    exact absurd hrt (by decide)
  · intro h
    simp at h

/-- A runtime directory that is the modules directory is emptied. -/
theorem staging_empties_the_runtime :
    ∃ outcome t', (run disk ["compile", "a.json", "--runtime", ".dazzl_modules"]).run (stockedAt ".dazzl_modules") =
        (outcome, t') ∧ outcome.status = 0 ∧
      (compileText printing).toOption.map (·.modules) = some ["Kernel", "RangeLiteral"] ∧
      (Library.standard.module? "Kernel").map (·.file) = some "kernel" ∧
      (stockedAt ".dazzl_modules").read ".dazzl_modules/kernel.js" = .ok "kernel code" ∧
      t'.read ".dazzl_modules/kernel.js" = .ok "" := by
  have hends : (fun e => (e.1.status, (e.2.read ".dazzl_modules/kernel.js").toOption))
      ((run disk ["compile", "a.json", "--runtime", ".dazzl_modules"]).run (stockedAt ".dazzl_modules")) =
        (0, some "") := by decide +kernel
  rcases hrun : (run disk ["compile", "a.json", "--runtime", ".dazzl_modules"]).run (stockedAt ".dazzl_modules") with
    ⟨outcome, t'⟩
  rw [hrun] at hends
  obtain ⟨hstatus, hemptied⟩ := Prod.mk.inj hends
  refine ⟨outcome, t', rfl, hstatus, modules_printing, by decide, ?_, Lowering.toOption_eq_some.1 hemptied⟩
  exact Lowering.toOption_eq_some.1 (by decide +kernel)

end TreeScript.Command
