/-
  TreeScript.Proofs.Paths — where paths lead.

  A path that was put together leads to where its parts lead: `joinPath dir name` to `name`
  in the directory that `dir` leads to (`follow_joinPath`), and the path before the last
  slash to the directory that a file is written into (`place_eq_ok`). Two paths that are
  spelled differently, by a doubled slash or a dot, are compared here by where they lead.

  Following a path only asks for directories, so it leads to the same place in every tree
  that has at least those (`Keeps.follow`).
-/

import TreeScript.Command.FileTree

namespace TreeScript.Command

/-! ## Components -/

theorem slash_notMem {path c : String} (h : c ∈ components path) : '/' ∉ c.toList := by
  obtain ⟨p, hp, rfl⟩ := List.mem_map.1 h
  rw [String.toList_ofList]
  exact Text.not_mem_of_mem_cut hp

theorem components_intercalate {cs : List String} (hne : cs ≠ []) (h : ∀ c ∈ cs, '/' ∉ c.toList) :
    components (String.intercalate "/" cs) = cs := by
  have hcut : Text.cut '/' (List.intercalate ['/'] (cs.map String.toList)) = cs.map String.toList := by
    apply Text.cut_intercalate
    · simpa using hne
    · intro p hp
      obtain ⟨c, hc, rfl⟩ := List.mem_map.1 hp
      exact h c hc
  have hslash : "/".toList = ['/'] := rfl
  rw [components, String.toList_intercalate, hslash, hcut]
  simp [Function.comp_def]

theorem components_append_slash (path rest : String) :
    components (path ++ "/" ++ rest) = components path ++ components rest := by
  have hchars : (path ++ "/" ++ rest).toList = path.toList ++ '/' :: rest.toList := by simp
  rw [components, hchars, Text.cut_append_mark, List.map_append]
  rfl

/-- A name that stands for itself in a path. -/
structure Plain (name : String) : Prop where
  slash : '/' ∉ name.toList
  empty : name ≠ ""
  dot : name ≠ "."
  dots : name ≠ ".."

theorem Plain.components_eq {name : String} (h : Plain name) : components name = [name] := by
  rw [components, Text.cut_of_notMem h.slash]
  simp

theorem Plain.stepTo_eq {name : String} (h : Plain name) (loc : Location) : FileTree.stepTo loc name = loc ++ [name] := by
  simp [FileTree.stepTo, h.empty, h.dot, h.dots]

/-- The components in front of a name that is put into a directory. -/
def base (dir : String) : List String :=
  if dir.isEmpty then [] else if dir.toList.getLast? = some '/' then (components dir).dropLast else components dir

theorem components_of_ends {dir : String} (h : dir.toList.getLast? = some '/') :
    ∃ front, dir = front ++ "/" ∧ components dir = components front ++ [""] := by
  obtain ⟨front, hfront⟩ := List.getLast?_eq_some_iff.1 h
  have hdir : dir = String.ofList front ++ "/" := by
    apply String.toList_inj.1
    simp [hfront]
  refine ⟨String.ofList front, hdir, ?_⟩
  have hempty : dir = String.ofList front ++ "/" ++ "" := by simpa using hdir
  rw [hempty, components_append_slash]
  rfl

theorem components_joinPath (dir : String) {name : String} (h : Plain name) :
    components (joinPath dir name) = base dir ++ [name] := by
  unfold joinPath base
  by_cases hempty : dir.isEmpty = true
  · simp [hempty, h.components_eq]
  · rw [if_neg hempty, if_neg hempty]
    by_cases hends : dir.toList.getLast? = some '/'
    · obtain ⟨front, hdir, hcomponents⟩ := components_of_ends hends
      rw [if_pos hends, if_pos hends, hcomponents, List.dropLast_concat, hdir, components_append_slash, h.components_eq]
    · rw [if_neg hends, if_neg hends, components_append_slash, h.components_eq]

namespace FileTree

/-! ## Directories on the way -/

theorem follow_append (t : FileTree) (loc : Location) (cs ds : List String) :
    t.follow loc (cs ++ ds) = t.follow loc cs >>= fun l => t.follow l ds := by
  induction cs generalizing loc with
  | nil => rfl
  | cons c cs ih =>
    rw [List.cons_append, follow, follow]
    split
    · rfl
    · rfl
    · exact ih _

theorem follow_singleton {t : FileTree} {loc l : Location} {c : String} :
    t.follow loc [c] = .ok l ↔ t.get? loc = some .directory ∧ l = stepTo loc c := by
  rw [follow]
  split
  · simp_all
  · simp_all
  · rename_i h
    simp [h, follow, eq_comm]

theorem follow_concat {t : FileTree} {loc l : Location} {cs : List String} {c : String} :
    t.follow loc (cs ++ [c]) = .ok l ↔
      ∃ dir, t.follow loc cs = .ok dir ∧ t.get? dir = some .directory ∧ l = stepTo dir c := by
  rw [follow_append]
  cases t.follow loc cs with
  | error e => simp [bind, Except.bind]
  | ok dir =>
    have hsingle : t.follow dir [c] = .ok l ↔ t.get? dir = some .directory ∧ l = stepTo dir c := follow_singleton
    simp [bind, Except.bind, hsingle]

/-- Where a path leads that may be empty: the empty one stays at the root. -/
def reach (t : FileTree) (path : String) : Except SystemError Location :=
  if path.isEmpty then .ok [] else t.follow [] (components path)

theorem follow_base {t : FileTree} {dir c : String} {l : Location} :
    t.follow [] (base dir ++ [c]) = .ok l ↔
      ∃ loc, t.reach dir = .ok loc ∧ t.get? loc = some .directory ∧ l = stepTo loc c := by
  rw [follow_concat]
  unfold base reach
  by_cases hempty : dir.isEmpty = true
  · simp [hempty, follow]
  · rw [if_neg hempty, if_neg hempty]
    by_cases hends : dir.toList.getLast? = some '/'
    · obtain ⟨front, -, hcomponents⟩ := components_of_ends hends
      rw [if_pos hends, hcomponents, List.dropLast_concat]
      have hfront : ∀ loc, t.follow [] (components front ++ [""]) = .ok loc ↔
          t.follow [] (components front) = .ok loc ∧ t.get? loc = some .directory := by
        intro loc
        rw [follow_concat]
        constructor
        · intro h
          obtain ⟨dir, hdir, hd, rfl⟩ := h
          exact ⟨hdir, hd⟩
        · intro h
          exact ⟨loc, h.1, h.2, rfl⟩
      constructor
      · intro h
        obtain ⟨loc, hloc, hd, hl⟩ := h
        exact ⟨loc, (hfront loc).2 ⟨hloc, hd⟩, hd, hl⟩
      · intro h
        obtain ⟨loc, hloc, hd, hl⟩ := h
        exact ⟨loc, ((hfront loc).1 hloc).1, hd, hl⟩
    · rw [if_neg hends]

/-- A name in a directory leads to the location of that name there. -/
theorem follow_joinPath {t : FileTree} {dir name : String} {l : Location} (h : Plain name) :
    t.follow [] (components (joinPath dir name)) = .ok l ↔
      ∃ loc, t.reach dir = .ok loc ∧ t.get? loc = some .directory ∧ l = loc ++ [name] := by
  rw [components_joinPath dir h, follow_base]
  simp only [h.stepTo_eq]

/-- The path before the last slash leads to where the components before the last one lead. -/
theorem reach_parentPath (t : FileTree) (path : String) :
    t.reach (parentPath path) = t.follow [] (components path).dropLast := by
  simp only [parentPath]
  generalize hdirs : (components path).dropLast = dirs
  have hslash : ∀ c ∈ dirs, '/' ∉ c.toList := fun c hc => slash_notMem (List.dropLast_subset _ (hdirs ▸ hc))
  rcases dirs with _ | ⟨first, rest⟩
  · rfl
  · by_cases hroot : first :: rest = [""]
    · -- the root, which `parentPath` spells with a slash
      simp only [hroot, if_true]
      rfl
    · rw [if_neg hroot]
      have hcomponents : components (String.intercalate "/" (first :: rest)) = first :: rest :=
        components_intercalate (List.cons_ne_nil _ _) hslash
      have hne : (String.intercalate "/" (first :: rest)).isEmpty = false := by
        rw [Bool.eq_false_iff]
        intro hempty
        rw [String.isEmpty_iff] at hempty
        rw [hempty] at hcomponents
        exact hroot hcomponents.symm
      simp [reach, hne, hcomponents]

/-- A file is written under the last name of its path, into the directory that the rest of the path leads to. -/
theorem place_eq_ok {t : FileTree} {path : String} {loc : Location} (h : t.place path = .ok loc) :
    ∃ dir, t.reach (parentPath path) = .ok dir ∧ t.get? dir = some .directory ∧
      loc = dir ++ [lastComponent path] ∧ t.get? loc ≠ some .directory := by
  unfold place at h
  split at h
  · cases h
  · cases hdir : t.follow [] ((components (trimSlashes path)).dropLast ++ [""]) with
    | error e => simp [hdir, bind, Except.bind] at h
    | ok dir =>
      simp only [hdir, bind, Except.bind] at h
      split at h
      · cases h
      · rename_i hname
        simp only [ne_eq, Bool.or_eq_true, decide_eq_true_eq, not_or, Decidable.not_not] at hname
        obtain ⟨⟨⟨hbare, -⟩, -⟩, -⟩ := hname
        rw [hbare] at hdir h
        split at h
        · cases h
        · rename_i hfree
          cases h
          obtain ⟨_, hfollow, hdirectory, rfl⟩ := follow_concat.1 hdir
          exact ⟨_, by rw [reach_parentPath, hfollow], hdirectory, rfl, hfree⟩

theorem place_joinPath {t : FileTree} {dir name : String} {loc : Location} (hname : Plain name)
    (h : t.place (joinPath dir name) = .ok loc) :
    ∃ l, t.reach dir = .ok l ∧ t.get? l = some .directory ∧ loc = l ++ [name] ∧ t.get? loc ≠ some .directory := by
  obtain ⟨l, hl, hdirectory, hloc, hfree⟩ := place_eq_ok h
  have hlast : lastComponent (joinPath dir name) = name := by
    simp [lastComponent, components_joinPath dir hname]
  rw [reach_parentPath, components_joinPath dir hname, List.dropLast_concat] at hl
  -- an empty component is a step that asks for a directory and stays there
  have hbase : t.follow [] (base dir ++ [""]) = .ok l := follow_concat.2 ⟨l, hl, hdirectory, rfl⟩
  obtain ⟨_, hreach, -, rfl⟩ := follow_base.1 hbase
  exact ⟨_, hreach, hdirectory, by rw [hloc, hlast], hfree⟩

theorem find_eq_ok {t : FileTree} {path : String} {loc : Location} {e : Entry} (h : t.find path = .ok (loc, e)) :
    t.follow [] (components path) = .ok loc ∧ t.get? loc = some e := by
  unfold find at h
  split at h
  · cases h
  · cases hfollow : t.follow [] (components path) with
    | error e => simp [hfollow, bind, Except.bind] at h
    | ok loc' =>
      simp only [hfollow, bind, Except.bind] at h
      split at h
      · cases h
      · rename_i hget
        cases h
        exact ⟨rfl, hget⟩

theorem place_ne_nil {t : FileTree} {path : String} {loc : Location} (h : t.place path = .ok loc) : loc ≠ [] := by
  obtain ⟨dir, -, -, rfl, -⟩ := place_eq_ok h
  simp

/-- A copy puts one file in its place. A file that is copied onto itself is empty by the time it is read. -/
theorem copy_eq_ok {t t' : FileTree} {source destination : String} (h : t.copy source destination = .ok t') :
    ∃ src content dst, t.find source = .ok (src, .file content) ∧ t.place destination = .ok dst ∧
      t'.get? dst = some (.file (if src = dst then "" else content)) ∧ ∀ loc, loc ≠ dst → t'.get? loc = t.get? loc := by
  unfold copy at h
  cases hfind : t.find source with
  | error e => simp [hfind, bind, Except.bind] at h
  | ok found =>
    obtain ⟨src, content | _⟩ := found
    · cases hplace : t.place destination with
      | error e => simp [hfind, hplace, bind, Except.bind] at h
      | ok dst =>
        have hdst := place_ne_nil hplace
        have hsrc : (t.set dst (.file "")).get? src = some (.file (if src = dst then "" else content)) := by
          by_cases heq : src = dst
          · rw [if_pos heq, heq, get?_set_self t _ hdst]
          · rw [if_neg heq, get?_set_of_ne t _ heq]
            exact (find_eq_ok hfind).2
        simp only [hfind, hplace, hsrc, bind, Except.bind, pure, Except.pure, Except.ok.injEq] at h
        subst h
        refine ⟨src, content, dst, rfl, rfl, get?_set_self _ _ hdst, ?_⟩
        intro loc hloc
        rw [get?_set_of_ne _ _ hloc, get?_set_of_ne _ _ hloc]
    · simp [hfind, bind, Except.bind] at h

theorem isEmpty_joinPath (dir : String) {name : String} (h : Plain name) : (joinPath dir name).isEmpty = false := by
  rw [Bool.eq_false_iff]
  intro hempty
  rw [String.isEmpty_iff] at hempty
  have hcomponents : [""] = base dir ++ [name] := by
    rw [← components_joinPath dir h, hempty]
    rfl
  have hname : "" = name := by simpa using congrArg List.getLast? hcomponents
  exact h.empty hname.symm

theorem reach_joinPath {t : FileTree} {dir name : String} {l : Location} (h : Plain name) :
    t.reach (joinPath dir name) = .ok l ↔
      ∃ loc, t.reach dir = .ok loc ∧ t.get? loc = some .directory ∧ l = loc ++ [name] := by
  rw [← follow_joinPath h, reach, isEmpty_joinPath dir h]
  rfl

/-! ## Trees with more in them -/

/-- Every directory of `t` is one in `t'` too. -/
def Keeps (t t' : FileTree) : Prop := ∀ loc, t.get? loc = some .directory → t'.get? loc = some .directory

namespace Keeps

/-- Where there was no directory, anything may be put. -/
theorem set {t : FileTree} {loc : Location} (h : t.get? loc ≠ some .directory) (e : Entry) : Keeps t (t.set loc e) := by
  intro other hother
  have hne : other ≠ loc := by
    intro heq
    exact h (heq ▸ hother)
  rw [get?_set_of_ne t e hne]
  exact hother

variable {t t' : FileTree} (h : Keeps t t')

include h

theorem follow {loc l : Location} {cs : List String} (hf : t.follow loc cs = .ok l) : t'.follow loc cs = .ok l := by
  induction cs generalizing loc with
  | nil => exact hf
  | cons c cs ih =>
    rw [FileTree.follow] at hf ⊢
    split at hf
    · cases hf
    · cases hf
    · rename_i hd
      rw [h loc hd]
      exact ih hf

theorem reach {path : String} {l : Location} (hr : t.reach path = .ok l) : t'.reach path = .ok l := by
  unfold FileTree.reach at hr ⊢
  split at hr
  · rename_i hempty
    rwa [if_pos hempty]
  · rename_i hempty
    rw [if_neg hempty]
    exact h.follow hr

/-- A path leads to what stands at its end, as long as that stands there too. -/
theorem find {path : String} {loc : Location} {e : Entry} (hf : t.find path = .ok (loc, e))
    (he : t'.get? loc = some e) : t'.find path = .ok (loc, e) := by
  have hpath : path.isEmpty = false := by
    unfold FileTree.find at hf
    split at hf
    · cases hf
    · rename_i hempty
      simpa using hempty
  have hfollow := h.follow (find_eq_ok hf).1
  simp [FileTree.find, hpath, hfollow, he, bind, Except.bind, pure, Except.pure]

end Keeps

end FileTree

end TreeScript.Command
