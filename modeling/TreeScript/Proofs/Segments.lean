/-
  TreeScript.Proofs.Segments — a list is gathered segment by segment.

  A segment is a statement that stays as it is, or a run: clauses of one name, perhaps with
  the function of that name right after them. `segments` cuts a list into segments from its
  end, where a clause only has to look at the segment after it. The cut is full: a run has a
  clause, its clauses have its name, and no run could be longer (`Segment.Apart`). Unlike a
  `Piece`, a run still tells its clauses from its function.

  Gathering gives one statement for each segment of a full cut (`gather_of_full`). So it
  leaves a list without clauses as it is, where every statement is a segment by itself
  (`gather_eq_self`). Two lists are gathered each by itself unless they meet within a run;
  there the result has one statement less (`length_gather_of_joins`).
-/

import Mathlib.Data.List.Chain
import Mathlib.Data.List.Induction
import TreeScript.Compile
import TreeScript.Proofs.Gathering

namespace TreeScript.Tree

/-! ## Segments -/

/-- A part of a list: a statement that stays, or clauses with a name and perhaps the parameters and the body of a
function of that name after them. -/
inductive Segment where
  | kept (s : Stmt)
  | run (name : String) (clauses : List Clause) (last : Option (List String × List Stmt))

namespace Segment

/-- The statements that a segment has in the list. -/
def sources : Segment → List Stmt
  | .kept s => [s]
  | .run name clauses last => clauses.map .clause ++ last.toList.map fun f => .function name f.1 f.2

/-- The clauses of the dispatcher that a run becomes: those of the run, and its function as the last one. -/
def dispatched (name : String) (clauses : List Clause) (last : Option (List String × List Stmt)) : List Clause :=
  clauses ++ last.toList.map fun f => catchAllClause name f.1 f.2

/-- The statement that a segment becomes. -/
def stmt : Segment → Stmt
  | .kept s => s
  | .run name clauses last => .dispatch name (dispatched name clauses last)

/-- A clause does not stay, and a run has a clause and only clauses of its name. -/
def Sound : Segment → Prop
  | .kept s => ∀ c, s ≠ .clause c
  | .run name clauses _ => clauses ≠ [] ∧ ∀ c ∈ clauses, c.name = name

/-- A run or a function right after a run has another name, unless the run ends in a function. -/
def Apart : Segment → Segment → Prop
  | .run name _ last, .run name' _ _ => name' = name → last.isSome
  | .run name _ last, .kept (.function name' _ _) => name' = name → last.isSome
  | _, _ => True

/-- The run that a clause makes with the segment after it. -/
def extend (c : Clause) : Segment → Option Segment
  | .run name clauses last => if c.name = name then some (.run name (c :: clauses) last) else none
  | .kept (.function name params body) => if c.name = name then some (.run name [c] (some (params, body))) else none
  | .kept _ => none

/-- Put a statement before some segments. -/
def prepend : Stmt → List Segment → List Segment
  | .clause c, [] => [.run c.name [c] none]
  | .clause c, seg :: segs =>
    match seg.extend c with
    | some longer => longer :: segs
    | none => .run c.name [c] none :: seg :: segs
  | s, segs => .kept s :: segs

theorem Sound.named {name : String} {clauses : List Clause} {last : Option (List String × List Stmt)}
    (h : Sound (.run name clauses last)) : ∀ c ∈ dispatched name clauses last, c.name = name := by
  intro c hc
  rcases List.mem_append.1 hc with hc | hc
  · exact h.2 c hc
  · obtain ⟨f, -, rfl⟩ := List.mem_map.1 hc
    rfl

/-! ## One more clause -/

theorem sound_single (c : Clause) (last : Option (List String × List Stmt)) : Sound (.run c.name [c] last) :=
  ⟨List.cons_ne_nil _ _, by simp⟩

/-- Which clauses a run has does not matter to the segment after it. -/
theorem Apart.of_run {name : String} {clauses : List Clause} {last : Option (List String × List Stmt)} {seg : Segment}
    (h : Apart (.run name clauses last) seg) (clauses' : List Clause) : Apart (.run name clauses' last) seg := by
  cases seg with
  | kept s => cases s <;> exact h
  | run name' clauses'' last' => exact h

theorem apart_run_some (name : String) (clauses : List Clause) (f : List String × List Stmt) (seg : Segment) :
    Apart (.run name clauses (some f)) seg := by
  cases seg with
  | kept s =>
    cases s with
    | function name' params body => exact fun _ => rfl
    | _ => trivial
  | run name' clauses' last' => exact fun _ => rfl

/-- A clause makes a run with a run of its name, and with a function of its name that stays. -/
theorem extend_eq_some {c : Clause} {seg longer : Segment} (h : seg.extend c = some longer) :
    (∃ clauses last, seg = .run c.name clauses last ∧ longer = .run c.name (c :: clauses) last) ∨
      ∃ params body, seg = .kept (.function c.name params body) ∧ longer = .run c.name [c] (some (params, body)) := by
  unfold extend at h
  split at h
  · split at h
    · rename_i hname
      cases h
      exact .inl ⟨_, _, by rw [hname], by rw [hname]⟩
    · cases h
  · split at h
    · rename_i hname
      cases h
      exact .inr ⟨_, _, by rw [hname], by rw [hname]⟩
    · cases h
  · cases h

theorem sources_extend {c : Clause} {seg longer : Segment} (h : seg.extend c = some longer) :
    longer.sources = .clause c :: seg.sources := by
  obtain ⟨clauses, last, rfl, rfl⟩ | ⟨params, body, rfl, rfl⟩ := extend_eq_some h
  · rfl
  · rfl

theorem sound_extend {c : Clause} {seg longer : Segment} (h : seg.extend c = some longer) (hs : seg.Sound) :
    longer.Sound := by
  obtain ⟨clauses, last, rfl, rfl⟩ | ⟨params, body, rfl, rfl⟩ := extend_eq_some h
  · exact ⟨List.cons_ne_nil _ _, List.forall_mem_cons.2 ⟨rfl, hs.2⟩⟩
  · exact sound_single c _

theorem apart_extend {c : Clause} {seg longer next : Segment} (h : seg.extend c = some longer) (ha : seg.Apart next) :
    longer.Apart next := by
  obtain ⟨clauses, last, rfl, rfl⟩ | ⟨params, body, rfl, rfl⟩ := extend_eq_some h
  · exact ha.of_run _
  · exact apart_run_some _ _ _ _

theorem apart_of_extend_eq_none {c : Clause} {seg : Segment} (h : seg.extend c = none) :
    Apart (.run c.name [c] none) seg := by
  unfold extend at h
  split at h
  · split at h
    · cases h
    · exact fun hname => absurd hname.symm ‹_›
  · split at h
    · cases h
    · exact fun hname => absurd hname.symm ‹_›
  · rename_i s hs
    cases s with
    | function name params body => exact absurd rfl (hs name params body)
    | _ => trivial

end Segment

/-! ## Full cuts -/

/-- Segments that are sound, and none of which could be longer. -/
structure Full (segs : List Segment) : Prop where
  sound : ∀ seg ∈ segs, seg.Sound
  apart : segs.IsChain Segment.Apart

/-- A list cut into segments. -/
def segments (body : List Stmt) : List Segment := body.foldr Segment.prepend []

theorem Full.cons {seg : Segment} {segs : List Segment} (h : Full segs) (hs : seg.Sound)
    (ha : ∀ next ∈ segs.head?, seg.Apart next) : Full (seg :: segs) :=
  ⟨List.forall_mem_cons.2 ⟨hs, h.sound⟩, List.isChain_cons.2 ⟨ha, h.apart⟩⟩

theorem Full.tail {seg : Segment} {segs : List Segment} (h : Full (seg :: segs)) : Full segs :=
  ⟨(List.forall_mem_cons.1 h.sound).2, h.apart.tail⟩

theorem Full.head {seg : Segment} {segs : List Segment} (h : Full (seg :: segs)) :
    seg.Sound ∧ ∀ next ∈ segs.head?, seg.Apart next :=
  ⟨(List.forall_mem_cons.1 h.sound).1, (List.isChain_cons.1 h.apart).1⟩

theorem full_prepend (s : Stmt) {segs : List Segment} (h : Full segs) : Full (Segment.prepend s segs) := by
  unfold Segment.prepend
  split
  · exact h.cons (Segment.sound_single _ _) (by simp)
  · rename_i c seg rest
    obtain ⟨hsound, hapart⟩ := h.head
    split
    · rename_i longer hrun
      exact h.tail.cons (Segment.sound_extend hrun hsound) fun next hnext =>
        Segment.apart_extend hrun (hapart next hnext)
    · rename_i hnone
      exact h.cons (Segment.sound_single c _) (by simpa using Segment.apart_of_extend_eq_none hnone)
  · rename_i hnil hcons
    -- the clauses are all dealt with above
    refine h.cons ?_ fun _ _ => trivial
    rintro c rfl
    cases segs with
    | nil => exact hnil c rfl rfl
    | cons seg rest => exact hcons c seg rest rfl rfl

theorem sources_prepend (s : Stmt) (segs : List Segment) :
    (Segment.prepend s segs).flatMap Segment.sources = s :: segs.flatMap Segment.sources := by
  unfold Segment.prepend
  split
  · rfl
  · split
    · rename_i hrun
      rw [List.flatMap_cons, Segment.sources_extend hrun]
      rfl
    · rfl
  · rfl

theorem full_segments (body : List Stmt) : Full (segments body) := by
  induction body with
  | nil => exact ⟨by simp [segments], .nil⟩
  | cons s body ih => exact full_prepend s ih

theorem sources_segments (body : List Stmt) : (segments body).flatMap Segment.sources = body := by
  induction body with
  | nil => rfl
  | cons s body ih => exact (sources_prepend s _).trans (congrArg (s :: ·) ih)

/-! ## Gathering a full cut -/

theorem gather_singleton {s : Stmt} (h : ∀ c, s ≠ .clause c) : gather [s] = [s] := by
  cases s with
  | clause c => exact absurd rfl (h c)
  | _ => rfl

/-- Clauses of the run's name all join it. -/
theorem foldl_add_clauses (done : List Stmt) (r : Run) {cs : List Clause} (h : ∀ c ∈ cs, c.name = r.name) :
    (cs.map .clause).foldl Gathered.add ⟨done, some r⟩ = ⟨done, some ⟨r.name, r.clauses ++ cs⟩⟩ := by
  induction cs generalizing r with
  | nil => simp
  | cons c cs ih =>
    have hadd : Gathered.add ⟨done, some r⟩ (.clause c) = ⟨done, some (r.push c)⟩ := by
      simp [Gathered.add, h c List.mem_cons_self]
    rw [List.map_cons, List.foldl_cons, hadd, ih (r.push c) fun c' hc' => h c' (List.mem_cons_of_mem _ hc')]
    simp [Run.push]

theorem gather_sources {seg : Segment} (h : seg.Sound) : gather seg.sources = [seg.stmt] := by
  cases seg with
  | kept s => exact gather_singleton h
  | run name clauses last =>
    obtain ⟨hne, hnamed⟩ := h
    obtain ⟨c, cs, rfl⟩ := List.exists_cons_of_ne_nil hne
    obtain ⟨rfl, hcs⟩ := List.forall_mem_cons.1 hnamed
    have hclauses : ((c :: cs).map .clause).foldl Gathered.add ⟨[], none⟩ = ⟨[], some ⟨c.name, c :: cs⟩⟩ :=
      foldl_add_clauses [] ⟨c.name, [c]⟩ hcs
    unfold gather
    rw [Segment.sources, List.foldl_append, hclauses]
    cases last with
    | none => simp [Gathered.closed, Run.stmt, Segment.stmt, Segment.dispatched]
    | some f => simp [Gathered.add, Gathered.closed, Run.push, Run.stmt, Segment.stmt, Segment.dispatched]

/-- A run without a function ends in a clause of its name, and only such a run ends in a clause. -/
theorem Segment.getLast?_sources {seg : Segment} (h : seg.Sound) {c : Clause}
    (hlast : seg.sources.getLast? = some (.clause c)) : ∃ clauses, seg = .run c.name clauses none := by
  cases seg with
  | kept s => exact absurd (Option.some.inj hlast) (h c)
  | run name clauses last =>
    cases last with
    | some f => simp [sources] at hlast
    | none =>
      have hmem : Stmt.clause c ∈ clauses.map .clause := by
        rw [sources, Option.toList_none, List.map_nil, List.append_nil] at hlast
        exact List.mem_of_getLast? hlast
      have hc : c ∈ clauses := by simpa using hmem
      exact ⟨clauses, by rw [h.2 c hc]⟩

theorem Segment.head?_sources {name : String} {clauses : List Clause} {last : Option (List String × List Stmt)}
    (h : Sound (.run name clauses last)) (rest : List Stmt) :
    ∃ c, ((Segment.run name clauses last).sources ++ rest).head? = some (.clause c) ∧ c.name = name := by
  obtain ⟨hne, hnamed⟩ := h
  obtain ⟨c, cs, rfl⟩ := List.exists_cons_of_ne_nil hne
  exact ⟨c, rfl, hnamed c List.mem_cons_self⟩

/-- Segments that are apart do not join. -/
theorem Segment.Apart.not_joins {a b : Segment} (h : a.Apart b) (ha : a.Sound) (hb : b.Sound) (rest : List Stmt) :
    ¬ Joins a.sources (b.sources ++ rest) := by
  rintro ⟨c, hlast, hhead⟩
  obtain ⟨clauses, rfl⟩ := Segment.getLast?_sources ha hlast
  cases b with
  | kept s =>
    rcases hhead with ⟨c', hhead, -⟩ | ⟨params, body, hhead⟩
    · exact hb c' (Option.some.inj hhead)
    · obtain rfl : s = .function c.name params body := Option.some.inj hhead
      exact absurd (h rfl) (by simp)
  | run name clauses' last =>
    obtain ⟨c'', hfirst, hname⟩ := Segment.head?_sources hb rest
    rw [hfirst] at hhead
    rcases hhead with ⟨c', hhead, hc⟩ | ⟨params, body, hhead⟩
    · cases hhead
      exact absurd (h (hname.symm.trans hc)) (by simp)
    · cases hhead

theorem not_joins_nil (a : List Stmt) : ¬ Joins a [] := by
  rintro ⟨c, -, ⟨c', hhead, -⟩ | ⟨params, body, hhead⟩⟩
  · cases hhead
  · cases hhead

/-- Gathering gives one statement for each segment. -/
theorem gather_of_full {segs : List Segment} (h : Full segs) :
    gather (segs.flatMap Segment.sources) = segs.map Segment.stmt := by
  induction segs with
  | nil => rfl
  | cons seg segs ih =>
    obtain ⟨hsound, hapart⟩ := h.head
    have hnot : ¬ Joins seg.sources (segs.flatMap Segment.sources) := by
      cases segs with
      | nil => exact not_joins_nil _
      | cons next rest => exact (hapart next rfl).not_joins hsound h.tail.head.1 _
    rw [List.flatMap_cons, gather_append hnot, gather_sources hsound, ih h.tail]
    rfl

theorem stmt_segments (body : List Stmt) : (segments body).map Segment.stmt = gather body := by
  rw [← gather_of_full (full_segments body), sources_segments]

/-- Without clauses, every statement is a segment by itself. -/
theorem full_kept {body : List Stmt} (h : ∀ c, .clause c ∉ body) : Full (body.map .kept) := by
  induction body with
  | nil => exact ⟨by simp, .nil⟩
  | cons s body ih =>
    have hs : Segment.Sound (.kept s) := by
      rintro c rfl
      exact h c List.mem_cons_self
    exact (ih fun c hc => h c (List.mem_cons_of_mem _ hc)).cons hs fun _ _ => trivial

theorem gather_eq_self {body : List Stmt} (h : ∀ c, .clause c ∉ body) : gather body = body := by
  simpa [List.flatMap_map, Function.comp_def, Segment.sources, Segment.stmt] using gather_of_full (full_kept h)

theorem gather_gather (body : List Stmt) : gather (gather body) = gather body :=
  gather_eq_self fun c => clause_notMem_gather c body

/-! ## Where lists join -/

/-- A statement that goes on with the run adds no piece. -/
theorem Traced.Step.length_closed {g g' : Traced} {s : Stmt} {r : Run} (hs : Step g s g') (hr : g.run = some r)
    (h : (∃ c, s = .clause c ∧ c.name = r.name) ∨ ∃ params body, s = .function r.name params body) :
    g'.closed.length = g.closed.length := by
  cases hs with
  | join hr' hn =>
    rw [closed_of_run hr', closed_of_run rfl]
    simp
  | start hn =>
    rcases h with ⟨c, hc, hname⟩ | ⟨params, body, hc⟩
    · cases hc
      exact absurd hname (hn r hr)
    · cases hc
  | finish hr' hn =>
    rw [closed_of_run hr', closed_of_none rfl]
    simp
  | keep hc hf =>
    rcases h with ⟨c, rfl, -⟩ | ⟨params, body, rfl⟩
    · exact absurd rfl (hc c)
    · exact absurd rfl (hf r params body hr)

theorem length_gather (body : List Stmt) : (gather body).length = (body.foldl Traced.add ⟨[], none⟩).closed.length := by
  rw [← map_stmt_pieces, List.length_map, pieces]

theorem length_gather_concat {body : List Stmt} {s : Stmt} (h : Joins body [s]) :
    (gather (body ++ [s])).length = (gather body).length := by
  obtain ⟨c, hlast, hhead⟩ := h
  have hafter := Traced.after_foldl body
  rw [hlast] at hafter
  obtain ⟨r, hr, hname⟩ := hafter
  rw [length_gather, length_gather, List.foldl_append]
  refine (Traced.step_add _ s).length_closed hr ?_
  rcases hhead with ⟨c', hhead, hc⟩ | ⟨params, body', hhead⟩
  · exact .inl ⟨c', Option.some.inj hhead, hc.trans hname.symm⟩
  · exact .inr ⟨params, body', by rw [hname, Option.some.inj hhead]⟩

/-- Where two lists meet within a run, its two parts become one statement. -/
theorem length_gather_of_joins {a b : List Stmt} (h : Joins a b) :
    (gather (a ++ b)).length + 1 = (gather a).length + (gather b).length := by
  induction b using List.reverseRecOn with
  | nil => exact absurd h (not_joins_nil a)
  | append_singleton b s ih =>
    have hone : (gather [s]).length = 1 := by
      cases s <;> rfl
    cases b with
    | nil =>
      have hlength := length_gather_concat h
      rw [List.nil_append, hlength, hone]
    | cons t b =>
      have hlength := ih h
      -- the last statement finds the same one before it in both lists
      have hlast : Joins (a ++ t :: b) [s] ↔ Joins (t :: b) [s] := by
        unfold Joins
        rw [List.getLast?_append_cons]
      rw [← List.append_assoc]
      by_cases hs : Joins (t :: b) [s]
      · rw [length_gather_concat hs, length_gather_concat (hlast.2 hs), hlength]
      · rw [gather_append hs, gather_append (mt hlast.1 hs), List.length_append, List.length_append]
        omega

/-- Two lists are gathered each by itself exactly if the first does not end in a clause that the second goes on with,
by a clause or a function of the same name. -/
theorem gather_append_iff (a b : List Stmt) : gather (a ++ b) = gather a ++ gather b ↔ ¬ Joins a b := by
  constructor
  · intro heq h
    have hlength := length_gather_of_joins h
    rw [heq, List.length_append] at hlength
    omega
  · exact gather_append

end TreeScript.Tree

namespace TreeScript

open TreeScript.Tree (Segment gather segments)

theorem compileWith_gathered (lib : Library) (p : Tree.Program) : compileWith lib p.gathered = compileWith lib p := by
  have hgathered : p.gathered.gathered = p.gathered := congrArg Tree.Program.mk (Tree.gather_gather p.body)
  rw [compileWith, compileWith, Lowering.compile, Lowering.compile, hgathered]

/-- Gathering gives out no clause. It takes a list segment by segment: every dispatcher that it builds is made of one
or more clauses of the dispatcher's name and at most, at the end, of a function of that name; and after it stands
another built dispatcher or a function of its name only if it ends in a function itself. So gathering a second time
changes nothing, and a program is compiled as it is when its clauses are gathered before. -/
theorem gathered_runs (body : List Tree.Stmt) :
    (∀ c, .clause c ∉ gather body) ∧
      (segments body).flatMap Segment.sources = body ∧ (segments body).map Segment.stmt = gather body ∧
      (∀ name clauses last, .run name clauses last ∈ segments body →
        clauses ≠ [] ∧ ∀ c ∈ Segment.dispatched name clauses last, c.name = name) ∧
      (segments body).IsChain Segment.Apart ∧
      gather (gather body) = gather body ∧
      ∀ lib, compileWith lib (Tree.Program.mk body).gathered = compileWith lib ⟨body⟩ := by
  have hfull := Tree.full_segments body
  refine ⟨fun c => Tree.clause_notMem_gather c body, Tree.sources_segments body, Tree.stmt_segments body, ?_,
    hfull.apart, Tree.gather_gather body, fun lib => compileWith_gathered lib _⟩
  intro name clauses last hrun
  have hsound := hfull.sound _ hrun
  exact ⟨hsound.1, hsound.named⟩

/-- A function that two runs end in, and a third one after them that is left over. -/
def reclosed : List Tree.Stmt := [
  .clause ⟨"f", [.literal .nil], none, []⟩, .function "f" ["n"] [],
  .clause ⟨"f", [.wildcard], none, []⟩, .function "f" ["m"] [], .function "f" ["k"] []]

theorem gathered_runs_reclosed :
    .run "f" [⟨"f", [.wildcard], none, []⟩] (some (["m"], [])) ∈ segments reclosed ∧
      (gather reclosed).map Tree.Stmt.kind = ["PatternDispatch", "PatternDispatch", "FunctionDeclaration"] ∧
      (segments reclosed).map Segment.stmt = gather reclosed ∧ (segments reclosed).IsChain Segment.Apart ∧
      gather (gather reclosed) = gather reclosed := by
  obtain ⟨-, -, hstmt, -, hapart, hagain, -⟩ := gathered_runs reclosed
  exact ⟨.tail _ (.head _), rfl, hstmt, hapart, hagain⟩

end TreeScript
