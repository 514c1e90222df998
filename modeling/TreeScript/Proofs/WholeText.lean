/-
  TreeScript.Proofs.WholeText — a text that is read is read to its end, and could not go on.

  Where the reader stops early, it leaves a fault in its draft or a mark that more follows
  (`Stopped`), and no program is read from such a draft (`written_of_program`). So after a
  text that is read as a program the reader stands behind a complete value with nothing
  open around it (`run_of_parse`), and what comes next can only be blanks. It does not look
  back: what was read stays, and anything but a blank is too much.
-/

import TreeScript.Proofs.Classification

namespace TreeScript

namespace Json

/-! ## Drafts with a fault -/

namespace Draft

theorem skipAll_eq_ok {ds : List Draft} : skipAll ds = .ok () ↔ ∀ d ∈ ds, d.skip = .ok () := by
  induction ds with
  | nil => simp [skipAll]
  | cons d ds ih =>
    rw [List.forall_mem_cons, ← ih]
    refine Lowering.bind_eq_ok.trans ⟨?_, fun h => ⟨(), h⟩⟩
    rintro ⟨⟨⟩, h⟩
    exact h

theorem skipEntries_eq_ok {es : List (Key × Draft)} : skipEntries es = .ok () ↔ ∀ e ∈ es, e.2.skip = .ok () := by
  induction es with
  | nil => simp [skipEntries]
  | cons e es ih =>
    rw [List.forall_mem_cons, ← ih]
    refine Lowering.bind_eq_ok.trans ⟨?_, fun h => ⟨(), h⟩⟩
    rintro ⟨⟨⟩, h⟩
    exact h

/-- A draft that is JSON all through, though a number or a string in it may have no value. -/
def Written (d : Draft) : Prop := d.skip = .ok ()

theorem written_items {ds : List Draft} : (items ds).Written ↔ ∀ d ∈ ds, d.Written := skipAll_eq_ok

theorem written_entries {es : List (Key × Draft)} : (entries es).Written ↔ ∀ e ∈ es, e.2.Written := skipEntries_eq_ok

theorem not_written_fault (f : Fault) : ¬ (fault f).Written := by
  intro h
  cases h

end Draft

theorem written_draft (v : Value) : v.draft.Written := by
  induction v using Value.ind with
  | null => rfl
  | boolean b => rfl
  | number n => rfl
  | text s => rfl
  | items vs ih =>
    rw [draft_items, Draft.written_items]
    simpa using ih
  | entries es ih =>
    rw [draft_entries, Draft.written_entries]
    intro e' he'
    obtain ⟨e, he, rfl⟩ := List.mem_map.1 he'
    exact ih e he

/-- A list or an object is no better written than the value that it ends with. -/
theorem not_written_close (f : Frame) {d : Draft} (h : ¬ d.Written) : ¬ (f.close d).Written := by
  cases f with
  | item before =>
    intro hclosed
    exact h (Draft.written_items.1 hclosed d (by simp))
  | entry before key =>
    intro hclosed
    exact h (Draft.written_entries.1 hclosed (key, d) (by simp))

theorem not_written_enclose (stack : List Frame) {d : Draft} (h : ¬ d.Written) : ¬ (enclose stack d).Written := by
  induction stack generalizing d with
  | nil => exact h
  | cons f stack ih => exact ih (not_written_close f h)

theorem not_written_broken (fault : Fault) (mode : Mode) : ¬ (mode.broken fault).Written := by
  have hlist (before : List Draft) : ¬ (Draft.items (before.reverse ++ [.fault fault])).Written :=
    not_written_close (.item before) (Draft.not_written_fault fault)
  have hobject (before : List (Key × Draft)) (key : Key) :
      ¬ (Draft.entries (before.reverse ++ [(key, .fault fault)])).Written :=
    not_written_close (.entry before key) (Draft.not_written_fault fault)
  cases mode with
  | item before first => exact hlist before
  | key before first => exact hobject before _
  | keyText before read => exact hobject before _
  | colon before key => exact hobject before key
  | value | text | number | word | after => exact Draft.not_written_fault fault

/-! ## Stopping early -/

/-- A document that says that its text was not read to the end, or not as JSON. -/
def Document.Stopped (doc : Document) : Prop := doc.surplus = true ∨ ¬ doc.root.Written

theorem stopped_brokenAfter (fault : Fault) (v : Draft) (stack : List Frame) : (brokenAfter fault v stack).Stopped := by
  cases stack with
  | nil => exact .inl rfl
  | cons f stack =>
    right
    cases f <;> exact not_written_enclose stack (not_written_broken fault _)

/-- A state that has stopped has a reason to. -/
def State.Sound (s : State) : Prop := ∀ doc, s = .stopped doc → doc.Stopped

theorem State.sound_reading (mode : Mode) (stack : List Frame) : (State.reading mode stack).Sound := by
  intro doc h
  cases h

theorem sound_stop (fault : Fault) (mode : Mode) (stack : List Frame) : (stop fault mode stack).Sound := by
  intro doc h
  cases mode with
  | after v =>
    cases h
    exact stopped_brokenAfter fault v stack
  | _ =>
    cases h
    exact .inr (not_written_enclose stack (not_written_broken fault _))

theorem sound_begin (mode : Mode) (stack : List Frame) (c : Char) : (begin mode stack c).Sound := by
  unfold begin
  repeat' split
  all_goals first
    | exact State.sound_reading _ _
    | exact sound_stop _ _ _

theorem State.sound_surplus (v : Draft) : (State.stopped ⟨v, true⟩).Sound := by
  intro doc h
  cases h
  exact .inl rfl

theorem sound_stepAfter (v : Draft) (stack : List Frame) (c : Char) : (stepAfter v stack c).Sound := by
  unfold stepAfter
  repeat' split
  all_goals first
    | exact State.sound_reading _ _
    | exact sound_stop _ _ _
    | exact State.sound_surplus _

theorem sound_stepMode (mode : Mode) (stack : List Frame) (c : Char) : (stepMode mode stack c).Sound := by
  unfold stepMode
  repeat' split
  all_goals first
    | exact State.sound_reading _ _
    | exact sound_stop _ _ _
    | exact sound_begin _ _ _
    | exact sound_stepAfter _ _ _

theorem State.Sound.step {s : State} (h : s.Sound) (c : Char) : (s.step c).Sound := by
  cases s with
  | reading mode stack => exact sound_stepMode mode stack c
  | stopped doc => exact h

theorem State.Sound.run {s : State} (h : s.Sound) (cs : List Char) : (s.run cs).Sound := by
  induction cs generalizing s with
  | nil => exact h
  | cons c cs ih => exact ih (h.step c)

/-- A text is read whole only if nothing is open at its end, and what was read last is complete there. -/
theorem State.Sound.finish {s : State} (h : s.Sound) (hwhole : ¬ s.finish.Stopped) :
    (∃ v, s = .reading (.after v) []) ∨ ∃ read, s = .reading (.number read) [] ∧
      s.finish.root = draftOf read.numeral.value := by
  have hbroken (fault : Fault) (mode : Mode) (stack : List Frame) :
      (Document.mk (enclose stack (mode.broken fault)) false).Stopped :=
    .inr (not_written_enclose stack (not_written_broken fault mode))
  have hend (v : Draft) (stack : List Frame) (hv : ¬ (endAfter v stack).Stopped) : stack = [] := by
    cases stack with
    | nil => rfl
    | cons f stack => cases f <;> exact absurd (stopped_brokenAfter _ v _) hv
  cases s with
  | stopped doc => exact absurd (h doc rfl) hwhole
  | reading mode stack =>
    cases mode with
    | after v =>
      obtain rfl := hend v stack hwhole
      exact .inl ⟨v, rfl⟩
    | number read =>
      by_cases hcomplete : read.phase.complete = true
      · rw [State.finish, if_pos hcomplete] at hwhole ⊢
        obtain rfl := hend _ stack hwhole
        exact .inr ⟨read, rfl, rfl⟩
      · rw [State.finish, if_neg hcomplete] at hwhole
        exact absurd (hbroken .endInValue .value stack) hwhole
    | value => exact absurd (hbroken .endInValue .value stack) hwhole
    | word rest v => exact absurd (hbroken .endInValue .value stack) hwhole
    | text read => exact absurd (hbroken .endInString .value stack) hwhole
    | item before first => exact absurd (hbroken _ (.item before first) stack) hwhole
    | key before first => exact absurd (hbroken _ (.key before first) stack) hwhole
    | keyText before read => exact absurd (hbroken _ (.keyText before read) stack) hwhole
    | colon before key => exact absurd (hbroken _ (.colon before key) stack) hwhole

/-! ## After the end -/

theorem mem_of_isBlank {c : Char} (h : isBlank c = true) : c ∈ [' ', '\t', '\n', '\r'] := by
  simp only [isBlank, Bool.or_eq_true, decide_eq_true_eq] at h
  rcases h with ((rfl | rfl) | rfl) | rfl <;> decide

/-- After a value that nothing is open around, anything but a blank is too much. -/
theorem run_surplus (v : Draft) {cs : List Char} (h : cs ∉ blanks) :
    (State.reading (.after v) []).run cs = .stopped ⟨v, true⟩ := by
  induction cs with
  | nil => exact absurd (fun c hc => by cases hc) h
  | cons c cs ih =>
    by_cases hc : isBlank c = true
    · have hcs : cs ∉ blanks := by
        intro hcs
        refine h fun c' hc' => ?_
        rcases List.mem_cons.1 hc' with rfl | hc'
        · exact mem_of_isBlank hc
        · exact hcs c' hc'
      have hstep : State.step (.reading (.after v) []) c = .reading (.after v) [] := waits_after v [] c hc
      rw [State.run_cons, hstep, ih hcs]
    · have hstep : State.step (.reading (.after v) []) c = .stopped ⟨v, true⟩ := if_neg hc
      rw [State.run_cons, hstep]
      exact foldl_step_stopped _ cs

end Json

namespace Reading

open Json (Draft Document Key State)
open Lowering (bind_eq_ok)

/-! ## Programs are read from what is written -/

theorem written_of_value {d : Draft} {v : Json.Value} (h : d.value = .ok v) : d.Written := by
  rw [Json.draft_of_value d h]
  exact Json.written_draft v

theorem written_of_stmtVariant {d : Draft} {v : Variant Tree.Stmt} (h : stmtVariant d = .ok v) : d.Written := by
  obtain ⟨name, rfl, -⟩ := stmtVariant_eq_ok h
  rfl

theorem wrongDraft_ne_ok {α : Type} (d : Draft) (wanted : String) (a : α) : wrongDraft d wanted ≠ .ok a := by
  intro h
  unfold wrongDraft at h
  split at h <;> cases h

theorem written_of_stmtEntries {variant : Option (Variant Tree.Stmt)} {read : List (String × Json.Value)}
    {es : List (Key × Draft)} {t : Tree.Stmt} (h : stmtEntries variant read es = .ok t) : ∀ e ∈ es, e.2.Written := by
  induction es generalizing variant read with
  | nil => simp
  | cons e es ih =>
    obtain ⟨key, d⟩ := e
    cases key with
    | error fault => cases h
    | ok key =>
      rw [List.forall_mem_cons]
      by_cases hkey : key = tagKey
      · cases variant with
        | some variant =>
          rw [stmtEntries, if_pos hkey] at h
          cases h
        | none =>
          rw [stmtEntries, if_pos hkey] at h
          obtain ⟨v, hv, h⟩ := bind_eq_ok.1 h
          exact ⟨written_of_stmtVariant hv, ih h⟩
      · rw [stmtEntries.eq_def] at h
        simp only [if_neg hkey] at h
        obtain ⟨v, hv, h⟩ := bind_eq_ok.1 h
        exact ⟨written_of_value (ofFault_eq_ok hv), ih h⟩

theorem written_of_stmt {d : Draft} {t : Tree.Stmt} (h : stmt d = .ok t) : d.Written := by
  unfold stmt at h
  split at h
  · exact Draft.written_entries.2 (written_of_stmtEntries h)
  · cases h
  · rename_i d ds
    obtain ⟨v, hv, h⟩ := bind_eq_ok.1 h
    obtain ⟨vs, hvs, -⟩ := bind_eq_ok.1 h
    rw [Draft.written_items, List.forall_mem_cons, Json.drafts_of_values ds (ofFault_eq_ok hvs)]
    refine ⟨written_of_stmtVariant hv, fun d hd => ?_⟩
    obtain ⟨v, -, rfl⟩ := List.mem_map.1 hd
    exact Json.written_draft v
  · exact absurd h (wrongDraft_ne_ok _ _ _)

theorem written_of_body {d : Draft} {ts : List Tree.Stmt} (h : body d = .ok ts) : d.Written := by
  unfold body at h
  split at h
  · rename_i ds
    rw [Draft.written_items]
    induction ds generalizing ts with
    | nil => simp
    | cons d ds ih =>
      rw [List.mapM_cons] at h
      obtain ⟨t, ht, h⟩ := bind_eq_ok.1 h
      obtain ⟨ts', hts, -⟩ := bind_eq_ok.1 h
      exact List.forall_mem_cons.2 ⟨written_of_stmt ht, ih hts⟩
  · exact absurd h (wrongDraft_ne_ok _ _ _)

theorem written_of_programEntries {read : Option (List Tree.Stmt)} {es : List (Key × Draft)} {p : Tree.Program}
    (h : programEntries read es = .ok p) : ∀ e ∈ es, e.2.Written := by
  induction es generalizing read with
  | nil => simp
  | cons e es ih =>
    obtain ⟨key, d⟩ := e
    cases key with
    | error fault => cases h
    | ok key =>
      rw [List.forall_mem_cons]
      by_cases hkey : key = "body"
      · cases read with
        | some b =>
          rw [programEntries, if_pos hkey] at h
          cases h
        | none =>
          rw [programEntries, if_pos hkey] at h
          obtain ⟨b, hb, h⟩ := bind_eq_ok.1 h
          exact ⟨written_of_body hb, ih h⟩
      · rw [programEntries.eq_def] at h
        simp only [if_neg hkey] at h
        obtain ⟨_, hskip, h⟩ := bind_eq_ok.1 h
        exact ⟨ofFault_eq_ok hskip, ih h⟩

theorem written_of_program {d : Draft} {p : Tree.Program} (h : program d = .ok p) : d.Written := by
  unfold program at h
  split at h
  · exact Draft.written_entries.2 (written_of_programEntries h)
  · cases h
  · obtain ⟨b, hb, h⟩ := bind_eq_ok.1 h
    split at h
    · rw [Draft.written_items, List.forall_mem_singleton]
      exact written_of_body hb
    · cases h
    · cases h
  · exact absurd h (wrongDraft_ne_ok _ _ _)

theorem program_draftOf (r : Except Json.Fault Json.Number) (p : Tree.Program) : program (Json.draftOf r) ≠ .ok p := by
  cases r with
  | error fault => exact wrongDraft_ne_ok (.void fault) programShape p
  | ok n => exact wrongDraft_ne_ok (.number n) programShape p

/-- After a text that is read as a program the reader stands behind a value, with nothing open around it. -/
theorem run_of_parse {text : String} {p : Tree.Program} (h : parse text = .ok p) :
    ∃ v, Json.start.run text.toList = .reading (.after v) [] ∧ program v = .ok p := by
  have hdocument : document (Json.start.run text.toList).finish = .ok p := h
  obtain ⟨q, hq, hend⟩ := bind_eq_ok.1 hdocument
  have hsurplus : (Json.start.run text.toList).finish.surplus = false ∧ q = p := by
    split at hend
    · cases hend
    · rename_i hnone
      cases hend
      exact ⟨by simpa using hnone, rfl⟩
  obtain ⟨hsurplus, rfl⟩ := hsurplus
  have hwhole : ¬ (Json.start.run text.toList).finish.Stopped := by
    rintro (hmore | hbroken)
    · rw [hsurplus] at hmore
      cases hmore
    · exact hbroken (written_of_program hq)
  have hsound : (Json.start.run text.toList).Sound := (State.sound_reading _ _).run _
  rcases hsound.finish hwhole with ⟨v, hv⟩ | ⟨read, -, hroot⟩
  · rw [hv] at hq
    exact ⟨v, hv, hq⟩
  · rw [hroot] at hq
    exact absurd hq (program_draftOf _ _)

theorem parse_append {text : String} {v : Draft} (h : Json.start.run text.toList = .reading (.after v) [])
    (s : String) : parse (text ++ s) = document ((State.reading (.after v) []).run s.toList).finish := by
  have hread : Json.read (text ++ s) = (Json.start.run (text.toList ++ s.toList)).finish := by
    rw [← String.toList_append]
    rfl
  rw [parse, hread, State.run_append, h]

end Reading

open Reading

theorem readProgram_eq_ok {text : String} {p : Tree.Program} : readProgram text = .ok p ↔ parse text = .ok p :=
  Lowering.mapError_eq_ok

/-- A text that is read as a program is one whole document: with blanks after it, it is the same program, and with
anything else after it, it is refused as malformed. So a text that goes on from it and is read as a program goes on
with blanks, and is the same program. -/
theorem readProgram_append {text : String} {p : Tree.Program} (h : readProgram text = .ok p) :
    (∀ s : String,
      ((∀ c ∈ s.toList, c ∈ [' ', '\t', '\n', '\r']) → readProgram (text ++ s) = .ok p) ∧
      ((∃ c ∈ s.toList, c ∉ [' ', '\t', '\n', '\r']) →
        ∃ d, readProgram (text ++ s) = .error d ∧ d.header = "malformed syntax tree")) ∧
    ∀ (other : String) (q : Tree.Program), readProgram other = .ok q → text.toList <+: other.toList →
      q = p ∧ ∃ s : String, other = text ++ s ∧ ∀ c ∈ s.toList, c ∈ [' ', '\t', '\n', '\r'] := by
  obtain ⟨v, hv, hp⟩ := run_of_parse (readProgram_eq_ok.1 h)
  have hblank (s : String) (hs : ∀ c ∈ s.toList, c ∈ [' ', '\t', '\n', '\r']) : readProgram (text ++ s) = .ok p := by
    rw [readProgram_eq_ok, parse_append hv, (Json.waits_after v).run hs]
    exact Lowering.bind_eq_ok.2 ⟨p, hp, rfl⟩
  have hmore (s : String) (hs : ∃ c ∈ s.toList, c ∉ [' ', '\t', '\n', '\r']) :
      ∃ d, readProgram (text ++ s) = .error d ∧ d.header = "malformed syntax tree" := by
    have hnot : s.toList ∉ Json.blanks := by
      obtain ⟨c, hc, hother⟩ := hs
      exact fun hall => hother (hall c hc)
    have hrefused : parse (text ++ s) = .error (.notJson .trailingText) := by
      rw [parse_append hv, Json.run_surplus v hnot]
      exact bind_eq_error.2 (.inr ⟨p, hp, rfl⟩)
    exact ⟨_, readProgram_of_error hrefused, header_of_none (unknownNode?_fault .trailingText)⟩
  refine ⟨fun s => ⟨hblank s, hmore s⟩, ?_⟩
  rintro other q hother ⟨cs, hcs⟩
  obtain rfl : other = text ++ String.ofList cs := by
    apply String.toList_inj.1
    simp [← hcs]
  by_cases hall : ∀ c ∈ (String.ofList cs).toList, c ∈ [' ', '\t', '\n', '\r']
  · exact ⟨Except.ok.inj (hother.symm.trans (hblank _ hall)), _, rfl, hall⟩
  · obtain ⟨d, hd, -⟩ := hmore (String.ofList cs) (by simpa using hall)
    cases hother.symm.trans hd

/-- A program of one statement, which is a list of two entries. -/
def terse : String := "[[[\"ExpressionStatement\",[\"Identifier\",\"x\"]]]]"

/-- Two blanks after it change nothing, and one more bracket is one too many. -/
theorem readProgram_append_terse :
    ∃ p, readProgram terse = .ok p ∧ p.body.length = 1 ∧ readProgram (terse ++ "\r\n") = .ok p ∧
      (∃ d, readProgram (terse ++ " ]") = .error d ∧ d.header = "malformed syntax tree") ∧
      ∃ s : String, terse ++ "\t" = terse ++ s ∧ ∀ c ∈ s.toList, c ∈ [' ', '\t', '\n', '\r'] := by
  have hread : (readProgram terse).toOption.map (·.body.length) = some 1 := by decide +kernel
  obtain ⟨p, hp, hlength⟩ := Option.map_eq_some_iff.1 hread
  have hp : readProgram terse = .ok p := Lowering.toOption_eq_some.1 hp
  obtain ⟨hmore, hother⟩ := readProgram_append hp
  have htab : readProgram (terse ++ "\t") = .ok p := (hmore "\t").1 (by simp)
  exact ⟨p, hp, hlength, (hmore "\r\n").1 (by simp), (hmore " ]").2 ⟨']', by simp⟩,
    (hother _ p htab ⟨['\t'], by simp⟩).2⟩

end TreeScript
