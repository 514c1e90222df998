/-
  TreeScript.Proofs.RoundTrip — reading undoes writing.

  A text that spells a program is read as that program (`readProgram_spelled`). The reader
  takes apart the program and its statements from a draft, before it knows that what
  follows is JSON at all; the drafts of values give it what `Decoding` says of the values.
-/

import TreeScript.Proofs.Decoding

namespace TreeScript

namespace Reading

open Json (Draft Key Value draftEntry)
open Lowering (bind_eq_ok)

/-! ## Statements -/

theorem stmtEntries_append {es : List (String × Value)} (hes : ∀ e ∈ es, e.1 ≠ tagKey)
    (variant : Option (Variant Tree.Stmt)) (read : List (String × Value)) (rest : List (Key × Draft)) :
    stmtEntries variant read (es.map draftEntry ++ rest) = stmtEntries variant (es.reverse ++ read) rest := by
  induction es generalizing read with
  | nil => rfl
  | cons e es ih =>
    have hfirst : stmtEntries variant read (draftEntry e :: (es.map draftEntry ++ rest)) =
        stmtEntries variant (e :: read) (es.map draftEntry ++ rest) := by
      rw [stmtEntries.eq_def]
      simp only [draftEntry, if_neg (hes e List.mem_cons_self), Json.value_draft]
      rfl
    rw [List.map_cons, List.cons_append, hfirst, List.reverse_cons, List.append_assoc]
    exact ih (fun e' he' => hes e' (List.mem_cons_of_mem e he')) (e :: read)

theorem Tagged.stmt {f : Form} {s : Tree.Stmt} (h : Tagged .stmt f s) {w : Value} (hw : Writes f w) :
    stmt w.draft = .ok s := by
  obtain ⟨tag, v, before, after, rfl, hv, hother, hfields⟩ := h w hw
  rw [List.forall_mem_append] at hother
  rw [Json.draft_entries, List.map_append, List.map_cons]
  show stmtEntries none [] (before.map draftEntry ++ (.ok tagKey, .text tag) :: after.map draftEntry) = _
  rw [stmtEntries_append hother.1, stmtEntries, if_pos rfl]
  have hvariant : stmtVariant (.text tag) = .ok v := by
    rw [stmtVariant, hv]
    rfl
  refine bind_eq_ok.2 ⟨v, hvariant, ?_⟩
  have hread : (after.reverse ++ (before.reverse ++ [])).reverse = before ++ after := by simp
  rw [← List.append_nil (after.map draftEntry), stmtEntries_append hother.2, stmtEntries, hread]
  show ofMismatch (fields v (.entries ((before ++ after).map meaningEntry))) = _
  rw [hfields]
  rfl

theorem mapM_stmt (ss : List Tree.Stmt) {vs : List Value} (h : List.Forall₂ Writes (Tree.Stmt.forms ss) vs) :
    (vs.map Value.draft).mapM stmt = .ok ss := by
  induction ss generalizing vs with
  | nil =>
    cases h
    rfl
  | cons s ss ih =>
    cases h with
    | cons hv hvs =>
      rw [List.map_cons, List.mapM_cons]
      exact bind_eq_ok.2 ⟨s, (tagged_stmt s).stmt hv, bind_eq_ok.2 ⟨ss, ih hvs, rfl⟩⟩

/-! ## Programs -/

/-- Entries that are passed over. -/
theorem programEntries_append {es : List (String × Value)} (hes : ∀ e ∈ es, e.1 ≠ "body" ∧ e.2.draft.skip = .ok ())
    (read : Option (List Tree.Stmt)) (rest : List (Key × Draft)) :
    programEntries read (es.map draftEntry ++ rest) = programEntries read rest := by
  induction es with
  | nil => rfl
  | cons e es ih =>
    obtain ⟨hkey, hskip⟩ := hes e List.mem_cons_self
    have hfirst : programEntries read (draftEntry e :: (es.map draftEntry ++ rest)) =
        programEntries read (es.map draftEntry ++ rest) := by
      rw [programEntries.eq_def]
      simp only [draftEntry, if_neg hkey, hskip]
      rfl
    rw [List.map_cons, List.cons_append, hfirst]
    exact ih fun e' he' => hes e' (List.mem_cons_of_mem e he')

/-- The entries of a program: its body, and perhaps a tag. -/
theorem entries_of_program {p : Tree.Program} {v : Value} (h : Writes p.form v) :
    ∃ vs before after, v = .entries (before ++ ("body", .items vs) :: after) ∧
      List.Forall₂ Writes (Tree.Stmt.forms p.body) vs ∧ ∀ e ∈ before ++ after, e = ("type", .text "Program") := by
  cases h with
  | object hes hperm =>
    cases hes with
    | omitted _ hes =>
      obtain ⟨_, _, rfl, hbody, hrest⟩ := entries_field hes
      cases hrest
      cases hbody with
      | @list _ vs hvs =>
        rw [List.perm_singleton.1 hperm.symm]
        exact ⟨vs, [], [], rfl, hvs, by simp⟩
    | written hname htag hes =>
      obtain ⟨_, _, rfl, hbody, hrest⟩ := entries_field hes
      cases hrest
      cases htag
      rcases hname with rfl | hname
      · cases hbody with
        | @list _ vs hvs =>
          obtain ⟨before, after, rfl, hsplit⟩ := exists_split_of_perm ((List.Perm.swap _ _ []).trans hperm)
          exact ⟨vs, before, after, rfl, hvs, fun e he => List.mem_singleton.1 (hsplit.symm.subset he)⟩
      · cases hname

theorem program_draft {p : Tree.Program} {v : Value} (h : Writes p.form v) : program v.draft = .ok p := by
  obtain ⟨vs, before, after, rfl, hvs, hother⟩ := entries_of_program h
  have hskip : ∀ e ∈ before ++ after, e.1 ≠ "body" ∧ e.2.draft.skip = .ok () := by
    intro e he
    rw [hother e he]
    exact ⟨by decide, rfl⟩
  rw [List.forall_mem_append] at hskip
  have hbody : body (Value.items vs).draft = .ok p.body := by
    rw [Json.draft_items]
    exact mapM_stmt p.body hvs
  rw [Json.draft_entries, List.map_append, List.map_cons]
  show programEntries none (before.map draftEntry ++ (.ok "body", (Value.items vs).draft) :: after.map draftEntry) = _
  rw [programEntries_append hskip.1, programEntries, if_pos rfl]
  refine bind_eq_ok.2 ⟨p.body, hbody, ?_⟩
  rw [← List.append_nil (after.map draftEntry), programEntries_append hskip.2]
  rfl

end Reading

/-- Reading undoes writing. A program whose numbers are integers of magnitude at most `2 ^ 53` can be written, and
every text that spells it is read as that program. -/
theorem readProgram_spelled {p : Tree.Program} (h : Tree.WholeNumbers (Tree.Stmt.nodesAll p.body)) :
    (∃ text, p.Spelled text) ∧ ∀ text, p.Spelled text → readProgram text = .ok p := by
  refine ⟨p.exists_spelled h, ?_⟩
  rintro text ⟨v, hv, htext⟩
  have hparse : Reading.parse text = .ok p := by
    rw [Reading.parse, Json.read_of_mem_texts htext]
    exact Lowering.bind_eq_ok.2 ⟨p, Reading.program_draft hv, rfl⟩
  exact Lowering.mapError_eq_ok.2 hparse

/-- A clause for minus zero with `-2 ^ 53` for its guard, and a string of characters that are escaped. -/
def edges : Tree.Program :=
  ⟨[.clause ⟨"f", [.literal (.number (.neg .zero)), .wildcard],
    some (.literal (.number (.ofInt (-9007199254740992)))), [.expr (.literal (.string "\"\\\x07𝄞"))]⟩]⟩

theorem readProgram_spelled_edges :
    Tree.WholeNumbers (Tree.Stmt.nodesAll edges.body) ∧ ∃ text, edges.Spelled text ∧ readProgram text = .ok edges := by
  have hnumbers : Tree.WholeNumbers (Tree.Stmt.nodesAll edges.body) := by
    intro x hx
    have hx : x = .neg .zero ∨ x = .ofInt (-9007199254740992) := by
      simpa [edges, Tree.Stmt.nodesAll, Tree.Stmt.inner, Tree.Clause.nodes, Tree.Pattern.nodes, Tree.Expr.nodes]
        using hx
    rcases hx with rfl | rfl
    · exact ⟨0, by decide, (Nat.zero_mul _).trans (Nat.zero_mul _).symm, by decide⟩
    · exact ⟨9007199254740992, by decide +kernel, by decide +kernel, by decide +kernel⟩
  obtain ⟨⟨text, htext⟩, hread⟩ := readProgram_spelled hnumbers
  exact ⟨hnumbers, text, htext, hread text htext⟩

end TreeScript
