/-
  TreeScript.Text.Cut — a text cut at every occurrence of one character.

  Nothing but the marks is lost (`intercalate_cut`), and all of them are gone
  (`not_mem_of_mem_cut`).
-/

namespace TreeScript.Text

/-- The pieces between the occurrences of `mark`: one more than there are occurrences. -/
def cut (mark : Char) : List Char → List (List Char)
  | [] => [[]]
  | c :: cs =>
    if c = mark then [] :: cut mark cs
    else
      match cut mark cs with
      | p :: ps => (c :: p) :: ps
      | [] => [[c]]

theorem cut_ne_nil (mark : Char) (cs : List Char) : cut mark cs ≠ [] := by
  cases cs with
  | nil => simp [cut]
  | cons c cs =>
    simp only [cut]
    split
    · simp
    · split <;> simp

/-- Joined by the mark again, the pieces are the text. -/
theorem intercalate_cut (mark : Char) (cs : List Char) : List.intercalate [mark] (cut mark cs) = cs := by
  induction cs with
  | nil => rfl
  | cons c cs ih =>
    obtain ⟨p, ps, hp⟩ := List.exists_cons_of_ne_nil (cut_ne_nil mark cs)
    rw [hp] at ih
    by_cases h : c = mark
    · subst h
      simp only [cut, if_true, hp, List.intercalate_cons_cons, ih]
      rfl
    · simp only [cut, h, if_false, hp]
      cases ps with
      | nil => simpa [List.intercalate] using ih
      | cons q ps => simpa [List.intercalate] using ih

/-- No piece holds the mark. -/
theorem not_mem_of_mem_cut {mark : Char} {cs p : List Char} (h : p ∈ cut mark cs) : mark ∉ p := by
  induction cs generalizing p with
  | nil => simp_all [cut]
  | cons c cs ih =>
    obtain ⟨q, qs, hq⟩ := List.exists_cons_of_ne_nil (cut_ne_nil mark cs)
    by_cases hc : c = mark
    · simp only [cut, hc, if_true, List.mem_cons] at h
      rcases h with rfl | h
      · simp
      · exact ih h
    · simp only [cut, hc, if_false, hq, List.mem_cons] at h
      rcases h with rfl | h
      · have := ih (p := q) (by simp [hq])
        simp [this, Ne.symm hc]
      · exact ih (by simp [hq, h])

theorem cut_of_notMem {mark : Char} {p : List Char} (h : mark ∉ p) : cut mark p = [p] := by
  induction p with
  | nil => rfl
  | cons c p ih =>
    rw [List.mem_cons, not_or] at h
    have hc : c ≠ mark := fun e => h.1 e.symm
    simp [cut, hc, ih h.2]

theorem cut_append_mark (mark : Char) (cs ds : List Char) : cut mark (cs ++ mark :: ds) = cut mark cs ++ cut mark ds := by
  induction cs with
  | nil => simp [cut]
  | cons c cs ih =>
    obtain ⟨p, ps, hp⟩ := List.exists_cons_of_ne_nil (cut_ne_nil mark cs)
    by_cases hc : c = mark
    · simp [cut, hc, ih]
    · simp [cut, hc, ih, hp]

/-- Pieces that do not hold the mark are what their join is cut into. -/
theorem cut_intercalate {mark : Char} {ps : List (List Char)} (hne : ps ≠ []) (h : ∀ p ∈ ps, mark ∉ p) :
    cut mark (List.intercalate [mark] ps) = ps := by
  induction ps with
  | nil => exact absurd rfl hne
  | cons p ps ih =>
    have hp : mark ∉ p := h p List.mem_cons_self
    cases ps with
    | nil => simpa using cut_of_notMem hp
    | cons q ps =>
      have hrest := ih (List.cons_ne_nil q ps) fun p hp => h p (List.mem_cons_of_mem _ hp)
      rw [List.intercalate_cons_cons, List.append_assoc, List.singleton_append, cut_append_mark, cut_of_notMem hp, hrest]
      rfl

/-- A text before the first mark is put before the first piece. -/
theorem cut_append_left {mark : Char} {a cs p : List Char} {ps : List (List Char)} (ha : mark ∉ a)
    (h : cut mark cs = p :: ps) : cut mark (a ++ cs) = (a ++ p) :: ps := by
  induction a with
  | nil => exact h
  | cons c a ih =>
    rw [List.mem_cons, not_or] at ha
    have hc : c ≠ mark := fun e => ha.1 e.symm
    simp [cut, hc, ih ha.2]

/-- A text after the last mark is put after the last piece. -/
theorem cut_append_right {mark : Char} {b cs p : List Char} {ps : List (List Char)} (hb : mark ∉ b)
    (h : cut mark cs = ps ++ [p]) : cut mark (cs ++ b) = ps ++ [p ++ b] := by
  induction cs generalizing p ps with
  | nil =>
    rw [cut, ← List.nil_append [[]]] at h
    obtain ⟨rfl, hp⟩ := List.append_inj' h rfl
    cases hp
    exact cut_of_notMem hb
  | cons c cs ih =>
    by_cases hc : c = mark
    · rw [cut, if_pos hc] at h
      cases ps with
      | nil => exact absurd (List.cons.inj h).2 (cut_ne_nil mark cs)
      | cons r ps =>
        obtain ⟨hr, hcs⟩ := List.cons.inj h
        rw [List.cons_append, cut, if_pos hc, ih hcs, hr]
        rfl
    · obtain ⟨q, qs, hq⟩ := List.exists_cons_of_ne_nil (cut_ne_nil mark cs)
      simp only [cut, hc, if_false, hq] at h
      cases ps with
      | nil =>
        obtain ⟨hp, rfl⟩ := List.cons.inj h
        have hcut : cut mark (cs ++ b) = [] ++ [q ++ b] := ih hq
        simp [cut, hc, hcut, ← hp]
      | cons r ps =>
        obtain ⟨hr, rfl⟩ := List.cons.inj h
        have hcut : cut mark (cs ++ b) = (q :: ps) ++ [p ++ b] := ih hq
        simp [cut, hc, hcut, ← hr]

end TreeScript.Text
