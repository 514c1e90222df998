/-
  TreeScript.Proofs.Quoted — what of a text can still be seen where it is quoted.

  A quoted text has an escape in the place of some characters. Back-ticks and capitals are
  never escaped, and an escape begins with a backslash, so a text without one that the
  quoted text ends in is the end of the text itself (`suffix_of_quoted`).
-/

import TreeScript.Text.Cut
import TreeScript.Text.Escaped
import TreeScript.Text.Uppercase

namespace TreeScript.Text

/-! ## Tables with nothing in common -/

namespace CharSet

/-- Whether two rising lists of ranges have nothing in common: at each range of the first, those of the second that
end below it are left behind, and the next one begins above it. -/
def apart : List (Nat × Nat) → List (Nat × Nat) → Bool
  | [], _ => true
  | r :: rs, qs =>
    let ahead := qs.dropWhile fun q => decide (q.2 < r.1)
    (ahead.head?.all fun q => decide (r.2 < q.1)) && apart rs ahead

def rising (rs : List (Nat × Nat)) : Bool := (rs.zip rs.tail).all fun p => decide (p.1.1 ≤ p.2.1)

theorem pairwise_of_rising {rs : List (Nat × Nat)} (h : rising rs = true) : rs.Pairwise fun r q => r.1 ≤ q.1 := by
  induction rs with
  | nil => exact .nil
  | cons r rs ih =>
    cases rs with
    | nil => simp
    | cons q rs =>
      have hboth : (decide (r.1 ≤ q.1) && rising (q :: rs)) = true := h
      rw [Bool.and_eq_true, decide_eq_true_eq] at hboth
      have hrest := ih hboth.2
      refine .cons ?_ hrest
      intro x hx
      rcases List.mem_cons.1 hx with rfl | hx
      · exact hboth.1
      · exact Nat.le_trans hboth.1 (List.rel_of_pairwise_cons hrest hx)

theorem disjoint_of_apart {rs qs : List (Nat × Nat)} (hrs : rs.Pairwise fun r q => r.1 ≤ q.1)
    (hqs : qs.Pairwise fun r q => r.1 ≤ q.1) (h : apart rs qs = true) :
    ∀ r ∈ rs, ∀ q ∈ qs, r.2 < q.1 ∨ q.2 < r.1 := by
  induction rs generalizing qs with
  | nil => simp
  | cons r rs ih =>
    rw [apart, Bool.and_eq_true] at h
    obtain ⟨hnext, hrest⟩ := h
    have hahead := hqs.sublist (List.dropWhile_sublist fun q : Nat × Nat => decide (q.2 < r.1))
    intro x hx q hq
    rw [← @List.takeWhile_append_dropWhile _ (fun q : Nat × Nat => decide (q.2 < r.1)) qs, List.mem_append] at hq
    rcases hq with hq | hq
    · -- `q` ends below `r`, and so below all that follow
      have hbelow : q.2 < r.1 := of_decide_eq_true (List.all_eq_true.1 List.all_takeWhile q hq)
      rcases List.mem_cons.1 hx with rfl | hx
      · exact .inr hbelow
      · exact .inr (Nat.lt_of_lt_of_le hbelow (List.rel_of_pairwise_cons hrs hx))
    · rcases List.mem_cons.1 hx with rfl | hx
      · generalize qs.dropWhile (fun q => decide (q.2 < x.1)) = ahead at hnext hahead hq
        cases ahead with
        | nil => cases hq
        | cons q' ahead =>
          have habove : x.2 < q'.1 := of_decide_eq_true hnext
          rcases List.mem_cons.1 hq with rfl | hq
          · exact .inl habove
          · exact .inl (Nat.lt_of_lt_of_le habove (List.rel_of_pairwise_cons hahead hq))
      · exact ih hrs.of_cons hahead hrest x hx q hq

theorem contains_eq_false {s t : CharSet} (hs : rising s.ranges = true) (ht : rising t.ranges = true)
    (h : apart s.ranges t.ranges = true) {c : Char} (hc : s.contains c = true) : t.contains c = false := by
  rw [Bool.eq_false_iff]
  intro htc
  obtain ⟨r, hr, hle, hge⟩ := (contains_iff s c).1 hc
  obtain ⟨q, hq, hle', hge'⟩ := (contains_iff t c).1 htc
  have hapart := disjoint_of_apart (pairwise_of_rising hs) (pairwise_of_rising ht) h r hr q hq
  omega

end CharSet

/-! ## Escapes -/

/-- The characters that are written as a backslash and one more character, which is of these. -/
def escapeEnds : List Char := ['0', 't', 'r', 'n', '\\', '"']

/-- How a character can stand in a quoted text. -/
inductive Quotes (c : Char) : List Char → Prop
  | plain : c ≠ '\\' → Quotes c [c]
  | short {x : Char} : x ∈ escapeEnds → Quotes c ['\\', x]
  | long {ds : List Char} : '\x60' ∉ ds → Quotes c ('\\' :: 'u' :: '\x7b' :: (ds ++ ['\x7d']))

theorem tick_notMem_toDigits (n : Nat) : '\x60' ∉ Nat.toDigits 16 n := by
  have hdigit : ∀ k < 16, '\x60' ≠ Nat.digitChar k := by decide
  induction n using Nat.strongRecOn with
  | ind n ih =>
    by_cases hn : n < 16
    · rw [Nat.toDigits_of_lt_base hn, List.mem_singleton]
      exact hdigit n hn
    · rw [Nat.toDigits_of_base_le (by decide) (Nat.le_of_not_lt hn), List.mem_append, List.mem_singleton, not_or]
      exact ⟨ih (n / 16) (by omega), hdigit (n % 16) (Nat.mod_lt n (by decide))⟩

theorem quotes_escapedChar (c : Char) : Quotes c (escapedChar c) := by
  unfold escapedChar
  split
  · exact .short (by decide)
  split
  · exact .short (by decide)
  split
  · exact .short (by decide)
  split
  · exact .short (by decide)
  split
  · exact .short (by decide)
  · next hslash =>
    split
    · exact .short (by decide)
    split
    · exact .long (tick_notMem_toDigits c.toNat)
    · exact .plain hslash

/-- The characters with short escapes. -/
def shortlyEscaped : List Char := ['\x00', '\t', '\r', '\n', '\\', '"']

/-- Characters that have no escape, as a set apart from the tables that have one. -/
theorem escapedChar_of_contains {s : CharSet} (hs : CharSet.rising s.ranges = true)
    (hextend : CharSet.apart s.ranges graphemeExtend.ranges = true)
    (hprints : CharSet.apart s.ranges unprintable.ranges = true) {c : Char} (hc : s.contains c = true)
    (hshort : c ∉ shortlyEscaped) : escapedChar c = [c] := by
  have hne : ∀ d ∈ shortlyEscaped, c ≠ d := by
    rintro d hd rfl
    exact hshort hd
  have hextend := CharSet.contains_eq_false hs (by decide +kernel) hextend hc
  have hprints := CharSet.contains_eq_false hs (by decide +kernel) hprints hc
  unfold escapedChar
  rw [if_neg (hne _ (by decide)), if_neg (hne _ (by decide)), if_neg (hne _ (by decide)), if_neg (hne _ (by decide)),
    if_neg (hne _ (by decide)), if_neg (hne _ (by decide)), hextend, hprints]
  rfl

/-- Below the second block of letters no character but the first capitals is one. -/
theorem uppercase_eq_false {c : Char} (hc : CharSet.contains ⟨[(0x00, 0x40), (0x5B, 0xBF)]⟩ c = true) :
    uppercase.contains c = false :=
  CharSet.contains_eq_false (by decide) (by decide +kernel) (by decide +kernel) hc

theorem escapedChar_of_upper {c : Char} (hc : uppercase.contains c = true) : escapedChar c = [c] := by
  refine escapedChar_of_contains (by decide +kernel) (by decide +kernel) (by decide +kernel) hc ?_
  intro hshort
  have hlow : shortlyEscaped.all (CharSet.contains ⟨[(0x00, 0x40), (0x5B, 0xBF)]⟩) = true := by decide
  rw [uppercase_eq_false (List.all_eq_true.1 hlow c hshort)] at hc
  cases hc

theorem escapedChar_of_ascii {c : Char} (hc : CharSet.contains ⟨[(0x20, 0x7E)]⟩ c = true) (hshort : c ∉ shortlyEscaped) :
    escapedChar c = [c] :=
  escapedChar_of_contains (by decide) (by decide +kernel) (by decide +kernel) hc hshort

theorem escapedChar_tick : escapedChar '\x60' = ['\x60'] := escapedChar_of_ascii (by decide) (by decide)

theorem tick_notMem_escapedChar {c : Char} (hc : c ≠ '\x60') : '\x60' ∉ escapedChar c := by
  have h := quotes_escapedChar c
  generalize escapedChar c = q at h
  cases h with
  | plain => simpa using hc.symm
  | short hx =>
    rw [List.mem_cons, List.mem_singleton, not_or]
    refine ⟨by decide, ?_⟩
    rintro rfl
    exact absurd hx (by decide)
  | long hds => simp [hds]

/-! ## Texts -/

/-- Quoting goes piece by piece. -/
theorem cut_quoted (cs : List Char) :
    cut '\x60' (cs.flatMap escapedChar) = (cut '\x60' cs).map (List.flatMap escapedChar) := by
  induction cs with
  | nil => rfl
  | cons c cs ih =>
    rw [List.flatMap_cons]
    obtain ⟨p, ps, hp⟩ := List.exists_cons_of_ne_nil (cut_ne_nil '\x60' cs)
    by_cases hc : c = '\x60'
    · subst hc
      rw [escapedChar_tick, List.singleton_append, cut, if_pos rfl, ih, cut, if_pos rfl]
      rfl
    · rw [hp, List.map_cons] at ih
      rw [cut_append_left (tick_notMem_escapedChar hc) ih]
      simp [cut, hc, hp]

/-- A quoted text without a backslash has no escapes. -/
theorem quoted_eq_self {p : List Char} (h : '\\' ∉ p.flatMap escapedChar) : p.flatMap escapedChar = p := by
  induction p with
  | nil => rfl
  | cons c p ih =>
    rw [List.flatMap_cons, List.mem_append, not_or] at h
    have hquotes := quotes_escapedChar c
    rw [List.flatMap_cons, ih h.2]
    generalize escapedChar c = q at h hquotes
    cases hquotes with
    | plain => rfl
    | short => exact absurd List.mem_cons_self h.1
    | long => exact absurd List.mem_cons_self h.1

/-- What a quoted text ends in is the end of the text, if it has no part of an escape in it. -/
theorem suffix_of_quoted {s p : List Char} (hslash : '\\' ∉ s) (hbrace : '\x7d' ∉ s)
    (hhead : ∀ x ∈ escapeEnds, s.head? ≠ some x) (h : s <:+ p.flatMap escapedChar) : s <:+ p := by
  induction p with
  | nil => exact h
  | cons c p ih =>
    rw [List.flatMap_cons] at h
    by_cases hrest : s <:+ p.flatMap escapedChar
    · exact (ih hrest).trans (List.suffix_cons c p)
    -- `s` begins inside of what stands for `c`
    rcases List.suffix_or_suffix_of_suffix h (List.suffix_append _ _) with h' | ⟨t, rfl⟩
    · exact absurd h' hrest
    have ht : t <:+ escapedChar c := ((List.suffix_append_inj_of_length_eq rfl).1 h).1
    have hne : t ≠ [] := by
      rintro rfl
      exact hrest List.suffix_rfl
    obtain ⟨x, t, rfl⟩ := List.exists_cons_of_ne_nil hne
    rw [List.mem_append, not_or] at hslash hbrace
    have hquotes := quotes_escapedChar c
    generalize escapedChar c = q at ht hquotes
    cases hquotes with
    | plain =>
      rcases List.suffix_cons_iff.1 ht with heq | ht
      · rw [heq, quoted_eq_self hslash.2]
        exact List.suffix_rfl
      · cases List.suffix_nil.1 ht
    | @short y hy =>
      rcases List.suffix_cons_iff.1 ht with heq | ht
      · exact absurd (heq ▸ List.mem_cons_self) hslash.1
      · rcases List.suffix_cons_iff.1 ht with heq | ht
        · exact absurd (heq ▸ rfl) (hhead y hy)
        · cases List.suffix_nil.1 ht
    | @long ds _ =>
      have hlast : ['\x7d'] <:+ x :: t :=
        List.suffix_of_suffix_length_le (List.suffix_append ('\\' :: 'u' :: '\x7b' :: ds) ['\x7d']) ht (by simp)
      exact absurd (hlast.subset List.mem_cons_self) hbrace.1

end TreeScript.Text
