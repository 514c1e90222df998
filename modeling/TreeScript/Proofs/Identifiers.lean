/-
  TreeScript.Proofs.Identifiers — names as bare keys have them, and the identifiers of JavaScript.

  What looks like a name is a letter first, then letters and numbers. JavaScript asks for the
  Unicode properties ID_Start and ID_Continue instead. How far the two are apart is computed
  on the tables, in one walk over two lists of ranges (`minus`), and so is known of all
  characters (`contains_of_minus`). What looks like a name is an identifier unless a
  character of the difference is in it (`isIdentifierName_iff`). In ASCII the two are the
  same.
-/

import TreeScript.Proofs.IdentifierTables
import TreeScript.Script.Identifier

namespace TreeScript

namespace Text

/-! ## Differences of ranges -/

/-- A number is in one of the ranges. -/
def InRanges (rs : List (Nat × Nat)) (k : Nat) : Prop := ∃ r ∈ rs, r.1 ≤ k ∧ k ≤ r.2

theorem inRanges_nil {k : Nat} : ¬ InRanges [] k := by
  intro h
  obtain ⟨r, hr, -⟩ := h
  cases hr

theorem inRanges_cons {r : Nat × Nat} {rs : List (Nat × Nat)} {k : Nat} :
    InRanges (r :: rs) k ↔ r.1 ≤ k ∧ k ≤ r.2 ∨ InRanges rs k := by
  show (∃ r' ∈ r :: rs, r'.1 ≤ k ∧ k ≤ r'.2) ↔ r.1 ≤ k ∧ k ≤ r.2 ∨ ∃ r' ∈ rs, r'.1 ≤ k ∧ k ≤ r'.2
  simp

theorem inRanges_append {rs ss : List (Nat × Nat)} {k : Nat} :
    InRanges (rs ++ ss) k ↔ InRanges rs k ∨ InRanges ss k := by
  induction rs with
  | nil => exact (or_iff_right inRanges_nil).symm
  | cons r rs ih => rw [List.cons_append, inRanges_cons, inRanges_cons, ih, or_assoc]

/-- Ranges one after the other, from a number on. -/
def ascends : Nat → List (Nat × Nat) → Bool
  | _, [] => true
  | n, r :: rs => decide (n ≤ r.1) && decide (r.1 ≤ r.2) && ascends (r.2 + 1) rs

/-- What of the ranges is below a number. -/
def below (a : Nat) : List (Nat × Nat) → List (Nat × Nat)
  | [] => []
  | r :: rs => if r.2 < a then r :: below a rs else if r.1 < a then [(r.1, a - 1)] else []

/-- What of the ranges is beyond a number. -/
def beyond (b : Nat) : List (Nat × Nat) → List (Nat × Nat)
  | [] => []
  | r :: rs => if r.2 ≤ b then beyond b rs else (max r.1 (b + 1), r.2) :: rs

/-- The first ranges without the second ones. -/
def minus : List (Nat × Nat) → List (Nat × Nat) → List (Nat × Nat)
  | rs, [] => rs
  | rs, s :: ss => below s.1 rs ++ minus (beyond s.2 rs) ss

section

variable {rs ss : List (Nat × Nat)} {n m k a b : Nat}

theorem ascends_cons {r : Nat × Nat} :
    ascends n (r :: rs) = true ↔ n ≤ r.1 ∧ r.1 ≤ r.2 ∧ ascends (r.2 + 1) rs = true := by
  show (decide (n ≤ r.1) && decide (r.1 ≤ r.2) && ascends (r.2 + 1) rs) = true ↔ _
  rw [Bool.and_eq_true, Bool.and_eq_true, decide_eq_true_iff, decide_eq_true_iff, and_assoc]

theorem below_cons {r : Nat × Nat} : below a (r :: rs) =
    if r.2 < a then r :: below a rs else if r.1 < a then [(r.1, a - 1)] else [] := rfl

theorem beyond_cons {r : Nat × Nat} : beyond b (r :: rs) =
    if r.2 ≤ b then beyond b rs else (max r.1 (b + 1), r.2) :: rs := rfl

theorem minus_cons {s : Nat × Nat} : minus rs (s :: ss) = below s.1 rs ++ minus (beyond s.2 rs) ss := rfl

theorem InRanges.ge (h : InRanges rs k) (hrs : ascends n rs = true) : n ≤ k := by
  induction rs generalizing n with
  | nil => exact absurd h inRanges_nil
  | cons r rs ih =>
    rw [ascends_cons] at hrs
    rcases inRanges_cons.1 h with hr | hmore
    · omega
    · have := ih hmore hrs.2.2
      omega

theorem ascends_mono (hrs : ascends n rs = true) (h : m ≤ n) : ascends m rs = true := by
  cases rs with
  | nil => rfl
  | cons r rs =>
    rw [ascends_cons] at hrs ⊢
    exact ⟨by omega, hrs.2⟩

theorem inRanges_below (hrs : ascends n rs = true) : InRanges (below a rs) k ↔ InRanges rs k ∧ k < a := by
  induction rs generalizing n with
  | nil => exact (iff_false_left inRanges_nil).2 fun h => inRanges_nil h.1
  | cons r rs ih =>
    rw [ascends_cons] at hrs
    have hlater : InRanges rs k → r.2 < k := fun h => h.ge hrs.2.2
    rw [below_cons]
    by_cases hin : r.2 < a
    · rw [if_pos hin, inRanges_cons, inRanges_cons, ih hrs.2.2]
      constructor
      · intro h
        rcases h with hr | hmore
        · exact ⟨.inl hr, by omega⟩
        · exact ⟨.inr hmore.1, hmore.2⟩
      · intro h
        exact h.1.imp id fun hmore => ⟨hmore, h.2⟩
    · -- nothing after this range is below the number
      have hfirst : InRanges (r :: rs) k ∧ k < a ↔ r.1 ≤ k ∧ k < a := by
        rw [inRanges_cons]
        constructor
        · intro h
          rcases h.1 with hr | hmore
          · exact ⟨hr.1, h.2⟩
          · have := hlater hmore
            omega
        · intro h
          exact ⟨.inl ⟨h.1, by omega⟩, h.2⟩
      rw [if_neg hin, hfirst]
      by_cases hcut : r.1 < a
      · rw [if_pos hcut, inRanges_cons, or_iff_left inRanges_nil]
        omega
      · rw [if_neg hcut, iff_false_left inRanges_nil]
        omega

theorem inRanges_beyond (hrs : ascends n rs = true) : InRanges (beyond b rs) k ↔ InRanges rs k ∧ b < k := by
  induction rs generalizing n with
  | nil => exact (iff_false_left inRanges_nil).2 fun h => inRanges_nil h.1
  | cons r rs ih =>
    rw [ascends_cons] at hrs
    have hlater : InRanges rs k → r.2 < k := fun h => h.ge hrs.2.2
    rw [beyond_cons]
    by_cases hout : r.2 ≤ b
    · rw [if_pos hout, ih hrs.2.2, inRanges_cons]
      constructor
      · intro h
        exact ⟨.inr h.1, h.2⟩
      · intro h
        exact ⟨h.1.resolve_left (by omega), h.2⟩
    · rw [if_neg hout, inRanges_cons, inRanges_cons]
      constructor
      · intro h
        rcases h with hr | hmore
        · exact ⟨.inl ⟨by omega, hr.2⟩, by omega⟩
        · have := hlater hmore
          exact ⟨.inr hmore, by omega⟩
      · intro h
        rcases h.1 with hr | hmore
        · exact .inl ⟨by omega, hr.2⟩
        · exact .inr hmore

theorem ascends_beyond (hrs : ascends n rs = true) : ascends n (beyond b rs) = true := by
  induction rs generalizing n with
  | nil => rfl
  | cons r rs ih =>
    rw [ascends_cons] at hrs
    rw [beyond_cons]
    by_cases hout : r.2 ≤ b
    · rw [if_pos hout]
      exact ascends_mono (ih hrs.2.2) (by omega)
    · rw [if_neg hout, ascends_cons]
      exact ⟨by omega, by omega, hrs.2.2⟩

theorem inRanges_minus (hrs : ascends n rs = true) (hss : ascends m ss = true) :
    InRanges (minus rs ss) k ↔ InRanges rs k ∧ ¬ InRanges ss k := by
  -- A number before the first range to go is before all others too; one after it is for the rest of the walk.
  induction ss generalizing rs m with
  | nil => exact (and_iff_left inRanges_nil).symm
  | cons s ss ih =>
    rw [ascends_cons] at hss
    have hlater : InRanges ss k → s.2 < k := fun h => h.ge hss.2.2
    rw [minus_cons, inRanges_append, inRanges_below hrs, ih (ascends_beyond hrs) hss.2.2, inRanges_beyond hrs, inRanges_cons,
      not_or]
    constructor
    · intro h
      rcases h with ⟨hk, hbefore⟩ | ⟨⟨hk, hafter⟩, hnot⟩
      · refine ⟨hk, by omega, fun hmore => ?_⟩
        have := hlater hmore
        omega
      · exact ⟨hk, by omega, hnot⟩
    · intro h
      obtain ⟨hk, houtside, hnot⟩ := h
      by_cases hbefore : k < s.1
      · exact .inl ⟨hk, hbefore⟩
      · exact .inr ⟨⟨hk, by omega⟩, hnot⟩

end

/-- A table that is the difference of two others holds the characters that only the first has. -/
theorem contains_of_minus {s t u : CharSet} (hs : ascends 0 s.ranges = true) (ht : ascends 0 t.ranges = true)
    (h : minus s.ranges t.ranges = u.ranges) (c : Char) :
    u.contains c = true ↔ s.contains c = true ∧ t.contains c = false := by
  have hu : u.contains c = true ↔ InRanges (minus s.ranges t.ranges) c.toNat := by
    rw [h]
    exact u.contains_iff c
  rw [hu, inRanges_minus hs ht, s.contains_iff, ← Bool.not_eq_true, t.contains_iff]
  rfl

/-- The tables are in order, the last three are differences of the others, and identifiers can go on with all that
they can begin with. -/
theorem tables_compared :
    (ascends 0 alphabetic.ranges = true ∧ ascends 0 numeric.ranges = true ∧ ascends 0 idStart.ranges = true ∧
      ascends 0 idContinue.ranges = true) ∧
    minus alphabetic.ranges idStart.ranges = nonStarting.ranges ∧
    minus alphabetic.ranges idContinue.ranges = strayLetters.ranges ∧
    minus numeric.ranges idContinue.ranges = strayNumbers.ranges ∧
    minus idStart.ranges idContinue.ranges = [] := by
  decide +kernel

theorem nonStarting_iff (c : Char) :
    nonStarting.contains c = true ↔ alphabetic.contains c = true ∧ idStart.contains c = false := by
  obtain ⟨⟨halphabetic, -, hstart, -⟩, hminus, -⟩ := tables_compared
  exact contains_of_minus halphabetic hstart hminus c

theorem strayLetters_iff (c : Char) :
    strayLetters.contains c = true ↔ alphabetic.contains c = true ∧ idContinue.contains c = false := by
  obtain ⟨⟨halphabetic, -, -, hcontinue⟩, -, hminus, -⟩ := tables_compared
  exact contains_of_minus halphabetic hcontinue hminus c

theorem strayNumbers_iff (c : Char) :
    strayNumbers.contains c = true ↔ numeric.contains c = true ∧ idContinue.contains c = false := by
  obtain ⟨⟨-, hnumeric, -, hcontinue⟩, -, -, hminus, -⟩ := tables_compared
  exact contains_of_minus hnumeric hcontinue hminus c

theorem idContinue_of_idStart {c : Char} (h : idStart.contains c = true) : idContinue.contains c = true := by
  obtain ⟨⟨-, -, hstart, hcontinue⟩, -, -, -, hminus⟩ := tables_compared
  cases hc : idContinue.contains c with
  | true => rfl
  | false => cases (contains_of_minus (u := ⟨[]⟩) hstart hcontinue hminus c).2 ⟨h, hc⟩

end Text

namespace Script

/-- A Boolean test that no member of a list passes. -/
theorem forall_mem_eq_false {l : List Char} {p : Char → Bool} (h : l.any p = false) : ∀ c ∈ l, p c = false := by
  simpa using h

/-! ## Identifiers -/

/-- Whether an identifier of JavaScript can begin with a character. -/
def startsIdentifier (c : Char) : Bool := c = '$' || c = '_' || Text.idStart.contains c

/-- Whether one can go on with it; the last two join and separate letters and are not seen. -/
def continuesIdentifier (c : Char) : Bool :=
  c = '$' || Text.idContinue.contains c || c = '\u200c' || c = '\u200d'

def isIdentifierChars : List Char → Bool
  | [] => false
  | c :: rest => startsIdentifier c && rest.all continuesIdentifier

def isIdentifierName (s : String) : Bool := isIdentifierChars s.toList

/-- Whether a character stands where no identifier has it, though it is a letter or a number. -/
def hasStray : List Char → Bool
  | [] => false
  | c :: rest =>
    Text.nonStarting.contains c || rest.any fun c => Text.strayLetters.contains c || Text.strayNumbers.contains c

/-- The signs that JavaScript allows beside the tables are no letters and no numbers. -/
theorem signs_apart {c : Char} (h : c ∈ ['_', '$', '\u200c', '\u200d']) :
    Text.alphabetic.contains c = false ∧ Text.numeric.contains c = false := by
  have hsigns : ['_', '$', '\u200c', '\u200d'].any (fun c => Text.alphabetic.contains c || Text.numeric.contains c) =
      false := by decide +kernel
  exact Bool.or_eq_false_iff.1 (forall_mem_eq_false hsigns c h)

theorem startsIdentifier_iff {c : Char} (h : startsName c = true) :
    startsIdentifier c = true ↔ Text.nonStarting.contains c = false := by
  rw [← Bool.not_eq_true, Text.nonStarting_iff]
  simp only [startsName, startsIdentifier, Bool.or_eq_true, decide_eq_true_eq] at h ⊢
  by_cases hdollar : c = '$'
  · simp [hdollar, (signs_apart (c := '$') (by simp)).1]
  by_cases hlow : c = '_'
  · simp [hlow, (signs_apart (c := '_') (by simp)).1]
  have halphabetic : Text.alphabetic.contains c = true := h.resolve_left (by simp [hdollar, hlow])
  simp [hdollar, hlow, halphabetic]

theorem continuesIdentifier_iff {c : Char} (h : continuesName c = true) :
    continuesIdentifier c = true ↔ Text.strayLetters.contains c = false ∧ Text.strayNumbers.contains c = false := by
  have hlow : Text.idContinue.contains '_' = true := rfl
  rw [← Bool.not_eq_true, ← Bool.not_eq_true, Text.strayLetters_iff, Text.strayNumbers_iff]
  by_cases hcontinue : Text.idContinue.contains c = true
  · simp [continuesIdentifier, hcontinue]
  simp only [Bool.not_eq_true] at hcontinue
  by_cases hmember : c ∈ ['$', '\u200c', '\u200d']
  · have hidentifier : continuesIdentifier c = true := by
      simp only [List.mem_cons, List.not_mem_nil, or_false] at hmember
      rcases hmember with rfl | rfl | rfl <;> simp [continuesIdentifier]
    have hapart := signs_apart (List.mem_cons_of_mem _ hmember)
    simp [hidentifier, hapart]
  · have hnot : continuesIdentifier c = false := by
      simp only [List.mem_cons, List.not_mem_nil, or_false, not_or] at hmember
      simp [continuesIdentifier, hcontinue, hmember]
    have hname : Text.alphabetic.contains c = true ∨ Text.numeric.contains c = true := by
      simp only [continuesName, startsName, Bool.or_eq_true, decide_eq_true_eq] at h
      rcases h with ((rfl | rfl) | halphabetic) | hnumeric
      · rw [hlow] at hcontinue
        cases hcontinue
      · simp at hmember
      · exact .inl halphabetic
      · exact .inr hnumeric
    simp only [hnot, hcontinue, and_true, Bool.false_eq_true, false_iff]
    rcases hname with halphabetic | hnumeric
    · simp [halphabetic]
    · simp [hnumeric]

/-- A key that looks like a name is an identifier unless a stray character is in it. -/
theorem isIdentifierName_iff {key : String} (h : isName key = true) :
    isIdentifierName key = true ↔ hasStray key.toList = false := by
  unfold isIdentifierName
  unfold isName at h
  cases hchars : key.toList with
  | nil =>
    rw [hchars] at h
    cases h
  | cons c rest =>
    rw [hchars] at h
    simp only [isNameChars, Bool.and_eq_true, List.all_eq_true] at h
    simp only [isIdentifierChars, hasStray, Bool.and_eq_true, List.all_eq_true, Bool.or_eq_false_iff,
      List.any_eq_false, Bool.or_eq_true, not_or, Bool.not_eq_true]
    rw [startsIdentifier_iff h.1]
    exact and_congr_right fun _ => forall₂_congr fun d hd => continuesIdentifier_iff (h.2 d hd)

theorem isIdentifierName_eq {name : String} (h : isName name = true) : isIdentifierName name = !hasStray name.toList := by
  rw [Bool.eq_iff_iff, isIdentifierName_iff h, Bool.not_eq_true']

/-- Whether none of some names has a stray character. -/
def unstrayed (names : List String) : Bool := names.all fun name => !hasStray name.toList

@[simp] theorem unstrayed_nil : unstrayed [] = true := rfl

@[simp] theorem unstrayed_cons (name : String) (names : List String) :
    unstrayed (name :: names) = (!hasStray name.toList && unstrayed names) := rfl

@[simp] theorem unstrayed_append (names names' : List String) :
    unstrayed (names ++ names') = (unstrayed names && unstrayed names') := List.all_append

theorem continuesIdentifier_of_starts {c : Char} (h : startsIdentifier c = true) : continuesIdentifier c = true := by
  simp only [startsIdentifier, Bool.or_eq_true, decide_eq_true_eq] at h
  rcases h with (rfl | rfl) | h
  · rfl
  · rfl
  · simp [continuesIdentifier, Text.idContinue_of_idStart h]

/-! ## ASCII -/

/-- Ranges that begin above a character do not contain it. -/
theorem contains_eq_of_lt {set : Text.CharSet} {first rest : List (Nat × Nat)} (hset : set.ranges = first ++ rest)
    {b : Nat} (hrest : rest.all (b ≤ ·.1) = true) {c : Char} (h : c.toNat < b) :
    set.contains c = Text.CharSet.contains ⟨first⟩ c := by
  have hnone : rest.any (fun r => decide (r.1 ≤ c.toNat) && decide (c.toNat ≤ r.2)) = false := by
    rw [List.any_eq_false]
    intro r hr
    have hle : b ≤ r.1 := of_decide_eq_true (List.all_eq_true.1 hrest r hr)
    simp only [Bool.and_eq_true, decide_eq_true_eq]
    omega
  rw [Text.CharSet.contains, hset, List.any_append, hnone, Bool.or_false, Text.CharSet.contains]

/-- Whether a character is ASCII and one that names start with. -/
def startsAscii (c : Char) : Bool := c = '_' || c = '$' || Text.CharSet.contains ⟨[(0x41, 0x5A), (0x61, 0x7A)]⟩ c

def continuesAscii (c : Char) : Bool := startsAscii c || Text.CharSet.contains ⟨[(0x30, 0x39)]⟩ c

theorem startsName_of_lt {c : Char} (h : c.toNat < 0x80) : startsName c = startsAscii c := by
  have hletters : Text.alphabetic.ranges = [(0x41, 0x5A), (0x61, 0x7A)] ++ Text.alphabetic.ranges.drop 2 := rfl
  have hrest : (Text.alphabetic.ranges.drop 2).all (0x80 ≤ ·.1) = true := by decide +kernel
  rw [startsName, contains_eq_of_lt hletters hrest h, startsAscii]

theorem continuesName_of_lt {c : Char} (h : c.toNat < 0x80) : continuesName c = continuesAscii c := by
  have hdigits : Text.numeric.ranges = [(0x30, 0x39)] ++ Text.numeric.ranges.drop 1 := rfl
  have hrest : (Text.numeric.ranges.drop 1).all (0x80 ≤ ·.1) = true := by decide +kernel
  rw [continuesName, startsName_of_lt h, contains_eq_of_lt hdigits hrest h, continuesAscii]

theorem startsIdentifier_of_lt {c : Char} (h : c.toNat < 0x80) : startsIdentifier c = startsAscii c := by
  have hletters : Text.idStart.ranges = [(0x41, 0x5A), (0x61, 0x7A)] ++ Text.idStart.ranges.drop 2 := rfl
  have hrest : (Text.idStart.ranges.drop 2).all (0x80 ≤ ·.1) = true := by decide +kernel
  rw [startsIdentifier, contains_eq_of_lt hletters hrest h, startsAscii, Bool.or_comm (decide (c = '$'))]

theorem continuesIdentifier_of_lt {c : Char} (h : c.toNat < 0x80) : continuesIdentifier c = continuesAscii c := by
  have hfirst : Text.idContinue.ranges =
      [(0x30, 0x39), (0x41, 0x5A), (0x5F, 0x5F), (0x61, 0x7A)] ++ Text.idContinue.ranges.drop 4 := rfl
  have hrest : (Text.idContinue.ranges.drop 4).all (0x80 ≤ ·.1) = true := by decide +kernel
  have hjoiners : c ≠ '\u200c' ∧ c ≠ '\u200d' := by
    constructor
    · rintro rfl
      exact absurd h (by decide)
    · rintro rfl
      exact absurd h (by decide)
  have hlow : c = '_' ↔ 0x5F ≤ c.toNat ∧ c.toNat ≤ 0x5F := by
    rw [← Nat.le_antisymm_iff, eq_comm (a := 0x5F), ← Char.toNat_inj]
    rfl
  rw [continuesIdentifier, contains_eq_of_lt hfirst hrest h, continuesAscii, startsAscii, Bool.eq_iff_iff]
  simp only [Text.CharSet.contains, List.any_cons, List.any_nil, Bool.or_false, Bool.or_eq_true, Bool.and_eq_true,
    decide_eq_true_eq, hjoiners, hlow, or_false]
  grind

/-- A test that agrees with another one on ASCII, at characters that do not pass it. -/
theorem forall_mem_ascii {p q : Char → Bool} (hpq : ∀ {c : Char}, c.toNat < 0x80 → p c = q c) {l : List Char}
    (h : l.all (fun c => c.toNat < 0x80 && !q c) = true) : ∀ c ∈ l, p c = false := by
  intro c hc
  have hplain := List.all_eq_true.1 h c hc
  simp only [Bool.and_eq_true, decide_eq_true_eq, Bool.not_eq_true'] at hplain
  rw [hpq hplain.1, hplain.2]

/-- A character of a name that no identifier has in its place is not in ASCII. -/
theorem le_of_stray {c : Char} (hname : continuesName c = true) (h : continuesIdentifier c = false) : 0x80 ≤ c.toNat := by
  refine Nat.le_of_not_lt fun hlt => ?_
  rw [continuesName_of_lt hlt, ← continuesIdentifier_of_lt hlt, h] at hname
  cases hname

theorem le_of_stray_first {c : Char} (hname : startsName c = true) (h : startsIdentifier c = false) :
    0x80 ≤ c.toNat := by
  refine Nat.le_of_not_lt fun hlt => ?_
  rw [startsName_of_lt hlt, ← startsIdentifier_of_lt hlt, h] at hname
  cases hname

end Script

end TreeScript
