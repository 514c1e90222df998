/-
  TreeScript.Proofs.Headers — under which header a refusal is reported.

  The header is taken from the message, which is cut at its back-ticks. So what matters of
  a message are its pieces (`unknownNode?_eq`), and with them every back-tick of the input
  that the message shows. A tag that is no node's gets its own header only if it has no
  back-tick and does not end in the words that such a message begins with
  (`header_of_unknown_node`); and a word, or a string in the place of something else, is
  taken for a tag when its own pieces look like those of a message (`header_of_ordinary`).
-/

import TreeScript.Proofs.Quoted
import TreeScript.Proofs.Scanning
import TreeScript.Reading.Decoder

namespace TreeScript.Reading

open Text (cut cut_ne_nil cut_of_notMem cut_append_mark escapedChar)

/-! ## Messages by their pieces -/

/-- What a message about an unknown variant begins with. -/
def phrase : List Char := "unknown variant ".toList

/-- What stands before an unknown name. -/
def mark : List Char := phrase ++ ['\x60']

theorem mark_eq : "unknown variant \x60".toList = mark := by decide

theorem tick_notMem_phrase : '\x60' ∉ phrase := by decide

theorem cut_cons {p : List Char} (hp : '\x60' ∉ p) (cs : List Char) :
    cut '\x60' (p ++ '\x60' :: cs) = p :: cut '\x60' cs := by
  rw [cut_append_mark, cut_of_notMem hp, List.singleton_append]

/-- The mark ends in a back-tick, so it can only stand at the end of a piece. -/
theorem isPrefixOf_mark {p : List Char} (hp : '\x60' ∉ p) (cs : List Char) :
    mark.isPrefixOf (p ++ '\x60' :: cs) = true ↔ phrase = p := by
  rw [List.isPrefixOf_iff_prefix]
  constructor
  · rintro ⟨ds, h⟩
    rw [mark, List.append_assoc, List.singleton_append] at h
    have hcut := congrArg (cut '\x60') h
    rw [cut_cons tick_notMem_phrase, cut_cons hp] at hcut
    exact (List.cons.inj hcut).1
  · rintro rfl
    exact ⟨cs, by simp [mark]⟩

theorem not_isPrefixOf_mark {p : List Char} (hp : '\x60' ∉ p) : ¬ mark.isPrefixOf p = true := by
  intro h
  exact hp ((List.isPrefixOf_iff_prefix.1 h).subset (List.mem_append_right _ List.mem_cons_self))

theorem after?_append {p : List Char} (hp : '\x60' ∉ p) (cs : List Char) :
    after? mark (p ++ '\x60' :: cs) =
      if phrase <:+ p then some cs else after? mark cs := by
  induction p with
  | nil =>
    have hmark := mt (isPrefixOf_mark hp cs).1 (by decide)
    rw [List.nil_append] at hmark ⊢
    rw [after?, if_neg hmark, if_neg (by decide)]
  | cons c p ih =>
    have hmark := isPrefixOf_mark hp cs
    rw [List.cons_append] at hmark ⊢
    rw [after?]
    by_cases hc : phrase = c :: p
    · rw [if_pos (hmark.2 hc), if_pos (hc ▸ List.suffix_rfl), ← List.cons_append, ← hc]
      simp [mark]
    · rw [if_neg (mt hmark.1 hc), ih fun h => hp (List.mem_cons_of_mem c h)]
      simp [List.suffix_cons_iff, hc]

theorem after?_of_notMem {p : List Char} (hp : '\x60' ∉ p) : after? mark p = none := by
  induction p with
  | nil => rfl
  | cons c p ih =>
    rw [after?, if_neg (not_isPrefixOf_mark hp)]
    exact ih fun h => hp (List.mem_cons_of_mem c h)

theorem before_append {p : List Char} (hp : '\x60' ∉ p) (cs : List Char) :
    before mark (p ++ '\x60' :: cs) =
      if phrase <:+ p then p.take (p.length - phrase.length)
      else p ++ '\x60' :: before mark cs := by
  induction p with
  | nil =>
    have hmark := mt (isPrefixOf_mark hp cs).1 (by decide)
    rw [List.nil_append] at hmark ⊢
    rw [before, if_neg hmark, if_neg (by decide), List.nil_append]
  | cons c p ih =>
    have hmark := isPrefixOf_mark hp cs
    rw [List.cons_append] at hmark ⊢
    rw [before]
    by_cases hc : phrase = c :: p
    · rw [if_pos (hmark.2 hc), if_pos (hc ▸ List.suffix_rfl), hc, Nat.sub_self, List.take_zero]
    · rw [if_neg (mt hmark.1 hc), ih fun h => hp (List.mem_cons_of_mem c h)]
      by_cases h : phrase <:+ p
      · rw [if_pos h, if_pos (List.suffix_cons_iff.2 (.inr h)), List.length_cons, Nat.succ_sub h.length_le,
          List.take_succ_cons]
      · rw [if_neg h, if_neg (by simp [List.suffix_cons_iff, hc, h]), List.cons_append]

theorem before_of_notMem {p : List Char} (hp : '\x60' ∉ p) : before mark p = p := by
  induction p with
  | nil => rfl
  | cons c p ih => rw [before, if_neg (not_isPrefixOf_mark hp), ih fun h => hp (List.mem_cons_of_mem c h)]

/-- The name that pieces give, if they go on like those of a message about a node: two pieces in which the message
does not begin anew, and a capital. -/
def named? : List (List Char) → Option (List Char)
  | a :: b :: c :: _ => if ¬ phrase <:+ a ∧ ¬ phrase <:+ b ∧ startsUpper c = true then some a else none
  | _ => none

/-- The name of the unknown node that the pieces of a message report. -/
def nodeOf? : List (List Char) → Option (List Char)
  | p :: q :: ps => if phrase <:+ p then named? (q :: ps) else nodeOf? (q :: ps)
  | _ => none

/-- The first of three pieces, if the third begins with a capital. -/
def firstOfThree? : List (List Char) → Option (List Char)
  | a :: _ :: c :: _ => if startsUpper c then some a else none
  | _ => none

theorem unknownNode?_eq_bind (m : List Char) :
    unknownNode? m = (after? mark m).bind fun rest =>
      firstOfThree? (cut '\x60' (before mark rest)) := by
  rw [unknownNode?, mark_eq]
  cases after? mark m with
  | none => rfl
  | some rest =>
    rw [Option.map_some, Option.bind_some]
    rcases cut '\x60' (before mark rest) with _ | ⟨a, _ | ⟨b, _ | ⟨c, ps⟩⟩⟩ <;> rfl

/-- A message whose pieces are `ps`. -/
def joined (ps : List (List Char)) : List Char := List.intercalate ['\x60'] ps

theorem joined_singleton (p : List Char) : joined [p] = p := List.intercalate_singleton

theorem joined_cons (p q : List Char) (ps : List (List Char)) :
    joined (p :: q :: ps) = p ++ '\x60' :: joined (q :: ps) := by
  rw [joined, List.intercalate_cons_cons, List.append_assoc, List.singleton_append, joined]

theorem cut_before {p : List Char} (hp : '\x60' ∉ p) (q : List Char) (ps : List (List Char)) :
    cut '\x60' (before mark (joined (p :: q :: ps))) =
      if phrase <:+ p then [p.take (p.length - phrase.length)]
      else p :: cut '\x60' (before mark (joined (q :: ps))) := by
  rw [joined_cons, before_append hp]
  split
  · exact cut_of_notMem fun h => hp (List.mem_of_mem_take h)
  · exact cut_cons hp _

theorem cut_before_singleton {p : List Char} (hp : '\x60' ∉ p) :
    cut '\x60' (before mark (joined [p])) = [p] := by
  rw [joined_singleton, before_of_notMem hp, cut_of_notMem hp]

theorem startsUpper_append (p q : List Char) (h : startsUpper q = false) : startsUpper (p ++ q) = startsUpper p := by
  cases p with
  | nil => exact h
  | cons c p => rfl

/-- A text that begins with an ASCII character other than a capital. -/
theorem startsUpper_cons {c : Char} (hc : Text.CharSet.contains ⟨[(0x00, 0x40), (0x5B, 0xBF)]⟩ c = true)
    (cs : List Char) : startsUpper (c :: cs) = false :=
  Text.uppercase_eq_false hc

theorem startsUpper_phrase : startsUpper phrase = false := startsUpper_cons (by decide) _

/-- What is left of a piece before the phrase begins with a capital if the piece does. -/
theorem startsUpper_take {p : List Char} (h : phrase <:+ p) :
    startsUpper (p.take (p.length - phrase.length)) = startsUpper p := by
  obtain ⟨q, rfl⟩ := h
  rw [startsUpper_append q phrase startsUpper_phrase, List.length_append, Nat.add_sub_cancel, List.take_left]

theorem firstOfThree?_before {ps : List (List Char)} (hne : ps ≠ []) (hps : ∀ p ∈ ps, '\x60' ∉ p) :
    firstOfThree? (cut '\x60' (before mark (joined ps))) = named? ps := by
  match ps with
  | [a] =>
    rw [cut_before_singleton (hps a List.mem_cons_self)]
    rfl
  | [a, b] =>
    rw [cut_before (hps a (by simp)), cut_before_singleton (hps b (by simp))]
    split <;> rfl
  | a :: b :: c :: ps =>
    rw [cut_before (hps a (by simp)), cut_before (hps b (by simp))]
    obtain ⟨q, qs, hcut, hupper⟩ : ∃ q qs, cut '\x60' (before mark (joined (c :: ps))) = q :: qs ∧
        startsUpper q = startsUpper c := by
      cases ps with
      | nil => exact ⟨c, [], cut_before_singleton (hps c (by simp)), rfl⟩
      | cons d ps =>
        rw [cut_before (hps c (by simp))]
        by_cases hc : phrase <:+ c
        · exact ⟨_, [], if_pos hc, startsUpper_take hc⟩
        · exact ⟨c, _, if_neg hc, rfl⟩
    by_cases ha : phrase <:+ a
    · simp [ha, named?, firstOfThree?]
    · by_cases hb : phrase <:+ b
      · simp [ha, hb, named?, firstOfThree?]
      · simp [ha, hb, hcut, hupper, named?, firstOfThree?]

/-- Whether a message reports an unknown node, and which, is a matter of its pieces. -/
theorem unknownNode?_eq (m : List Char) : unknownNode? m = nodeOf? (cut '\x60' m) := by
  suffices h : ∀ ps : List (List Char), ps ≠ [] → (∀ p ∈ ps, '\x60' ∉ p) → unknownNode? (joined ps) = nodeOf? ps by
    have hm := h (cut '\x60' m) (cut_ne_nil _ _) fun p hp => Text.not_mem_of_mem_cut hp
    rwa [joined, Text.intercalate_cut] at hm
  intro ps hne hps
  induction ps with
  | nil => exact absurd rfl hne
  | cons p ps ih =>
    have hp := hps p List.mem_cons_self
    have hrest : ∀ q ∈ ps, '\x60' ∉ q := fun q hq => hps q (List.mem_cons_of_mem p hq)
    cases ps with
    | nil => rw [unknownNode?_eq_bind, joined_singleton, after?_of_notMem hp, nodeOf?, Option.bind_none]; simp
    | cons q ps =>
      rw [unknownNode?_eq_bind, joined_cons, after?_append hp, nodeOf?]
      split
      · exact firstOfThree?_before (List.cons_ne_nil q ps) hrest
      · rw [← ih (List.cons_ne_nil q ps) hrest, unknownNode?_eq_bind]

/-- Pieces that are taken for those of a message about an unknown node: of the four in a row the first is the first
that ends in the phrase, the next two do not end in it, and the last begins with a capital. -/
def Poses (ps : List (List Char)) : Prop :=
  ∃ start p a b c rest, ps = start ++ p :: a :: b :: c :: rest ∧ (∀ q ∈ start, ¬ phrase <:+ q) ∧ phrase <:+ p ∧
    ¬ phrase <:+ a ∧ ¬ phrase <:+ b ∧ startsUpper c = true

theorem named?_eq_some {ps : List (List Char)} {name : List Char} :
    named? ps = some name ↔ ∃ b c rest, ps = name :: b :: c :: rest ∧ ¬ phrase <:+ name ∧ ¬ phrase <:+ b ∧
      startsUpper c = true := by
  constructor
  · intro h
    match ps with
    | a :: b :: c :: rest =>
      rw [named?] at h
      split at h
      · next hc =>
        cases h
        exact ⟨b, c, rest, rfl, hc⟩
      · cases h
  · rintro ⟨b, c, rest, rfl, h⟩
    exact if_pos h

theorem isSome_nodeOf? (ps : List (List Char)) : (nodeOf? ps).isSome = true ↔ Poses ps := by
  rw [Option.isSome_iff_exists]
  constructor
  · rintro ⟨name, h⟩
    fun_induction nodeOf? ps with
    | case1 p q ps hp =>
      obtain ⟨b, c, rest, hps, ha, hb, hc⟩ := named?_eq_some.1 h
      exact ⟨[], p, name, b, c, rest, congrArg (p :: ·) hps, by simp, hp, ha, hb, hc⟩
    | case2 p q ps hp ih =>
      obtain ⟨start, p', a, b, c, rest, hps, hstart, h⟩ := ih h
      exact ⟨p :: start, p', a, b, c, rest, congrArg (p :: ·) hps, List.forall_mem_cons.2 ⟨hp, hstart⟩, h⟩
    | case3 => cases h
  · rintro ⟨start, p, a, b, c, rest, rfl, hstart, hp, h⟩
    refine ⟨a, ?_⟩
    induction start with
    | nil =>
      rw [List.nil_append, nodeOf?, if_pos hp]
      exact if_pos h
    | cons q start ih =>
      have hq := hstart q List.mem_cons_self
      have hrest := ih fun x hx => hstart x (List.mem_cons_of_mem q hx)
      cases start with
      | nil => rwa [List.singleton_append, nodeOf?, if_neg hq]
      | cons r start => rwa [List.cons_append, List.cons_append, nodeOf?, if_neg hq]

/-! ## Text around a message -/

theorem unknownNode?_of_notMem {m : List Char} (h : '\x60' ∉ m) : unknownNode? m = none := by
  rw [unknownNode?_eq, cut_of_notMem h]
  rfl

/-- Text before a message changes nothing if the phrase cannot reach into it. -/
theorem unknownNode?_append_left {a : List Char} (ha : '\x60' ∉ a) (hphrase : ∀ p, phrase <:+ a ++ p ↔ phrase <:+ p)
    (m : List Char) : unknownNode? (a ++ m) = unknownNode? m := by
  obtain ⟨p, ps, hcut⟩ := List.exists_cons_of_ne_nil (cut_ne_nil '\x60' m)
  rw [unknownNode?_eq, unknownNode?_eq, hcut, Text.cut_append_left ha hcut]
  cases ps with
  | nil => rfl
  | cons q ps => rw [nodeOf?, nodeOf?, if_congr (hphrase p) rfl rfl]

theorem named?_concat {p q : List Char} (h : startsUpper p = startsUpper q) (ps : List (List Char)) :
    named? (ps ++ [p]) = named? (ps ++ [q]) := by
  match ps with
  | [] | [_] => rfl
  | [a, b] => simp [named?, h]
  | a :: b :: c :: ps => rfl

theorem nodeOf?_concat {p q : List Char} (h : startsUpper p = startsUpper q) (ps : List (List Char)) :
    nodeOf? (ps ++ [p]) = nodeOf? (ps ++ [q]) := by
  induction ps with
  | nil => rfl
  | cons r ps ih =>
    cases ps with
    | nil => simp [nodeOf?, named?]
    | cons r' ps =>
      have hnamed := named?_concat h (r' :: ps)
      rw [List.cons_append] at ih hnamed
      rw [List.cons_append, List.cons_append, List.cons_append, List.cons_append, nodeOf?, nodeOf?, hnamed, ih]
      rfl

/-- Text after a message changes nothing if it does not begin with a capital. -/
theorem unknownNode?_append_right {b : List Char} (hb : '\x60' ∉ b) (hupper : startsUpper b = false)
    (m : List Char) : unknownNode? (m ++ b) = unknownNode? m := by
  obtain ⟨ps, p, hcut⟩ := (List.eq_nil_or_concat (cut '\x60' m)).resolve_left (cut_ne_nil '\x60' m)
  rw [List.concat_eq_append] at hcut
  rw [unknownNode?_eq, unknownNode?_eq, hcut, Text.cut_append_right hb hcut]
  exact nodeOf?_concat (startsUpper_append p b hupper) ps

/-- A suffix without `c` stands after the last `c`. -/
theorem suffix_append_cons {s p : List Char} {c : Char} (hc : c ∉ s) (a : List Char) :
    s <:+ a ++ c :: p ↔ s <:+ p := by
  constructor
  · intro h
    rcases List.suffix_or_suffix_of_suffix h (List.suffix_append a (c :: p)) with h | h
    · rcases List.suffix_cons_iff.1 h with rfl | h
      · exact absurd List.mem_cons_self hc
      · exact h
    · exact absurd (h.subset List.mem_cons_self) hc
  · intro h
    exact (h.trans (List.suffix_cons c p)).trans (List.suffix_append a (c :: p))

theorem quoted_phrase : phrase.flatMap escapedChar = phrase := by
  have hascii :
      phrase.all (fun c => Text.CharSet.contains ⟨[(0x20, 0x7E)]⟩ c && !Text.shortlyEscaped.contains c) = true := by
    decide
  have hplain : ∀ c ∈ phrase, escapedChar c = [c] := by
    intro c hc
    have hboth := List.all_eq_true.1 hascii c hc
    simp only [Bool.and_eq_true, Bool.not_eq_true', List.contains_eq_mem, decide_eq_false_iff_not] at hboth
    exact Text.escapedChar_of_ascii hboth.1 hboth.2
  rw [List.flatMap_congr hplain, List.flatMap_singleton']

theorem suffix_quoted (p : List Char) : phrase <:+ p.flatMap escapedChar ↔ phrase <:+ p := by
  constructor
  · intro h
    have hhead : ∀ x ∈ Text.escapeEnds, phrase.head? ≠ some x := by
      intro x hx heq
      have hu : phrase.head? = some 'u' := by decide
      rw [hu] at heq
      cases heq
      exact absurd hx (by decide)
    exact Text.suffix_of_quoted (by decide) (by decide) hhead h
  · rintro ⟨q, rfl⟩
    rw [List.flatMap_append, quoted_phrase]
    exact List.suffix_append _ _

theorem startsUpper_quoted (p : List Char) : startsUpper (p.flatMap escapedChar) = startsUpper p := by
  cases p with
  | nil => rfl
  | cons c p =>
    rw [List.flatMap_cons]
    cases hc : Text.uppercase.contains c with
    | true => rw [Text.escapedChar_of_upper hc, List.singleton_append, startsUpper, startsUpper]
    | false =>
      have hslash : Text.uppercase.contains '\\' = false := Text.uppercase_eq_false (by decide)
      have hquotes := Text.quotes_escapedChar c
      generalize escapedChar c = q at hquotes
      cases hquotes with
      | plain => rfl
      | short => rw [List.cons_append, startsUpper, startsUpper, hc, hslash]
      | long => rw [List.cons_append, startsUpper, startsUpper, hc, hslash]

/-- A quoted text looks like a message about an unknown node if the text does. -/
theorem unknownNode?_quoted (m : List Char) :
    unknownNode? (m.flatMap escapedChar) = (unknownNode? m).map (List.flatMap escapedChar) := by
  rw [unknownNode?_eq, unknownNode?_eq, Text.cut_quoted]
  have hnamed : ∀ ps : List (List Char),
      named? (ps.map (List.flatMap escapedChar)) = (named? ps).map (List.flatMap escapedChar) := by
    intro ps
    match ps with
    | [] | [_] | [_, _] => rfl
    | a :: b :: c :: ps =>
      simp only [List.map_cons, named?, suffix_quoted, startsUpper_quoted]
      split <;> rfl
  generalize cut '\x60' m = ps
  induction ps with
  | nil => rfl
  | cons p ps ih =>
    cases ps with
    | nil => rfl
    | cons q ps =>
      rw [List.map_cons, List.map_cons, nodeOf?, nodeOf?, if_congr (suffix_quoted p) rfl rfl, ← List.map_cons, hnamed, ih]
      split <;> rfl

/-! ## Messages -/

/-- A text that a message can show between back-ticks. -/
def Plain (cs : List Char) : Prop := '\x60' ∉ cs ∧ ¬ phrase <:+ cs

instance (cs : List Char) : Decidable (Plain cs) := inferInstanceAs (Decidable (_ ∧ _))

-- the characters of a text that is written out are compared as a list, not through its bytes
theorem tick_notMem_ofList {cs : List Char} (h : '\x60' ∉ cs) : '\x60' ∉ (String.ofList cs).toList := by
  rwa [String.toList_ofList]

theorem plain_ofList {cs : List Char} (h : Plain cs) : Plain (String.ofList cs).toList := by
  rwa [String.toList_ofList]

theorem unknownNode?_ticked {a d b : List Char} (ha : Plain a) (hd : Plain d) (hb : '\x60' ∉ b) :
    unknownNode? (a ++ '\x60' :: (d ++ '\x60' :: b)) = none := by
  rw [unknownNode?_eq, cut_cons ha.1, cut_cons hd.1, cut_of_notMem hb]
  simp [nodeOf?, ha.2, hd.2]

/-- The characters of numbers: digits, signs, the point and the letter of the exponent. -/
def isNumeric (c : Char) : Bool := c.isDigit || ['-', '+', '.', 'e'].contains c

abbrev Numeric (cs : List Char) : Prop := cs.all isNumeric = true

theorem Numeric.append {cs ds : List Char} (hcs : Numeric cs) (hds : Numeric ds) : Numeric (cs ++ ds) := by
  rw [Numeric, List.all_append, hcs, hds]
  rfl

theorem Numeric.cons {c : Char} {cs : List Char} (hc : isNumeric c = true) (hcs : Numeric cs) : Numeric (c :: cs) := by
  rw [Numeric, List.all_cons, hc, hcs]
  rfl

theorem numeric_of_digits {cs : List Char} (h : ∀ c ∈ cs, c.isDigit = true) : Numeric cs := by
  refine List.all_eq_true.2 fun c hc => ?_
  rw [isNumeric, h c hc, Bool.true_or]

theorem Numeric.plain {cs : List Char} (h : Numeric cs) : Plain cs := by
  have hmem := List.all_eq_true.1 h
  constructor
  · intro hc
    exact absurd (hmem _ hc) (by decide)
  · intro hs
    exact absurd (hmem ' ' (hs.subset (by decide))) (by decide)

theorem numeric_nat (n : Nat) : Numeric (toString n).toList := by
  rw [Nat.toString_eq_ofList_toDigits, String.toList_ofList]
  exact numeric_of_digits fun c hc => Nat.isDigit_of_mem_toDigits (by decide) (by decide) hc

theorem numeric_int (i : Int) : Numeric (toString i).toList := by
  cases i with
  | ofNat n => exact numeric_nat n
  | negSucc n =>
    have htext : (toString (Int.negSucc n)).toList = '-' :: (toString (n + 1)).toList := by
      show ("-" ++ toString (n + 1)).toList = _
      rw [String.toList_append]
      rfl
    rw [htext]
    exact Numeric.cons (by decide) (numeric_nat (n + 1))

theorem numeric_doubleChars (x : Binary64) : Numeric (doubleChars x) := by
  have hdigits : ∀ c ∈ Nat.toDigits 10 x.shortest.digits, c.isDigit = true := fun c hc =>
    Nat.isDigit_of_mem_toDigits (by decide) (by decide) hc
  have hpositional : Numeric x.shortest.positional := by
    refine List.all_eq_true.2 fun c hc => ?_
    rcases Script.positional_weak _ c hc with h | rfl
    · rw [isNumeric, h, Bool.true_or]
    · decide
  unfold doubleChars
  simp only
  refine Numeric.append ?_ ?_
  · split <;> decide
  split
  · refine hpositional.append ?_
    split <;> decide
  · refine Numeric.append (Numeric.append ?_ ?_) (Numeric.cons (by decide) (Numeric.append ?_ (numeric_int _)))
    · exact numeric_of_digits fun c hc => hdigits c (List.mem_of_mem_take hc)
    · split
      · decide
      · exact Numeric.cons (by decide) (numeric_of_digits fun c hc => hdigits c (List.mem_of_mem_drop hc))
    · split <;> decide

/-! ## Headers -/

/-- The header for a node with an unknown tag. -/
def nodeHeader (t : String) : String := "unrecognized node variant \x60" ++ t ++ "\x60"

theorem toList_nodeHeader (t : String) :
    (nodeHeader t).toList = "unrecognized node variant \x60".toList ++ t.toList ++ "\x60".toList := by
  unfold nodeHeader
  rw [String.toList_append, String.toList_append]

theorem nodeHeader_injective {s t : String} (h : nodeHeader s = nodeHeader t) : s = t := by
  have hlist := congrArg String.toList h
  rw [toList_nodeHeader, toList_nodeHeader] at hlist
  exact String.toList_inj.1 (List.append_cancel_left (List.append_cancel_right hlist))

theorem nodeHeader_ne (t : String) : nodeHeader t ≠ "malformed syntax tree" := by
  intro h
  have hlist := congrArg String.toList h
  rw [toList_nodeHeader] at hlist
  have hhead : some 'u' = some 'm' := congrArg List.head? hlist
  cases hhead

theorem header_of_some {r : Refusal} {name : List Char} (h : unknownNode? r.message.toList = some name) :
    r.diagnostic.header = nodeHeader (String.ofList name) := by
  unfold Refusal.diagnostic nodeHeader
  rw [h]

theorem header_of_none {r : Refusal} (h : unknownNode? r.message.toList = none) :
    r.diagnostic.header = "malformed syntax tree" := by
  unfold Refusal.diagnostic
  rw [h]

theorem header_eq_malformed_iff (r : Refusal) :
    r.diagnostic.header = "malformed syntax tree" ↔ unknownNode? r.message.toList = none := by
  constructor
  · intro h
    cases hname : unknownNode? r.message.toList with
    | none => rfl
    | some name =>
      rw [header_of_some hname] at h
      exact absurd h (nodeHeader_ne _)
  · exact header_of_none

/-- The tags of a node. -/
def Node.tags (n : Node) : List String := n.variants.map (·.tag)

/-- A mismatch other than for the tag of a node, with nothing of the schema in its message that has a back-tick. -/
def Mismatch.Ordinary : Mismatch → Prop
  | .missingField name => Plain name.toList
  | .duplicateField name => Plain name.toList
  | .unknownVariant _ expected => (∃ set : WordSet, expected = set.words.map (·.1)) ∨ expected = partKeys
  | .wrongType _ wanted => '\x60' ∉ wanted.toList
  | .tooShort _ shape _ => '\x60' ∉ shape.toList
  | .severalKeys | .positionTooLarge _ _ | .tooLong _ _ => True

def Refusal.Ordinary : Refusal → Prop
  | .notJson _ => True
  | .mismatch cause => cause.Ordinary

/-- The pieces of a message that come from the input: those of an unknown word, which stand after the phrase, and
those of a string that stands in the place of something else. -/
def Refusal.shown : Refusal → List (List Char)
  | .mismatch (.unknownVariant word _) => phrase :: cut '\x60' word.toList
  | .mismatch (.wrongType (.text s) _) => cut '\x60' s.toList
  | _ => []

/-! ## Unknown variants -/

/-- Pieces as they stand after an unknown name: a text that is no message of its own, and the first name that was
expected, which has a capital or not. -/
def Lists (upper : Bool) (ps : List (List Char)) : Prop :=
  ∃ x a rest, ps = x :: a :: rest ∧ ¬ phrase <:+ x ∧ startsUpper x = false ∧ startsUpper a = upper

/-- What stands in a message after the back-tick that closes an unknown name. -/
def expectation (expected : List String) : List Char := (", expected " ++ alternatives expected).toList

theorem toList_ticked (s : String) : (ticked s).toList = '\x60' :: (s.toList ++ ['\x60']) := by
  have htick : "\x60".toList = ['\x60'] := by decide
  unfold ticked
  rw [String.toList_append, String.toList_append, htick, List.singleton_append, List.cons_append]

/-- The expected names begin with the first one. -/
theorem lists_expectation {a : String} {upper : Bool} (ha : '\x60' ∉ a.toList) (hupper : startsUpper a.toList = upper)
    (names : List String) : Lists upper (cut '\x60' (expectation (a :: names))) := by
  have hopens : ∀ opening tail : List Char, Plain opening → startsUpper opening = false →
      Lists upper (cut '\x60' (opening ++ '\x60' :: (a.toList ++ '\x60' :: tail))) := by
    intro opening tail hplain hopening
    rw [cut_cons hplain.1, cut_cons ha]
    exact ⟨opening, a.toList, _, rfl, hplain.2, hopening, hupper⟩
  have hexpected : Plain ", expected ".toList := plain_ofList (by decide)
  have hcomma : ∀ cs, startsUpper (',' :: cs) = false := startsUpper_cons (by decide)
  unfold expectation
  rw [String.toList_append]
  match names with
  | [] =>
    have h := hopens ", expected ".toList [] hexpected (hcomma _)
    simpa only [alternatives, toList_ticked] using h
  | [b] =>
    have h := hopens ", expected ".toList (" or ".toList ++ (ticked b).toList) hexpected (hcomma _)
    simpa only [alternatives, String.toList_append, toList_ticked, List.append_assoc, List.cons_append,
      List.nil_append] using h
  | b :: c :: names =>
    have h := hopens (", expected ".toList ++ "one of ".toList)
      (", ".toList ++ List.intercalate ", ".toList
        ((ticked b).toList :: (ticked c).toList :: (names.map ticked).map String.toList))
      (by decide) (hcomma _)
    simpa only [alternatives, String.toList_append, String.toList_intercalate, List.map_cons,
      List.intercalate_cons_cons, toList_ticked, List.append_assoc, List.cons_append, List.nil_append] using h

theorem lists_tags (n : Node) : Lists true (cut '\x60' (expectation n.tags)) := by
  cases n <;> exact lists_expectation (tick_notMem_ofList (by decide)) (by decide +kernel) _

theorem lists_words (set : WordSet) : Lists false (cut '\x60' (expectation (set.words.map (·.1)))) := by
  cases set <;> exact lists_expectation (by decide) (by decide +kernel) _

theorem lists_partKeys : Lists false (cut '\x60' (expectation partKeys)) :=
  lists_expectation (by decide) (by decide +kernel) _

theorem unknownNode?_unknownVariant (name : String) (expected : List String) :
    unknownNode? (Mismatch.unknownVariant name expected).message.toList =
      named? (cut '\x60' name.toList ++ cut '\x60' (expectation expected)) := by
  have hmessage : (Mismatch.unknownVariant name expected).message.toList =
      phrase ++ '\x60' :: (name.toList ++ '\x60' :: expectation expected) := by
    unfold Mismatch.message expectation phrase
    simp only [toList_ticked, String.toList_append, List.append_assoc, List.cons_append, List.nil_append]
  obtain ⟨q, qs, hq⟩ := List.exists_cons_of_ne_nil (cut_ne_nil '\x60' name.toList)
  rw [unknownNode?_eq, hmessage, cut_cons tick_notMem_phrase, cut_append_mark, hq, List.cons_append, nodeOf?,
    if_pos List.suffix_rfl]

/-- Names without a capital add nothing to a name that has fewer than three pieces. -/
theorem named?_append {ps qs : List (List Char)} (hps : ps ≠ []) (hqs : Lists false qs) :
    named? (ps ++ qs) = named? ps := by
  obtain ⟨x, a, rest, rfl, -, hx, ha⟩ := hqs
  match ps with
  | [_] => simp [named?, ha]
  | [_, _] => simp [named?, hx]
  | _ :: _ :: _ :: _ => rfl

/-- A tag that no node has is reported under its name if the name is plain, and only then. -/
theorem header_of_unknown_node (n : Node) (t : String) :
    (Refusal.mismatch (.unknownVariant t n.tags)).diagnostic.header = nodeHeader t ↔ Plain t.toList := by
  have hname := unknownNode?_unknownVariant t n.tags
  obtain ⟨x, a, rest, hcut, hx, -, ha⟩ := lists_tags n
  constructor
  · intro h
    cases hnode : unknownNode? (Refusal.mismatch (.unknownVariant t n.tags)).message.toList with
    | none =>
      rw [header_of_none hnode] at h
      exact absurd h.symm (nodeHeader_ne t)
    | some name =>
      rw [header_of_some hnode] at h
      obtain ⟨b, c, ps, hpieces, hphrase, -⟩ := named?_eq_some.1 (hname.symm.trans hnode)
      have hmem : name ∈ cut '\x60' t.toList := by
        obtain ⟨q, qs, hq⟩ := List.exists_cons_of_ne_nil (cut_ne_nil '\x60' t.toList)
        rw [hq, List.cons_append] at hpieces
        rw [hq, (List.cons.inj hpieces).1]
        exact List.mem_cons_self
      rw [← nodeHeader_injective h, String.toList_ofList]
      exact ⟨Text.not_mem_of_mem_cut hmem, hphrase⟩
  · rintro ⟨htick, hphrase⟩
    rw [hcut, cut_of_notMem htick] at hname
    have hnode : unknownNode? (Refusal.mismatch (.unknownVariant t n.tags)).message.toList =
        some t.toList := hname.trans (named?_eq_some.2 ⟨x, a, rest, rfl, hphrase, hx, ha⟩)
    rw [header_of_some hnode, String.ofList_toList]

/-! ## Other refusals -/

theorem unknownNode?_fault (fault : Json.Fault) : unknownNode? fault.message.toList = none := by
  have hmessage : ∀ cs, nodeOf? (cut '\x60' cs) = none → unknownNode? (String.ofList cs).toList = none := by
    intro cs h
    rw [String.toList_ofList, unknownNode?_eq, h]
  cases fault <;> exact hmessage _ (by decide)

theorem unknownNode?_field {what name : String} (hwhat : Plain what.toList) (hname : Plain name.toList) :
    unknownNode? (what ++ ticked name).toList = none := by
  rw [String.toList_append, toList_ticked]
  exact unknownNode?_ticked hwhat hname List.not_mem_nil

theorem toList_wrongType (found : Found) (wanted : String) : (Mismatch.wrongType found wanted).message.toList =
    "invalid type: ".toList ++ (found.message.toList ++ (", expected ".toList ++ wanted.toList)) := by
  unfold Mismatch.message
  simp only [String.toList_append, List.append_assoc]

section

variable {wanted : String} (hwanted : '\x60' ∉ wanted.toList)

include hwanted

theorem unknownNode?_word {found : Found} (hfound : '\x60' ∉ found.message.toList) :
    unknownNode? (Mismatch.wrongType found wanted).message.toList = none := by
  rw [toList_wrongType]
  refine unknownNode?_of_notMem ?_
  simp only [List.mem_append, not_or]
  exact ⟨tick_notMem_ofList (by decide), hfound, tick_notMem_ofList (by decide), hwanted⟩

theorem unknownNode?_number {found : Found} (what opening number : String)
    (hfound : found.message = opening ++ number ++ "\x60") (hopening : opening.toList = what.toList ++ ['\x60'])
    (hwhat : Plain ("invalid type: ".toList ++ what.toList)) (hnumber : Plain number.toList) :
    unknownNode? (Mismatch.wrongType found wanted).message.toList = none := by
  have htick : "\x60".toList = ['\x60'] := by decide
  have hrest : '\x60' ∉ ", expected ".toList ++ wanted.toList := by
    rw [List.mem_append, not_or]
    exact ⟨tick_notMem_ofList (by decide), hwanted⟩
  rw [toList_wrongType, hfound, String.toList_append, String.toList_append, hopening, htick]
  have h := unknownNode?_ticked hwhat hnumber hrest
  simpa only [List.append_assoc, List.cons_append, List.nil_append] using h

/-- A string in the place of something else is taken for a message of its own. -/
theorem unknownNode?_string (value : String) :
    unknownNode? (Mismatch.wrongType (.text value) wanted).message.toList =
      (unknownNode? value.toList).map (List.flatMap escapedChar) := by
  have hmessage : (Mismatch.wrongType (.text value) wanted).message.toList =
      ("invalid type: string ".toList ++ ['"']) ++
        (value.toList.flatMap escapedChar ++ ('"' :: (", expected ".toList ++ wanted.toList))) := by
    have hopen : "invalid type: string ".toList = "invalid type: ".toList ++ "string ".toList := by decide
    rw [toList_wrongType, hopen]
    unfold Found.message Text.escaped
    simp only [String.toList_append, String.toList_ofList, List.append_assoc, List.cons_append, List.nil_append]
  have hclose : '\x60' ∉ '"' :: (", expected ".toList ++ wanted.toList) := by
    simp only [List.mem_cons, List.mem_append, not_or]
    exact ⟨by decide, tick_notMem_ofList (by decide), hwanted⟩
  have hphrase : ∀ p, phrase <:+ ("invalid type: string ".toList ++ ['"']) ++ p ↔ phrase <:+ p := by
    intro p
    rw [List.append_assoc, List.singleton_append]
    exact suffix_append_cons (by decide) _
  have hquote : startsUpper ('"' :: (", expected ".toList ++ wanted.toList)) = false := startsUpper_cons (by decide) _
  rw [hmessage, unknownNode?_append_left (by decide) hphrase, unknownNode?_append_right hclose hquote,
    unknownNode?_quoted]

theorem unknownNode?_wrongType {found : Found} (hfound : ∀ value, found ≠ .text value) :
    unknownNode? (Mismatch.wrongType found wanted).message.toList = none := by
  cases found with
  | text value => exact absurd rfl (hfound value)
  | null | sequence | map | unitVariant => exact unknownNode?_word hwanted (tick_notMem_ofList (by decide))
  | boolean value =>
    cases value with
    | true => exact unknownNode?_number hwanted "boolean " "boolean \x60" "true" rfl (by decide) (by decide) (by decide)
    | false => exact unknownNode?_number hwanted "boolean " "boolean \x60" "false" rfl (by decide) (by decide) (by decide)
  | integer value =>
    exact unknownNode?_number hwanted "integer " "integer \x60" (toString value) (by unfold Found.message; rfl)
      (by decide) (by decide) (numeric_int value).plain
  | double value =>
    refine unknownNode?_number hwanted "floating point " "floating point \x60" (String.ofList (doubleChars value))
      (by unfold Found.message; rfl) (by decide) (by decide) ?_
    rw [String.toList_ofList]
    exact (numeric_doubleChars value).plain

end

theorem unknownNode?_position (position count : Nat) :
    unknownNode? (Mismatch.positionTooLarge position count).message.toList = none := by
  have hmessage : (Mismatch.positionTooLarge position count).message.toList =
      "invalid value: integer ".toList ++ '\x60' :: ((toString position).toList ++
        '\x60' :: (", expected variant index 0 <= i < ".toList ++ (toString count).toList)) := by
    have hopen : "invalid value: integer \x60".toList = "invalid value: integer ".toList ++ ['\x60'] := by decide
    have hclose : "\x60, expected variant index 0 <= i < ".toList =
        '\x60' :: ", expected variant index 0 <= i < ".toList := by decide
    unfold Mismatch.message
    simp only [String.toList_append, hopen, hclose, List.append_assoc, List.cons_append, List.nil_append]
  rw [hmessage]
  refine unknownNode?_ticked (plain_ofList (by decide)) (numeric_nat position).plain ?_
  rw [List.mem_append, not_or]
  exact ⟨tick_notMem_ofList (by decide), (numeric_nat count).plain.1⟩

theorem tick_notMem_elements (n : Nat) : '\x60' ∉ (elements n).toList := by
  unfold elements
  rw [String.toList_append, List.mem_append, not_or]
  refine ⟨(numeric_nat n).plain.1, ?_⟩
  split <;> decide

theorem unknownNode?_tooShort (length fields : Nat) {shape : String} (hshape : '\x60' ∉ shape.toList) :
    unknownNode? (Mismatch.tooShort length shape fields).message.toList = none := by
  refine unknownNode?_of_notMem ?_
  unfold Mismatch.message
  simp only [String.toList_append, List.mem_append, not_or]
  exact ⟨⟨⟨⟨⟨tick_notMem_ofList (by decide), (numeric_nat length).plain.1⟩, tick_notMem_ofList (by decide)⟩, hshape⟩,
    tick_notMem_ofList (by decide)⟩, tick_notMem_elements fields⟩

theorem unknownNode?_tooLong (length fields : Nat) :
    unknownNode? (Mismatch.tooLong length fields).message.toList = none := by
  refine unknownNode?_of_notMem ?_
  unfold Mismatch.message
  simp only [String.toList_append, List.mem_append, not_or]
  exact ⟨⟨⟨⟨tick_notMem_ofList (by decide), (numeric_nat length).plain.1⟩, tick_notMem_ofList (by decide)⟩,
    tick_notMem_elements fields⟩, tick_notMem_ofList (by decide)⟩

theorem not_poses_nil : ¬ Poses [] := by
  rintro ⟨start, p, a, b, c, rest, h, -⟩
  simp at h

/-- A refusal other than for a node's tag is reported as malformed, unless what its message shows of the input is
taken for a message about a node. -/
theorem header_of_ordinary {r : Refusal} (h : r.Ordinary) :
    r.diagnostic.header = "malformed syntax tree" ↔ ¬ Poses r.shown := by
  rw [header_eq_malformed_iff]
  have hnothing : ∀ r : Refusal, unknownNode? r.message.toList = none → r.shown = [] →
      (unknownNode? r.message.toList = none ↔ ¬ Poses r.shown) := by
    intro r hnone hshown
    rw [hshown]
    exact iff_of_true hnone not_poses_nil
  cases r with
  | notJson fault => exact hnothing (.notJson fault) (unknownNode?_fault fault) rfl
  | mismatch cause =>
    have hplain : unknownNode? cause.message.toList = none → (Refusal.mismatch cause).shown = [] →
        (unknownNode? (Refusal.mismatch cause).message.toList = none ↔ ¬ Poses (Refusal.mismatch cause).shown) :=
      hnothing (.mismatch cause)
    cases cause with
    | missingField name => exact hplain (unknownNode?_field (plain_ofList (by decide)) h) rfl
    | duplicateField name => exact hplain (unknownNode?_field (plain_ofList (by decide)) h) rfl
    | unknownVariant word expected =>
      have hlists : Lists false (cut '\x60' (expectation expected)) := by
        rcases h with ⟨set, rfl⟩ | rfl
        · exact lists_words set
        · exact lists_partKeys
      obtain ⟨q, qs, hq⟩ := List.exists_cons_of_ne_nil (cut_ne_nil '\x60' word.toList)
      have hshown : nodeOf? (phrase :: cut '\x60' word.toList) = named? (cut '\x60' word.toList) := by
        rw [hq, nodeOf?, if_pos List.suffix_rfl]
      show unknownNode? (Mismatch.unknownVariant word expected).message.toList = none ↔
        ¬ Poses (phrase :: cut '\x60' word.toList)
      rw [unknownNode?_unknownVariant, named?_append (cut_ne_nil _ _) hlists, ← hshown, ← isSome_nodeOf?]
      simp
    | wrongType found wanted =>
      cases found with
      | text value =>
        show unknownNode? (Mismatch.wrongType (.text value) wanted).message.toList = none ↔
          ¬ Poses (cut '\x60' value.toList)
        rw [unknownNode?_string h, Option.map_eq_none_iff, unknownNode?_eq, ← isSome_nodeOf?]
        simp
      | null | boolean | integer | double | sequence | map | unitVariant =>
        exact hplain (unknownNode?_wrongType h nofun) rfl
    | severalKeys => exact hplain (unknownNode?_of_notMem (tick_notMem_ofList (by decide))) rfl
    | positionTooLarge position count => exact hplain (unknownNode?_position position count) rfl
    | tooShort length shape fields => exact hplain (unknownNode?_tooShort length fields h) rfl
    | tooLong length fields => exact hplain (unknownNode?_tooLong length fields) rfl

end TreeScript.Reading
