/-
  TreeScript.Proofs.Literals — the values of string and template literals.

  `characters` reads the characters of a literal by the rules of JavaScript in strict code:
  every escape, with the line continuations, which stand for nothing, and the numeric ones,
  which may stand for half of a pair; a raw line break ends a string without its quote and is
  a line feed in a template. A value is a list of UTF-16 code units, and `utf16_injective`
  says that no two texts have the same one.

  The reader of tokens refuses the escapes that no script is written with. What it does
  read has the value that `characters` finds (`characters_of_stringText`,
  `characters_of_quasiText`), and so what is known of its reading of the encoders'
  texts holds of every reader.
-/

import TreeScript.Json.Quoted
import TreeScript.Proofs.Lexemes

namespace TreeScript.Script

/-! ## Values -/

/-- The UTF-16 code units of a code point. -/
def codeUnits (n : Nat) : List UInt16 :=
  if n < 0x10000 then [.ofNat n] else [.ofNat (0xD800 + (n - 0x10000) / 0x400), .ofNat (0xDC00 + (n - 0x10000) % 0x400)]

/-- The value of a text. -/
def utf16 (s : List Char) : List UInt16 := s.flatMap fun c => codeUnits c.toNat

theorem utf16_cons (c : Char) (s : List Char) : utf16 (c :: s) = codeUnits c.toNat ++ utf16 s := rfl

theorem ofNat_injective {m n : Nat} (hm : m < 0x10000) (hn : n < 0x10000) (h : UInt16.ofNat m = UInt16.ofNat n) :
    m = n := by
  have := congrArg UInt16.toNat h
  rwa [UInt16.toNat_ofNat_of_lt' hm, UInt16.toNat_ofNat_of_lt' hn] at this

/-- Halves of pairs are no characters, so the units of a character are not the start of another's. -/
theorem codeUnits_injective {c d : Char} {us vs : List UInt16}
    (h : codeUnits c.toNat ++ us = codeUnits d.toNat ++ vs) : c = d ∧ us = vs := by
  have hc : c.toNat < 0xD800 ∨ 0xDFFF < c.toNat ∧ c.toNat < 0x110000 := c.valid
  have hd : d.toNat < 0xD800 ∨ 0xDFFF < d.toNat ∧ d.toNat < 0x110000 := d.valid
  have hchar {k : Nat} (hk : c.toNat = k) (hk' : d.toNat = k) : c = d := Char.toNat_inj.mp (hk.trans hk'.symm)
  unfold codeUnits at h
  by_cases hc' : c.toNat < 0x10000 <;> by_cases hd' : d.toNat < 0x10000 <;>
    simp only [hc', hd', if_true, if_false, List.cons_append, List.nil_append, List.cons.injEq] at h
  · exact ⟨hchar (ofNat_injective hc' hd' h.1) rfl, h.2⟩
  · have := ofNat_injective (by omega) (by omega) h.1
    omega
  · have := ofNat_injective (by omega) (by omega) h.1
    omega
  · have hhigh := ofNat_injective (by omega) (by omega) h.1
    have hlow := ofNat_injective (by omega) (by omega) h.2.1
    exact ⟨hchar (k := d.toNat) (by omega) rfl, h.2.2⟩

theorem utf16_injective {s t : List Char} (h : utf16 s = utf16 t) : s = t := by
  have hne (c : Char) (s : List Char) : utf16 (c :: s) ≠ [] := by
    rw [utf16_cons, codeUnits]
    split <;> simp
  induction s generalizing t with
  | nil =>
    cases t with
    | nil => rfl
    | cons d t => exact absurd h.symm (hne d t)
  | cons c s ih =>
    cases t with
    | nil => exact absurd h (hne c s)
    | cons d t =>
      obtain ⟨rfl, hrest⟩ := codeUnits_injective h
      rw [ih hrest]

/-! ## Reading -/

/-- A number of hexadecimal digits, and what follows them. -/
def hexDigits? : Nat → Nat → List Char → Option (Nat × List Char)
  | 0, value, cs => some (value, cs)
  | _ + 1, _, [] => none
  | k + 1, value, c :: cs => (Json.Quoted.hexDigit? c).bind fun d => hexDigits? k (16 * value + d) cs

/-- The code point of an escape after its `u`: four digits, or any number of them in braces. -/
def codePoint? (cs : List Char) : Option (Nat × List Char) :=
  if cs.head? = some '\x7b' then
    let digits := cs.tail.takeWhile fun c => (Json.Quoted.hexDigit? c).isSome
    (hexDigits? digits.length 0 cs.tail).bind fun r =>
      if digits ≠ [] && r.1 ≤ 0x10FFFF && r.2.head? = some '\x7d' then some (r.1, r.2.tail) else none
  else hexDigits? 4 0 cs

/-- What an escape stands for, from after its backslash, and what follows it. -/
def escape? : List Char → Option (List UInt16 × List Char)
  | [] => none
  | e :: cs =>
    if e = '\r' && cs.head? = some '\n' then some ([], cs.tail)
    else if e = '\n' || e = '\r' || e = '\u2028' || e = '\u2029' then some ([], cs)
    else if e = 'x' then (hexDigits? 2 0 cs).map fun r => (codeUnits r.1, r.2)
    else if e = 'u' then (codePoint? cs).map fun r => (codeUnits r.1, r.2)
    else if e = '0' && !cs.head?.any Char.isDigit then some (codeUnits 0, cs)
    else (unescaped? e).map fun c => (codeUnits c.toNat, cs)

example : escape? "u\x7b1F600\x7dz".toList = some ([0xD83D, 0xDE00], ['z']) ∧ escape? "xe9".toList = some ([0xE9], []) ∧
    escape? "\r\nz".toList = some ([], ['z']) ∧ escape? "01".toList = none := by decide +kernel

/-- The literals whose characters are read: strings in double quotes, and stretches of templates. -/
inductive Quote where
  | double
  | back
  deriving DecidableEq, Repr

/-- Whether the characters of a literal end before a text. -/
def Quote.ends : Quote → List Char → Bool
  | .double, cs => cs.head? = some '"'
  | .back, cs => cs.head? = some '\x60' || cs.take 2 = ['$', '\x7b']

/-- What the first character of a literal stands for, and what follows it. -/
def piece? (q : Quote) : List Char → Option (List UInt16 × List Char)
  | [] => none
  | c :: cs =>
    if c = '\\' then escape? cs
    else if c = '\n' || c = '\r' then
      if q = .double then none
      else some (codeUnits '\n'.toNat, if c = '\r' && cs.head? = some '\n' then cs.tail else cs)
    else some (codeUnits c.toNat, cs)

theorem hexDigits?_length {k value : Nat} {cs : List Char} {r : Nat × List Char} (h : hexDigits? k value cs = some r) :
    r.2.length ≤ cs.length := by
  fun_induction hexDigits? k value cs with
  | case1 => cases h; exact Nat.le_refl _
  | case2 => cases h
  | case3 k value c cs ih =>
    obtain ⟨d, -, h⟩ := Option.bind_eq_some_iff.mp h
    exact Nat.le_succ_of_le (ih d h)

theorem codePoint?_length {cs : List Char} {r : Nat × List Char} (h : codePoint? cs = some r) :
    r.2.length ≤ cs.length := by
  unfold codePoint? at h
  split at h
  · obtain ⟨p, hp, h⟩ := Option.bind_eq_some_iff.mp h
    have hlen := hexDigits?_length hp
    split at h
    · cases h
      simp only [List.length_tail] at hlen ⊢
      omega
    · cases h
  · exact hexDigits?_length h

theorem escape?_length {cs : List Char} {r : List UInt16 × List Char} (h : escape? cs = some r) :
    r.2.length ≤ cs.length := by
  cases cs with
  | nil => cases h
  | cons e cs =>
    rw [escape?] at h
    repeat' split at h
    · cases h
      simp only [List.length_tail, List.length_cons]
      omega
    · cases h
      exact Nat.le_succ _
    · obtain ⟨p, hp, rfl⟩ := Option.map_eq_some_iff.mp h
      exact Nat.le_succ_of_le (hexDigits?_length hp)
    · obtain ⟨p, hp, rfl⟩ := Option.map_eq_some_iff.mp h
      exact Nat.le_succ_of_le (codePoint?_length hp)
    · cases h
      exact Nat.le_succ _
    · obtain ⟨c, -, rfl⟩ := Option.map_eq_some_iff.mp h
      exact Nat.le_succ _

theorem piece?_length {q : Quote} {cs : List Char} {r : List UInt16 × List Char} (h : piece? q cs = some r) :
    r.2.length < cs.length := by
  cases cs with
  | nil => cases h
  | cons c cs =>
    rw [piece?] at h
    split at h
    · exact Nat.lt_succ_of_le (escape?_length h)
    split at h
    · split at h
      · cases h
      · cases h
        simp only [List.length_cons]
        split
        · rw [List.length_tail]
          omega
        · exact Nat.lt_succ_self _
    · cases h
      exact Nat.lt_succ_self _

/-- The value of a literal's characters, and the text from where they end; none if they do not. -/
def characters (q : Quote) (cs : List Char) : Option (List UInt16 × List Char) :=
  if q.ends cs then some ([], cs)
  else
    match _h : piece? q cs with
    | none => none
    | some r => (characters q r.2).map fun r' => (r.1 ++ r'.1, r'.2)
termination_by cs.length
decreasing_by exact piece?_length _h

/-- The value of a string in double quotes at the start of a text, and what follows it. -/
def stringLiteral? (cs : List Char) : Option (List UInt16 × List Char) :=
  if cs.head? = some '"' then (characters .double cs.tail).map fun r => (r.1, r.2.tail) else none

theorem characters_ends {q : Quote} {cs : List Char} (h : q.ends cs = true) : characters q cs = some ([], cs) := by
  rw [characters, if_pos h]

theorem characters_piece {q : Quote} {cs rest : List Char} {us : List UInt16} (h : q.ends cs = false)
    (hp : piece? q cs = some (us, rest)) :
    characters q cs = (characters q rest).map fun r => (us ++ r.1, r.2) := by
  rw [characters, if_neg (by simp [h])]
  split
  · rename_i hnone
    cases hnone.symm.trans hp
  · rename_i r hr
    cases hr.symm.trans hp
    rfl

/-! ## Tokens and values -/

/-- An escape that the reader of tokens knows stands for what it says. -/
theorem escape?_of_unescaped? {e c : Char} (h : unescaped? e = some c) (cs : List Char) :
    escape? (e :: cs) = some (codeUnits c.toNat, cs) := by
  have hrefused : ['\n', '\r', '\u2028', '\u2029', 'x', 'u', '0'].any (fun e => (unescaped? e).isSome) = false := by
    decide
  have hne (e' : Char) (he' : e' ∈ ['\n', '\r', '\u2028', '\u2029', 'x', 'u', '0']) : e ≠ e' := by
    rintro rfl
    have hnone := forall_mem_eq_false hrefused e he'
    rw [h] at hnone
    cases hnone
  simp [escape?, h, hne '\n', hne '\r', hne '\u2028', hne '\u2029', hne 'x', hne 'u', hne '0']

theorem characters_escape (q : Quote) {e c : Char} (h : unescaped? e = some c) (cs : List Char) :
    characters q ('\\' :: e :: cs) = (characters q cs).map fun r => (codeUnits c.toNat ++ r.1, r.2) := by
  have hpiece : piece? q ('\\' :: e :: cs) = some (codeUnits c.toNat, cs) := escape?_of_unescaped? h cs
  refine characters_piece ?_ hpiece
  cases q <;> rfl

theorem characters_plain {q : Quote} {c : Char} {cs : List Char} (hends : q.ends (c :: cs) = false)
    (hslash : c ≠ '\\') (hline : ¬(c = '\n' || c = '\r') = true) :
    characters q (c :: cs) = (characters q cs).map fun r => (codeUnits c.toNat ++ r.1, r.2) := by
  refine characters_piece hends ?_
  rw [piece?, if_neg hslash, if_neg hline]

theorem characters_of_stringText {cs s rest : List Char} (h : stringText cs = some (s, rest)) :
    characters .double cs = some (utf16 s, '"' :: rest) := by
  fun_induction stringText cs generalizing s rest with
  | case1 => cases h
  | case2 cs =>
    cases h
    exact characters_ends rfl
  | case3 => cases h
  | case4 e cs _ ih =>
    obtain ⟨c, hc, h⟩ := Option.bind_eq_some_iff.mp h
    obtain ⟨s', hs, rfl⟩ := push_eq_some h
    rw [characters_escape .double hc cs, ih hs]
    rfl
  | case5 => cases h
  | case6 c cs hquote hslash hline ih =>
    obtain ⟨s', hs, rfl⟩ := push_eq_some h
    rw [characters_plain (by simp [Quote.ends, hquote]) hslash hline, ih hs]
    rfl

/-- However a line break is written, it is one line feed of a template. -/
theorem characters_line {c : Char} (h : c = '\n' ∨ c = '\r') {cs : List Char} (hcs : c = '\r' → cs.head? ≠ some '\n') :
    characters .back (c :: cs) = (characters .back cs).map fun r => (codeUnits '\n'.toNat ++ r.1, r.2) := by
  refine characters_piece ?_ ?_
  · rcases h with rfl | rfl <;> rfl
  · rcases h with rfl | rfl
    · rfl
    · simp [piece?, hcs rfl]

theorem characters_crlf (cs : List Char) : characters .back ('\r' :: '\n' :: cs) = characters .back ('\n' :: cs) := by
  rw [characters_line (.inl rfl) (by simp)]
  exact characters_piece rfl rfl

theorem characters_of_quasiText {cs s rest : List Char} {last : Bool} (h : quasiText cs = some (s, last, rest)) :
    characters .back cs = some (utf16 s, (if last then ['\x60'] else ['$', '\x7b']) ++ rest) := by
  fun_induction quasiText cs generalizing s last rest with
  | case1 => cases h
  | case2 cs =>
    cases h
    exact characters_ends rfl
  | case3 c cs _ hhole =>
    obtain ⟨rfl, hc⟩ : c = '$' ∧ cs.head? = some '\x7b' := by simpa using hhole
    obtain ⟨ds, rfl⟩ := List.head?_eq_some_iff.mp hc
    cases h
    exact characters_ends rfl
  | case4 => cases h
  | case5 e cs _ _ ih =>
    obtain ⟨c, hc, h⟩ := Option.bind_eq_some_iff.mp h
    obtain ⟨s', hs, rfl⟩ := push_eq_some h
    rw [characters_escape .back hc cs, ih hs]
    rfl
  | case6 cs hline _ _ _ ih =>
    obtain ⟨ds, rfl⟩ := List.head?_eq_some_iff.mp hline
    exact (characters_crlf ds).trans (ih h)
  | case7 cs hline _ _ _ ih =>
    obtain ⟨s', hs, rfl⟩ := push_eq_some h
    rw [characters_line (.inr rfl) fun _ => hline, ih hs]
    rfl
  | case8 c cs htick hhole hslash hreturn ih =>
    obtain ⟨s', hs, rfl⟩ := push_eq_some h
    by_cases hline : c = '\n'
    · subst hline
      rw [characters_line (.inl rfl) (by simp), ih hs]
      rfl
    · have hends : Quote.back.ends (c :: cs) = false := by
        cases cs <;> simp_all [Quote.ends]
      rw [characters_plain hends hslash (by simp [hline, hreturn]), ih hs]
      rfl

/-! ## The encoders -/

theorem quasiText_of_ends {cs : List Char} (h : Quote.back.ends cs = true) :
    ∃ last rest, quasiText cs = some ([], last, rest) ∧ cs = (if last then ['\x60'] else ['$', '\x7b']) ++ rest := by
  simp only [Quote.ends, Bool.or_eq_true, decide_eq_true_eq] at h
  rcases h with htick | hhole
  · obtain ⟨rest, rfl⟩ := List.head?_eq_some_iff.mp htick
    exact ⟨true, rest, quasiText_tick rest, rfl⟩
  · obtain ⟨rest, rfl⟩ : ∃ rest, cs = '$' :: '\x7b' :: rest :=
      ⟨cs.drop 2, by rw [← List.take_append_drop 2 cs, hhole]; rfl⟩
    exact ⟨false, rest, quasiText_hole rest, rfl⟩

/-- A string literal has the value of its text, and a template text has it too where the template ends after
it or goes on with a substitution. Both are read up to their end and no further. -/
theorem encoded_values (t r : String) :
    stringLiteral? (quoted t ++ r).toList = some (utf16 t.toList, r.toList) ∧
      (Quote.back.ends r.toList = true →
        characters .back (templateText t ++ r).toList = some (utf16 t.toList, r.toList)) ∧
      ∀ u : String, utf16 u.toList = utf16 t.toList → u = t := by
  refine ⟨?_, ?_, fun u h => String.toList_injective (utf16_injective h)⟩
  · have hread := characters_of_stringText (stringText_quoted t.toList r.toList)
    simp [stringLiteral?, quoted, quotedChars, hread]
  · intro hends
    obtain ⟨last, rest, hrest, heq⟩ := quasiText_of_ends hends
    have hglues : glues t.toList r.toList = false := by
      rw [heq]
      cases last <;> simp [glues]
    have hread := quasiText_template hglues
    rw [hrest, Option.map_some, List.append_nil] at hread
    rw [templateText, String.toList_append, String.toList_ofList, characters_of_quasiText hread, ← heq]

/-- A quote, a backslash, a line break, a dollar sign before a brace and a character beyond the first plane, with
more of each after the literal. -/
theorem encoded_values_hard :
    let t := "\"\\\r\n$\x7b\x60\u2028😀$"
    let r := "$\x7b\"\x60"
    Quote.back.ends r.toList = true ∧
      stringLiteral? (quoted t ++ r).toList = some (utf16 t.toList, r.toList) ∧
      characters .back (templateText t ++ r).toList = some (utf16 t.toList, r.toList) ∧
      utf16 t.toList = [0x22, 0x5C, 0xD, 0xA, 0x24, 0x7B, 0x60, 0x2028, 0xD83D, 0xDE00, 0x24] := by
  intro t r
  have hends : Quote.back.ends r.toList = true := by decide +kernel
  obtain ⟨hstring, htemplate, -⟩ := encoded_values t r
  exact ⟨hends, hstring, htemplate hends, by decide +kernel⟩

end TreeScript.Script
