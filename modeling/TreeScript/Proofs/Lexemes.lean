/-
  TreeScript.Proofs.Lexemes — what `lex` makes of each kind of token.

  Every lemma has the same form: before a rest that cannot be taken for a part of it, the
  text of a token is read as that token, and the reading goes on with the rest. For string
  literals, numbers and the text of templates this says that the reader undoes what the
  writer does: escapes, the shortest decimals, and the escapes of a template (`lex_string`,
  `lex_number`, `quasiText_template`). There are two exceptions. A text that ends in `$`
  before a brace is read otherwise, and `quasiText_glued` says how; and a name with a
  character that no identifier has in its place is not read at all (`lex_stray`).
-/

import TreeScript.Proofs.Tokens

namespace TreeScript.Script

/-! ## Characters after a token -/

/-- The characters that can follow any expression inside another one. -/
def closers : List Char := [' ', ',', ')', ']', '\x7d']

/-- The characters that can follow the object of an access or of a call. -/
def accessors : List Char := ['.', '(', '[']

theorem continuesIdentifier_closers : ∀ c ∈ closers ++ accessors, continuesIdentifier c = false :=
  forall_mem_ascii continuesIdentifier_of_lt (by decide)

theorem closers_plain : ∀ c ∈ closers, (c.isDigit || c == '.' || startsIdentifier c) = false := by
  intro c hc
  rw [forall_mem_ascii startsIdentifier_of_lt (by decide) c hc, Bool.or_false]
  exact forall_mem_eq_false (p := fun c => c.isDigit || c == '.') (by decide) c hc

theorem digits_plain : ∀ c ∈ "0123456789".toList, (startsIdentifier c || blank.contains c) = false := by
  intro c hc
  rw [forall_mem_ascii startsIdentifier_of_lt (by decide) c hc, Bool.false_or]
  exact forall_mem_eq_false (by decide) c hc

/-- The first characters of brackets and marks; no other token starts with one, but for a brace
that closes a substitution. -/
def symbols : List Char := "()[]\x7b\x7d+-*/%=!<>&|?:,.".toList

theorem symbols_plain : ∀ c ∈ symbols,
    (startsIdentifier c || blank.contains c || c.isDigit || c == '"' || c == '\x60') = false := by
  intro c hc
  rw [forall_mem_ascii startsIdentifier_of_lt (by decide) c hc, Bool.false_or]
  exact forall_mem_eq_false (p := fun c => blank.contains c || c.isDigit || c == '"' || c == '\x60') (by decide) c hc

theorem startsName_plain {c : Char} (h : startsName c = true) : c ∉ symbols := by
  intro hc
  rw [forall_mem_ascii startsName_of_lt (by decide) c hc] at h
  cases h

/-! ## Tokens -/

section Tokens

variable {stack : List Bracket} {rest : List Char}

theorem lex_nil : lex [] [] = some [] := by rw [lex, if_pos rfl]

theorem lex_space : lex stack (' ' :: rest) = lex stack rest := by
  have h : next stack ' ' rest = some ⟨none, stack, rest⟩ := by
    have hs : startsIdentifier ' ' = false := startsIdentifier_of_lt (by decide)
    have hb : blank.contains ' ' = true := by decide
    rw [next, hs, hb]
    rfl
  rw [lex_cons h]
  cases lex stack rest <;> rfl

theorem lex_name {cs : List Char} (h : isIdentifierChars cs = true)
    (hr : ∀ c, rest.head? = some c → continuesIdentifier c = false) :
    lex stack (cs ++ rest) = (lex stack rest).map ([.name (.ofList cs)] ++ ·) := by
  cases cs with
  | nil => cases h
  | cons c cs =>
    obtain ⟨hc, hcs⟩ : startsIdentifier c = true ∧ ∀ d ∈ cs, continuesIdentifier d = true := by
      simpa [isIdentifierChars] using h
    have htake : rest.takeWhile continuesIdentifier = [] ∧ rest.dropWhile continuesIdentifier = rest := by
      cases rest with
      | nil => exact ⟨rfl, rfl⟩
      | cons d rest => simp [hr d rfl]
    refine lex_cons (t := ⟨some (.name (.ofList (c :: cs))), stack, rest⟩) ?_
    show next stack c (cs ++ rest) = _
    rw [next, if_pos hc, List.takeWhile_append_of_pos hcs, List.dropWhile_append_of_pos hcs, htake.1, htake.2,
      List.append_nil]

/-! ## Stray characters -/

/-- No character of a name is blank. -/
theorem blank_of_continuesName {c : Char} (h : continuesName c = true) : blank.contains c = false := by
  obtain ⟨⟨halphabetic, hnumeric, -⟩, -⟩ := Text.tables_compared
  obtain ⟨hordered, hletters, hnumbers⟩ : Text.ascends 0 blank.ranges = true ∧
      Text.minus blank.ranges Text.alphabetic.ranges = blank.ranges ∧
      Text.minus blank.ranges Text.numeric.ranges = blank.ranges := by decide +kernel
  cases hc : blank.contains c with
  | false => rfl
  | true =>
    have hletter := ((Text.contains_of_minus hordered halphabetic hletters c).1 hc).2
    have hnumber := ((Text.contains_of_minus hordered hnumeric hnumbers c).1 hc).2
    simp only [continuesName, startsName, hletter, hnumber, Bool.or_false, Bool.or_eq_true, decide_eq_true_eq] at h
    rcases h with rfl | rfl
    · cases hc
    · cases hc

/-- Every mark is in ASCII. -/
theorem mark?_eq_none {c : Char} (h : 0x80 ≤ c.toNat) (cs : List Char) : mark? (c :: cs) = none := by
  have hascii : marks.all (fun m => m.toList.head?.any (·.toNat < 0x80)) = true := by decide
  rw [mark?, List.find?_eq_none]
  intro m hm hprefix
  have hhead := List.all_eq_true.1 hascii m hm
  cases hchars : m.toList with
  | nil => simp [hchars] at hhead
  | cons d ds =>
    rw [hchars] at hhead hprefix
    obtain ⟨rfl, -⟩ : d = c ∧ _ := by simpa [List.isPrefixOf] using hprefix
    simp only [List.head?_cons, Option.any_some, decide_eq_true_eq] at hhead
    omega

/-- Beyond ASCII there are identifiers and blanks, and no other tokens. -/
theorem next_eq_none {c : Char} (h : 0x80 ≤ c.toNat) (hs : startsIdentifier c = false) (hb : blank.contains c = false)
    (cs : List Char) : next stack c cs = none := by
  have hne (d : Char) (hd : d.toNat < 0x80) : c ≠ d := by
    rintro rfl
    omega
  have hdigit : c.isDigit = false := by
    rw [← Bool.not_eq_true, Char.isDigit_iff_toNat]
    have hnine : '9'.toNat = 0x39 := rfl
    omega
  have hopened : opened? c = none := by
    simp [opened?, hne '(' (by decide), hne '[' (by decide), hne '\x7b' (by decide)]
  have hclosed : closed? c = none := by
    simp [closed?, hne ')' (by decide), hne ']' (by decide), hne '\x7d' (by decide)]
  simp [next, takeMark, hs, hb, hdigit, hne '"' (by decide), hne '\x60' (by decide), hne '\x7d' (by decide), hopened,
    hclosed, mark?_eq_none h]

theorem lex_stray_first {c : Char} (hname : startsName c = true) (h : startsIdentifier c = false) :
    lex stack (c :: rest) = none := by
  have hblank : blank.contains c = false := blank_of_continuesName (by rw [continuesName, hname, Bool.true_or])
  exact lex_cons_none (next_eq_none (le_of_stray_first hname h) h hblank rest)

theorem lex_stray_later {c : Char} (hname : continuesName c = true) (h : continuesIdentifier c = false) :
    lex stack (c :: rest) = none := by
  have hstarts : startsIdentifier c = false := by
    rw [← Bool.not_eq_true]
    intro hs
    rw [continuesIdentifier_of_starts hs] at h
    cases h
  exact lex_cons_none (next_eq_none (le_of_stray hname h) hstarts (blank_of_continuesName hname) rest)

/-- What looks like a name and is no identifier is not read. -/
theorem lex_stray {cs : List Char} (h : isNameChars cs = true) (hnot : isIdentifierChars cs = false) :
    lex stack (cs ++ rest) = none := by
  cases cs with
  | nil => cases h
  | cons c cs =>
    obtain ⟨hc, hcs⟩ : startsName c = true ∧ ∀ d ∈ cs, continuesName d = true := by simpa [isNameChars] using h
    cases hs : startsIdentifier c with
    | false => exact lex_stray_first hc hs
    | true =>
      have hall : ¬ ∀ d ∈ cs, continuesIdentifier d = true := by simpa [isIdentifierChars, hs] using hnot
      cases hfind : cs.find? (!continuesIdentifier ·) with
      | none => exact absurd (by simpa using List.find?_eq_none.1 hfind) hall
      | some d =>
        -- the identifier that is read ends before the stray character, and no token starts with that
        obtain ⟨hd, before, after, rfl, hbefore⟩ := List.find?_eq_some_iff_append.1 hfind
        simp only [Bool.not_eq_true', Bool.not_not] at hd hbefore
        have htoken : next stack c (before ++ d :: (after ++ rest)) =
            some ⟨some (.name (.ofList (c :: before))), stack, d :: (after ++ rest)⟩ := by
          rw [next, if_pos hs, List.takeWhile_append_of_pos hbefore, List.dropWhile_append_of_pos hbefore]
          simp [hd]
        rw [List.cons_append, List.append_assoc, List.cons_append, lex_cons htoken, lex_stray_later (hcs d (by simp)) hd]
        rfl

/-! ## Marks -/

theorem next_symbol {c : Char} (hc : c ∈ symbols) (hh : c ≠ '\x7d' ∨ stack.head? ≠ some .hole) (cs : List Char) :
    next stack c cs = takeMark stack c cs := by
  have h := symbols_plain c hc
  simp only [Bool.or_eq_false_iff, beq_eq_false_iff_ne] at h
  obtain ⟨⟨⟨⟨hs, hb⟩, hd⟩, hq⟩, ht⟩ := h
  have hbrace : ¬(c = '\x7d' && stack.head? = some .hole) := by simpa [Decidable.imp_iff_not_or] using hh
  rw [next, hs, hb, hd, if_neg Bool.false_ne_true, if_neg Bool.false_ne_true, if_neg Bool.false_ne_true, if_neg hq,
    if_neg ht, if_neg hbrace]

/-- What a bracket or a mark leaves open. -/
theorem lex_symbol {stack' : List Bracket} {c : Char} {cs : List Char} {m : String} (hc : c ∈ symbols)
    (hh : c ≠ '\x7d' ∨ stack.head? ≠ some .hole) (h : takeMark stack c cs = some ⟨some (.mark m), stack', rest⟩) :
    lex stack (c :: cs) = (lex stack' rest).map ([.mark m] ++ ·) :=
  lex_cons ((next_symbol hc hh cs).trans h)

theorem lex_round : lex stack ('(' :: rest) = (lex (.round :: stack) rest).map ([.mark "("] ++ ·) :=
  lex_symbol (by decide) (.inl (by decide)) rfl

theorem lex_square : lex stack ('[' :: rest) = (lex (.square :: stack) rest).map ([.mark "["] ++ ·) :=
  lex_symbol (by decide) (.inl (by decide)) rfl

theorem lex_curly : lex stack ('\x7b' :: rest) = (lex (.curly :: stack) rest).map ([.mark "\x7b"] ++ ·) :=
  lex_symbol (by decide) (.inl (by decide)) rfl

theorem lex_round_close : lex (.round :: stack) (')' :: rest) = (lex stack rest).map ([.mark ")"] ++ ·) :=
  lex_symbol (by decide) (.inl (by decide)) rfl

theorem lex_square_close : lex (.square :: stack) (']' :: rest) = (lex stack rest).map ([.mark "]"] ++ ·) :=
  lex_symbol (by decide) (.inl (by decide)) rfl

theorem lex_curly_close : lex (.curly :: stack) ('\x7d' :: rest) = (lex stack rest).map ([.mark "\x7d"] ++ ·) :=
  lex_symbol (by decide) (.inr (by simp)) rfl

/-- A mark that no longer mark fits in the place of. -/
theorem lex_mark {c : Char} {cs : List Char} {m : String} (hc : c ∈ symbols) (hb : opened? c = none ∧ closed? c = none)
    (hm : mark? (c :: cs) = some m) :
    lex stack (c :: cs) = (lex stack (cs.drop (m.length - 1))).map ([.mark m] ++ ·) := by
  have hbrace : c ≠ '\x7d' := by
    intro heq
    subst heq
    exact absurd hb.2 (by decide)
  refine lex_symbol hc (.inl hbrace) ?_
  rw [takeMark, hb.1, hb.2, hm]
  rfl

theorem lex_comma : lex stack (',' :: ' ' :: rest) = (lex stack rest).map ([.mark ","] ++ ·) := by
  rw [lex_mark (m := ",") (by decide) (by decide) rfl]
  exact congrArg _ lex_space

theorem lex_question : lex stack ('?' :: ' ' :: rest) = (lex stack rest).map ([.mark "?"] ++ ·) := by
  rw [lex_mark (m := "?") (by decide) (by decide) rfl]
  exact congrArg _ lex_space

theorem lex_colon : lex stack (':' :: ' ' :: rest) = (lex stack rest).map ([.mark ":"] ++ ·) := by
  rw [lex_mark (m := ":") (by decide) (by decide) rfl]
  exact congrArg _ lex_space

theorem lex_operator (op : Operator) :
    lex stack (op.token.toList ++ ' ' :: rest) = (lex stack rest).map ([.mark op.token] ++ ·) := by
  have h : lex stack (op.token.toList ++ ' ' :: rest) = (lex stack (' ' :: rest)).map ([.mark op.token] ++ ·) := by
    cases op <;> exact lex_mark (by decide) (by decide) rfl
  rw [h, lex_space]

/-- No mark goes on from a sign with the first character of an operand. -/
theorem mark?_sign (op : Tree.UnaryOp) {d : Char} (hd : d ∉ ['+', '-', '=']) (cs : List Char) :
    mark? (op.symbol.toList ++ d :: cs) = some op.symbol := by
  have hne : ∀ c ∈ ['+', '-', '='], (c == d) = false := fun c hc => beq_false_of_ne fun e => hd (e ▸ hc)
  have hp := hne '+' (by decide)
  have hm := hne '-' (by decide)
  have he := hne '=' (by decide)
  cases op <;> simp [Tree.UnaryOp.symbol, mark?, marks, List.find?, List.isPrefixOf, hp, hm, he]

theorem mark?_dot {d : Char} (hd : d ≠ '.') (cs : List Char) : mark? ('.' :: d :: cs) = some "." := by
  have h : ('.' == d) = false := beq_false_of_ne hd.symm
  simp [mark?, marks, List.find?, List.isPrefixOf, h]

theorem lex_sign (op : Tree.UnaryOp) {d : Char} (hd : d ∉ ['+', '-', '=']) :
    lex stack (op.symbol.toList ++ d :: rest) = (lex stack (d :: rest)).map ([.mark op.symbol] ++ ·) := by
  have hm := mark?_sign op hd rest
  cases op <;> exact lex_mark (by decide) (by decide) hm

theorem lex_dot {d : Char} (hd : d ≠ '.') :
    lex stack ('.' :: d :: rest) = (lex stack (d :: rest)).map ([.mark "."] ++ ·) :=
  lex_mark (by decide) (by decide) (mark?_dot hd rest)

/-! ## Strings and numbers -/

/-- A character of a string literal, however it is written, is read as itself. -/
theorem stringText_quotedChar (c : Char) (cs : List Char) :
    stringText (quotedChar c ++ cs) = push c (stringText cs) := by
  unfold quotedChar
  repeat' split
  all_goals try (subst_vars; exact stringText_escape _ _)
  exact stringText_plain (by simp_all) cs

theorem stringText_quoted (s cs : List Char) : stringText (s.flatMap quotedChar ++ '"' :: cs) = some (s, cs) := by
  induction s with
  | nil =>
    rw [stringText.eq_def]
    rfl
  | cons c s ih =>
    rw [List.flatMap_cons, List.append_assoc, stringText_quotedChar, ih]
    rfl

theorem next_quote (stack : List Bracket) (cs : List Char) :
    next stack '"' cs = (stringText cs).map fun (text, rest) => ⟨some (.string (.ofList text)), stack, rest⟩ := by
  have hs : startsIdentifier '"' = false := startsIdentifier_of_lt (by decide)
  have hb : blank.contains '"' = false := by decide
  rw [next, hs, hb]
  rfl

theorem lex_string (s : List Char) :
    lex stack (quotedChars s ++ rest) = (lex stack rest).map ([.string (.ofList s)] ++ ·) := by
  refine lex_cons (t := ⟨some (.string (.ofList s)), stack, rest⟩) ?_
  rw [next_quote]
  show Option.map _ (stringText (s.flatMap quotedChar ++ ['"'] ++ rest)) = _
  rw [List.append_assoc]
  exact congrArg _ (stringText_quoted s rest)

/-- What can follow a number: nothing that would go on with it, and nothing that starts a name. -/
def EndsNumber (rest : List Char) : Prop :=
  ∀ c, rest.head? = some c → (c.isDigit || c == '.' || startsIdentifier c) = false

theorem takeDigits {ds : List Char} (hd : ∀ c ∈ ds, c.isDigit = true)
    (hr : ∀ c, rest.head? = some c → c.isDigit = false) :
    (ds ++ rest).takeWhile Char.isDigit = ds ∧ (ds ++ rest).dropWhile Char.isDigit = rest := by
  rw [List.takeWhile_append_of_pos hd, List.dropWhile_append_of_pos hd]
  cases rest with
  | nil => simp
  | cons c rest => simp [hr c rfl]

theorem EndsNumber.noDigit (hr : EndsNumber rest) : ∀ c, rest.head? = some c → c.isDigit = false := by
  intro c hc
  have := hr c hc
  simp only [Bool.or_eq_false_iff] at this
  exact this.1.1

theorem numeral_of_parts {cs whole places : List Char} (h : numeralParts cs = (whole, places, rest))
    (hz : whole.head? = some '0' → whole.length = 1) (hr : EndsNumber rest) :
    numeral cs = some (.ofDecimal (Nat.ofDigitChars 10 (whole ++ places) 0) (-places.length), rest) := by
  have hname : rest.head?.any startsIdentifier = false := by
    cases h : rest.head? with
    | none => rfl
    | some c =>
      have := hr c h
      simp only [Bool.or_eq_false_iff] at this
      exact this.2
  simp only [numeral, h, hname]
  simpa using hz

/-- A number without a point. -/
theorem numeral_whole {ds : List Char} (hd : ∀ c ∈ ds, c.isDigit = true) (hz : ds.head? = some '0' → ds.length = 1)
    (hr : EndsNumber rest) : numeral (ds ++ rest) = some (.ofDecimal (Nat.ofDigitChars 10 ds 0) 0, rest) := by
  have hparts : numeralParts (ds ++ rest) = (ds, [], rest) := by
    obtain ⟨ht, hdrop⟩ := takeDigits hd hr.noDigit
    have hpoint : rest.head? ≠ some '.' := fun h => by simpa using hr '.' h
    rw [numeralParts, ht, hdrop, fraction, if_neg hpoint]
  rw [numeral_of_parts hparts hz hr, List.append_nil]
  rfl

/-- A number with a point. -/
theorem numeral_point {ds ps : List Char} (hd : ∀ c ∈ ds, c.isDigit = true) (hp : ∀ c ∈ ps, c.isDigit = true)
    (hz : ds.head? = some '0' → ds.length = 1) (hr : EndsNumber rest) :
    numeral (ds ++ '.' :: (ps ++ rest)) = some (.ofDecimal (Nat.ofDigitChars 10 (ds ++ ps) 0) (-ps.length), rest) := by
  have hdot : ∀ c, ('.' :: (ps ++ rest)).head? = some c → c.isDigit = false := by
    intro c hc
    cases hc
    decide
  obtain ⟨ht, hdrop⟩ := takeDigits hd hdot
  obtain ⟨ht', hdrop'⟩ := takeDigits hp hr.noDigit
  apply numeral_of_parts _ hz hr
  rw [numeralParts, ht, hdrop, fraction, List.head?_cons, if_pos rfl, List.tail_cons, ht', hdrop']

theorem isDigit_zeros (k : Nat) : ∀ c ∈ List.replicate k '0', c.isDigit = true := by
  intro c hc
  rw [List.eq_of_mem_replicate hc]
  decide

/-- A decimal written out is read as the double it is rounded to. -/
theorem numeral_positional {d : Decimal} (hz : d.digits = 0 → d.exponent = 0) (hr : EndsNumber rest) :
    numeral (d.positional ++ rest) = some (.ofDecimal d.digits d.exponent, rest) := by
  have hdig : ∀ c ∈ Nat.toDigits 10 d.digits, c.isDigit = true := fun c hc =>
    Nat.isDigit_of_mem_toDigits (by decide) (by decide) hc
  have hback := Nat.ofDigitChars_ten_toDigits (n := d.digits)
  simp only [Decimal.positional]
  split
  · have he : d.exponent = d.exponent.toNat := by omega
    rw [numeral_whole (by grind [isDigit_zeros]) _ hr, Nat.ofDigitChars_append, hback,
      Nat.ofDigitChars_replicate_zero, Nat.mul_comm, Binary64.ofDecimal_mul_pow, zero_add, ← he]
    intro h0
    by_cases hn : d.digits = 0
    · simp [hn, hz hn]
    · rw [List.head?_append_of_ne_nil _ Nat.toDigits_ne_nil] at h0
      exact absurd h0 (Decimal.toDigits_head hn)
  · rename_i hplaces
    have hn : d.digits ≠ 0 := fun h => hplaces (by simp [hz h])
    split
    · -- the point falls among the digits
      rw [List.append_assoc, List.cons_append, numeral_point (by grind) (by grind) _ hr, List.take_append_drop, hback,
        List.length_drop]
      · congr 3
        omega
      · intro h0
        rw [List.head?_take] at h0
        split at h0
        · cases h0
        · exact absurd h0 (Decimal.toDigits_head hn)
    · -- the point falls before all of them
      have hpoint := @numeral_point rest ['0'] (List.replicate
        ((-d.exponent).toNat - (Nat.toDigits 10 d.digits).length) '0' ++ Nat.toDigits 10 d.digits)
        (by simp) (by grind [isDigit_zeros]) (fun _ => rfl) hr
      rw [Nat.ofDigitChars_append, Nat.ofDigitChars_append, Nat.ofDigitChars_replicate_zero,
        show Nat.ofDigitChars 10 ['0'] 0 = 0 from rfl, Nat.mul_zero, hback, List.length_append,
        List.length_replicate] at hpoint
      refine hpoint.trans ?_
      congr 3
      omega

theorem next_digit {c : Char} (hc : c.isDigit = true) (stack : List Bracket) (cs : List Char) :
    next stack c cs = (numeral (c :: cs)).map fun (x, rest) => ⟨some (.number x), stack, rest⟩ := by
  have hmem : c ∈ "0123456789".toList := by
    have hn := Char.isDigit_iff_toNat.mp hc
    have : ∀ n, 48 ≤ n → n ≤ 57 → Char.ofNat n ∈ "0123456789".toList := by decide
    rw [← Char.ofNat_toNat c]
    exact this _ hn.1 hn.2
  have h := digits_plain c hmem
  simp only [Bool.or_eq_false_iff] at h
  rw [next, h.1, h.2, hc]
  rfl

theorem positional_head (d : Decimal) : ∃ c cs, d.positional = c :: cs ∧ c.isDigit = true := by
  obtain ⟨c, cs, h⟩ := List.exists_cons_of_ne_nil (Nat.toDigits_ne_nil (n := d.digits) (b := 10))
  have hc : c.isDigit = true :=
    Nat.isDigit_of_mem_toDigits (by decide) (by decide) (h ▸ List.mem_cons_self : c ∈ Nat.toDigits 10 d.digits)
  simp only [Decimal.positional, h]
  split
  · exact ⟨c, _, rfl, hc⟩
  split
  · obtain ⟨k, hk⟩ := Nat.exists_eq_succ_of_ne_zero
      (show (c :: cs).length - (-d.exponent).toNat ≠ 0 by omega)
    rw [hk]
    exact ⟨c, _, rfl, hc⟩
  · exact ⟨'0', _, rfl, rfl⟩

theorem shortest_zero {x : Binary64} (hx : x.isFinite = true) (h0 : x.shortest.digits = 0) :
    x.shortest.exponent = 0 := by
  have hback := Binary64.ofDecimal_shortest x hx
  rw [h0, Binary64.ofDecimal, Nat.zero_mul, Binary64.ofRatio, if_pos rfl] at hback
  have hz : x.isZero = true := by
    rw [Binary64.isZero, ← (Binary64.mk.inj hback).2]
    rfl
  rw [Binary64.shortest, if_pos hz]

/-- The magnitude of a finite double is read from its shortest decimal. -/
theorem lex_number {x : Binary64} (hx : x.isFinite = true) (hr : EndsNumber rest) :
    lex stack (x.shortest.positional ++ rest) = (lex stack rest).map ([.number ⟨false, x.rank⟩] ++ ·) := by
  have hn := numeral_positional (shortest_zero hx) hr
  obtain ⟨c, cs, hp, hc⟩ := positional_head x.shortest
  rw [hp] at hn ⊢
  refine lex_cons (t := ⟨some (.number ⟨false, x.rank⟩), stack, rest⟩) ?_
  rw [next_digit hc, ← Binary64.ofDecimal_shortest x hx]
  exact congrArg _ hn

/-! ## Templates -/

/-- A `$` at the end of one text and a brace at the start of the next. -/
def glues (s t : List Char) : Bool := s.getLast? = some '$' && t.head? = some '\x7b'

theorem templateChars_head {s : List Char} (h : (templateChars s).head? = some '\x7b') : s.head? = some '\x7b' := by
  cases s with
  | nil => exact h
  | cons c s =>
    simp only [templateChars] at h
    repeat' split at h
    all_goals simp_all

theorem templateChars_ne_nil {s : List Char} (h : s ≠ []) : templateChars s ≠ [] := by
  cases s with
  | nil => exact h
  | cons c s =>
    simp only [templateChars]
    repeat' split
    all_goals simp

theorem templateChars_append {s t : List Char} (h : glues s t = false) :
    templateChars (s ++ t) = templateChars s ++ templateChars t := by
  induction s with
  | nil => rfl
  | cons c s ih =>
    have hhead : (c = '$' && (s ++ t).head? = some '\x7b') = (c = '$' && s.head? = some '\x7b') := by
      cases s with
      | nil => simpa [glues] using h
      | cons d s => rfl
    have hs : glues s t = false := by
      cases s with
      | nil => rfl
      | cons d s => simpa [glues] using h
    simp only [List.cons_append, templateChars, hhead, ih hs, List.append_assoc]

/-- A text between back-ticks is read as itself, unless it ends in a `$` that a brace follows. -/
theorem quasiText_template {s cs : List Char} (h : glues s cs = false) :
    quasiText (templateChars s ++ cs) = (quasiText cs).map fun r => (s ++ r.1, r.2) := by
  induction s with
  | nil => exact Option.map_id'.symm
  | cons c s ih =>
    have hs : glues s cs = false := by
      cases s with
      | nil => rfl
      | cons d s => simpa [glues] using h
    have hpush : push c (quasiText (templateChars s ++ cs)) = (quasiText cs).map fun r => (c :: s ++ r.1, r.2) := by
      rw [ih hs, push, Option.map_map]
      rfl
    rw [← hpush]
    simp only [templateChars, List.append_assoc]
    have escaped : ∀ d v, unescaped? d = some v → c = v →
        quasiText ('\\' :: d :: (templateChars s ++ cs)) = push c (quasiText (templateChars s ++ cs)) := by
      intro d v hv heq
      subst heq
      rw [quasiText_escape, hv]
      rfl
    split
    · exact escaped '\\' _ rfl (by assumption)
    split
    · exact escaped '\x60' _ rfl (by assumption)
    split
    · exact escaped '$' _ rfl (by simp_all)
    split
    · exact escaped 'n' _ rfl (by assumption)
    split
    · exact escaped 'r' _ rfl (by assumption)
    split
    · exact escaped 't' _ rfl (by assumption)
    refine @quasiText_plain c (templateChars s ++ cs) (by simp_all) ?_
    intro hdollar hbrace
    subst hdollar
    by_cases he : s = []
    · simp_all [glues, templateChars]
    · rw [List.head?_append_of_ne_nil _ (templateChars_ne_nil he)] at hbrace
      have := templateChars_head hbrace
      simp_all

/-- A `$` that is split from the brace after it opens a substitution. -/
theorem quasiText_glued {s cs : List Char} (h : glues s cs = true) :
    quasiText (templateChars s ++ cs) = some (s.dropLast, false, cs.tail) := by
  obtain ⟨hs, hc⟩ : s.getLast? = some '$' ∧ cs.head? = some '\x7b' := by simpa [glues] using h
  obtain ⟨s, rfl⟩ := List.getLast?_eq_some_iff.mp hs
  obtain ⟨cs, rfl⟩ := List.head?_eq_some_iff.mp hc
  rw [templateChars_append (by simp [glues]), List.append_assoc,
    quasiText_template (by simp [glues, templateChars])]
  show Option.map _ (quasiText ('$' :: '\x7b' :: cs)) = _
  rw [quasiText_hole]
  simp

end Tokens

end TreeScript.Script
