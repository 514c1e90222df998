/-
  TreeScript.Proofs.JsonReading — every text of a value is read as that value.

  The reader is a machine that takes one character at a time, so each lemma says where the
  characters of one piece take it, on top of any stack. After a value the machine is
  `Ready`: whatever may follow the value, it treats as following that value. This is where
  numbers differ from the rest, since only what follows shows that a number is over.
  Lists and objects are read by one argument (`Collection`), which asks of a member only
  that the machine is ready after it.
-/

import TreeScript.Json.Reader
import TreeScript.Proofs.JsonGrammar
import TreeScript.Proofs.Rounding

namespace TreeScript.Json

/-! ## Strings -/

namespace Quoted

/-- A string that goes on with all of some characters. -/
def run : Quoted → List Char → Option Quoted
  | q, [] => some q
  | q, c :: cs =>
    match q.step c with
    | .goes q => q.run cs
    | .closes | .fails _ => none

theorem run_append (q : Quoted) (cs cs' : List Char) : q.run (cs ++ cs') = (q.run cs).bind (·.run cs') := by
  induction cs generalizing q with
  | nil => rfl
  | cons c cs ih =>
    rw [List.cons_append, run, run]
    cases q.step c with
    | goes q => exact ih q
    | closes => rfl
    | fails f => rfl

theorem code_withPlace (q : Quoted) (p : Place) (u : Nat) : { q with place := p }.code u = q.code u := by
  obtain ⟨place, chars, half, fault⟩ := q
  cases half <;> rfl

theorem hexDigit?_digitChar : ∀ d < 16,
    hexDigit? (Nat.digitChar d) = some d ∧ hexDigit? (Nat.digitChar d).toUpper = some d := by
  decide

theorem hexDigit?_of_mem {d : Nat} {cs : List Char} (hd : d < 16) (h : cs ∈ hexDigit d) :
    ∃ c, cs = [c] ∧ hexDigit? c = some d := by
  obtain ⟨hlower, hupper⟩ := hexDigit?_digitChar d hd
  rcases h with h | h
  · exact ⟨_, h, hlower⟩
  · exact ⟨_, h, hupper⟩

theorem run_hexDigit (q : Quoted) (left n : Nat) {d : Nat} {cs : List Char} (hd : d < 16) (h : cs ∈ hexDigit d)
    (rest : List Char) :
    run { q with place := .hex (left + 2) n } (cs ++ rest) =
      run { q with place := .hex (left + 1) (n * 16 + d) } rest := by
  obtain ⟨c, rfl, hc⟩ := hexDigit?_of_mem hd h
  simp [run, step, hc]

theorem run_lastDigit (q : Quoted) (n : Nat) {d : Nat} {cs : List Char} (hd : d < 16) (h : cs ∈ hexDigit d) :
    run { q with place := .hex 1 n } cs = some (q.code (n * 16 + d)) := by
  obtain ⟨c, rfl, hc⟩ := hexDigit?_of_mem hd h
  simp [run, step, hc, code_withPlace]

theorem run_unit {q : Quoted} (hq : q.place = .plain) {u : Nat} (hu : u < 0x10000) {cs : List Char} (h : cs ∈ unit u) :
    q.run cs = some (q.code u) := by
  obtain ⟨_, rfl, _, ⟨_, rfl, _, ⟨as, ha, _, ⟨bs, hb, _, ⟨es, he, ds, hd, rfl⟩, rfl⟩, rfl⟩, rfl⟩, rfl⟩ := h
  have hstart : q.run (['\\'] ++ (['u'] ++ (as ++ (bs ++ (es ++ ds))))) =
      run { q with place := .hex 4 0 } (as ++ (bs ++ (es ++ ds))) := by
    simp [run, step, hq]
  have hvalue : (((0 * 16 + u / 0x1000) * 16 + u / 0x100 % 0x10) * 16 + u / 0x10 % 0x10) * 16 + u % 0x10 = u := by omega
  rw [hstart, run_hexDigit q 2 0 (by omega) ha, run_hexDigit q 1 _ (by omega) hb, run_hexDigit q 0 _ (by omega) he,
    run_lastDigit q _ (by omega) hd, hvalue]

/-- A string after the characters `chars`, which stand last first. -/
def holding (chars : List Char) : Quoted := { chars := chars }

theorem simpleEscape?_escapes : ∀ ce ∈ escapes, ce.2 ≠ 'u' ∧ simpleEscape? ce.2 = some ce.1 := by
  decide

theorem run_character {c : Char} {cs : List Char} (h : cs ∈ character c) (chars : List Char) :
    (holding chars).run cs = some (holding (c :: chars)) := by
  have hvalid : c.toNat < 0xD800 ∨ 0xDFFF < c.toNat ∧ c.toNat < 0x110000 := c.valid
  cases h with
  | plain hcontrol hquote hslash =>
    have hcontrol : ¬ c.toNat < 0x20 := by omega
    simp [run, step, holding, hquote, hslash, hcontrol, unpaired, push]
  | letter he =>
    obtain ⟨hu, he⟩ := simpleEscape?_escapes _ he
    simp [run, step, holding, hu, he, unpaired, push]
  | unit hu hcs =>
    rw [run_unit rfl hu hcs]
    have hfirst : isFirstHalf c.toNat = false := by simp [isFirstHalf]; omega
    have hsecond : isSecondHalf c.toNat = false := by simp [isSecondHalf]; omega
    simp [code, holding, hfirst, hsecond, push]
  | pair hu hcs =>
    obtain ⟨first, hfirst, second, hsecond, rfl⟩ := hcs
    generalize hhigh : 0xD800 + (c.toNat - 0x10000) / 0x400 = high at hfirst
    generalize hlow : 0xDC00 + (c.toNat - 0x10000) % 0x400 = low at hsecond
    have hhalf : isFirstHalf high = true := by simp [isFirstHalf]; omega
    have hhalf' : isSecondHalf low = true := by simp [isSecondHalf]; omega
    have hjoined : joined high low = c := by
      have : 0x10000 + (high - 0xD800) * 0x400 + (low - 0xDC00) = c.toNat := by omega
      rw [joined, this, Char.ofNat_toNat]
    rw [run_append, run_unit rfl (by omega) hfirst]
    have hopen : code (holding chars) high = { holding chars with half := some high } := by
      simp [code, holding, hhalf]
    rw [hopen, Option.bind_some, run_unit rfl (by omega) hsecond]
    simp [code, holding, hhalf', hjoined, push]

theorem run_characters {s cs : List Char} (h : cs ∈ (s.map character).prod) (chars : List Char) :
    (holding chars).run cs = some (holding (s.reverse ++ chars)) := by
  induction s generalizing cs chars with
  | nil =>
    cases h
    rfl
  | cons c s ih =>
    obtain ⟨cs, hcs, cs', hcs', rfl⟩ := h
    rw [run_append, run_character hcs, Option.bind_some, ih hcs', List.reverse_cons, List.append_assoc,
      List.singleton_append]

theorem value_holding (chars : List Char) : (holding chars).value = .ok (String.ofList chars.reverse) := rfl

end Quoted

/-! ## Runs of the machine -/

def State.run (s : State) (cs : List Char) : State := cs.foldl State.step s

@[simp] theorem State.run_nil (s : State) : s.run [] = s := rfl

@[simp] theorem State.run_cons (s : State) (c : Char) (cs : List Char) : s.run (c :: cs) = (s.step c).run cs := rfl

@[simp] theorem State.run_append (s : State) (cs cs' : List Char) : s.run (cs ++ cs') = (s.run cs).run cs' :=
  List.foldl_append

theorem isBlank_of_mem {c : Char} (h : c ∈ [' ', '\t', '\n', '\r']) : isBlank c = true := by
  simp only [List.mem_cons, List.not_mem_nil, or_false] at h
  rcases h with rfl | rfl | rfl | rfl <;> rfl

/-- A mode that blanks do not change. -/
def Mode.Waits (mode : Mode) : Prop := ∀ stack c, isBlank c = true → stepMode mode stack c = .reading mode stack

theorem Mode.Waits.run {mode : Mode} (h : mode.Waits) {cs : List Char} (hcs : cs ∈ blanks) (stack : List Frame) :
    (State.reading mode stack).run cs = .reading mode stack := by
  induction cs with
  | nil => rfl
  | cons c cs ih =>
    have hc : State.step (.reading mode stack) c = .reading mode stack :=
      h stack c (isBlank_of_mem (hcs c List.mem_cons_self))
    rw [State.run_cons, hc]
    exact ih fun c' hc' => hcs c' (List.mem_cons_of_mem c hc')

attribute [local simp] stepMode

theorem waits_value : Mode.value.Waits := fun _ _ h => by simp [h]

theorem waits_item (before : List Draft) (first : Bool) : (Mode.item before first).Waits := fun _ _ h => by
  simp [h]

theorem waits_key (before : List (Key × Draft)) (first : Bool) : (Mode.key before first).Waits := fun _ _ h => by
  simp [h]

theorem waits_colon (before : List (Key × Draft)) (key : Key) : (Mode.colon before key).Waits := fun _ _ h => by
  simp [h]

theorem waits_after (d : Draft) : (Mode.after d).Waits := fun _ _ h => by simp [stepAfter, h]

/-- The machine takes what comes next as what follows `d`. -/
structure Ready (s : State) (d : Draft) (stack : List Frame) : Prop where
  next : ∀ c, isBlank c = true ∨ c ∈ [',', ']', '\x7d'] → s.step c = stepAfter d stack c
  last : s.finish = endAfter d stack

theorem ready_after (d : Draft) (stack : List Frame) : Ready (.reading (.after d) stack) d stack :=
  ⟨fun _ _ => rfl, rfl⟩

theorem Ready.run_blanks {s : State} {d : Draft} {stack : List Frame} (h : Ready s d stack) {cs : List Char}
    (hcs : cs ∈ blanks) : Ready (s.run cs) d stack := by
  cases cs with
  | nil => exact h
  | cons c cs =>
    have hc := isBlank_of_mem (hcs c List.mem_cons_self)
    have hstep : s.step c = .reading (.after d) stack := by
      rw [h.next c (.inl hc)]
      exact waits_after d stack c hc
    rw [State.run_cons, hstep, (waits_after d).run fun c' hc' => hcs c' (List.mem_cons_of_mem c hc')]
    exact ready_after d stack

/-! ## Strings and numbers in the machine -/

/-- A mode that hands its characters to a string. -/
theorem run_string {inside : Quoted → Mode}
    (h : ∀ q q' c stack, q.step c = .goes q' → stepMode (inside q) stack c = .reading (inside q') stack)
    {q q' : Quoted} {cs : List Char} (hcs : q.run cs = some q') (stack : List Frame) :
    (State.reading (inside q) stack).run cs = .reading (inside q') stack := by
  induction cs generalizing q with
  | nil =>
    cases hcs
    rfl
  | cons c cs ih =>
    rw [Quoted.run] at hcs
    cases hstep : q.step c with
    | goes q₁ =>
      rw [hstep] at hcs
      have hgoes : State.step (.reading (inside q) stack) c = .reading (inside q₁) stack := h q q₁ c stack hstep
      rw [State.run_cons, hgoes]
      exact ih hcs
    | closes => simp [hstep] at hcs
    | fails f => simp [hstep] at hcs

/-- A string in quotes, in a mode that the opening quote takes to `inside` and the closing quote leaves by `done`. -/
theorem run_quoted (mode : Mode) (inside : Quoted → Mode) (done : Except Fault String → Mode)
    (hopen : ∀ stack, stepMode mode stack '"' = .reading (inside {}) stack)
    (hinside : ∀ q q' c stack, q.step c = .goes q' → stepMode (inside q) stack c = .reading (inside q') stack)
    (hclose : ∀ q c stack, q.step c = .closes → stepMode (inside q) stack c = .reading (done q.value) stack)
    {s : String} {cs : List Char} (h : cs ∈ quoted s) (stack : List Frame) :
    (State.reading mode stack).run cs = .reading (done (.ok s)) stack := by
  obtain ⟨_, rfl, _, ⟨cs, hcs, _, rfl, rfl⟩, rfl⟩ := h
  have hopen : State.step (.reading mode stack) '"' = .reading (inside (Quoted.holding [])) stack := hopen stack
  have hclose := hclose (Quoted.holding (s.toList.reverse ++ [])) '"' stack rfl
  rw [Quoted.value_holding, List.append_nil, List.reverse_reverse, String.ofList_toList] at hclose
  rw [State.run_append, State.run_cons, State.run_nil, hopen, State.run_append,
    run_string hinside (Quoted.run_characters hcs []) stack, List.append_nil]
  exact hclose

theorem run_text {s : String} {cs : List Char} (h : cs ∈ quoted s) (stack : List Frame) :
    (State.reading .value stack).run cs = .reading (.after (.text s)) stack :=
  run_quoted .value .text (fun r => .after (textOf r)) (fun _ => rfl) (fun _ _ _ _ hq => by simp only [stepMode, hq])
    (fun _ _ _ hq => by simp only [stepMode, hq]) h stack

theorem run_key {s : String} {cs : List Char} (h : cs ∈ quoted s) (before : List (Key × Draft)) (first : Bool)
    (stack : List Frame) :
    (State.reading (.key before first) stack).run cs = .reading (.colon before (.ok s)) stack :=
  run_quoted (.key before first) (.keyText before) (.colon before) (fun _ => rfl)
    (fun _ _ _ _ hq => by simp only [stepMode, hq]) (fun _ _ _ hq => by simp only [stepMode, hq]) h stack

/-- The value of a digit. -/
def digitValue (c : Char) : Nat := c.toNat - '0'.toNat

theorem digit?_of_isDigit {c : Char} (h : c.isDigit = true) : Numeral.digit? c = some (digitValue c) := if_pos h

theorem run_digits {n : Numeral} {cs : List Char} (h : ∀ c ∈ cs, c.isDigit = true) (stack : List Frame) :
    (State.reading (.number ⟨.whole, n⟩) stack).run cs =
      .reading (.number ⟨.whole, { n with whole := (cs.map digitValue).reverse ++ n.whole }⟩) stack := by
  induction cs generalizing n with
  | nil => rfl
  | cons c cs ih =>
    have hstep : State.step (.reading (.number ⟨.whole, n⟩) stack) c =
        .reading (.number ⟨.whole, { n with whole := digitValue c :: n.whole }⟩) stack := by
      simp [State.step, Numeral.Scan.step, digit?_of_isDigit (h c List.mem_cons_self), Numeral.Scan.digit]
    rw [State.run_cons, hstep, ih fun c' hc' => h c' (List.mem_cons_of_mem c hc')]
    simp

theorem digitsValue_toDigits (m : Nat) : Numeral.digitsValue ((Nat.toDigits 10 m).map digitValue) = m := by
  conv_rhs => rw [← @Nat.ofDigitChars_ten_toDigits m]
  rw [Numeral.digitsValue, List.foldl_map, Nat.ofDigitChars]
  simp only [digitValue, Nat.mul_comm]

/-- What is read of a decimal. -/
def wholeNumeral (negative : Bool) (m : Nat) : Numeral := { negative, whole := (Nat.toDigits 10 m).map digitValue }

theorem value_wholeNumeral (negative : Bool) {m : Nat} (hm : m < 2 ^ 63) :
    (wholeNumeral negative m).value = .ok (.whole negative m) := by
  have hfits : m < 2 ^ 64 := by omega
  unfold Numeral.value wholeNumeral
  simp only [digitsValue_toDigits]
  rw [if_pos ⟨trivial, trivial, hfits⟩]
  cases negative with
  | false => rfl
  | true =>
    by_cases hzero : m = 0
    · subst hzero
      rfl
    · have hpos : 0 < m ∧ m ≤ 2 ^ 63 := by omega
      rw [if_neg (by decide), if_pos hpos]
      simp [Number.whole, hzero]

theorem ne_of_isDigit {c x : Char} (h : c.isDigit = true) (hx : x.isDigit = false) : c ≠ x := by
  rintro rfl
  rw [h] at hx
  cases hx

theorem isBlank_of_isDigit {c : Char} (h : c.isDigit = true) : isBlank c = false := by
  have hne {x : Char} (hx : x.isDigit = false) : decide (c = x) = false := decide_eq_false (ne_of_isDigit h hx)
  simp only [isBlank]
  rw [hne (by decide), hne (by decide), hne (by decide), hne (by decide)]
  rfl

theorem begin_digit {c : Char} (h : c.isDigit = true) (stack : List Frame) :
    begin .value stack c =
      .reading (.number ⟨if digitValue c = 0 then .zero else .whole, { whole := [digitValue c] }⟩) stack := by
  have hne {x : Char} (hx : x.isDigit = false) : c ≠ x := ne_of_isDigit h hx
  unfold begin
  rw [if_neg (hne (by decide)), if_neg (hne (by decide)), if_neg (hne (by decide)), if_neg (hne (by decide)),
    if_neg (hne (by decide)), if_neg (hne (by decide))]
  simp [Numeral.start?, digit?_of_isDigit h, hne (by decide : Char.isDigit '-' = false)]

theorem eq_zero_of_digitValue {c : Char} (hc : c.isDigit = true) (h : digitValue c = 0) : c = '0' := by
  have hlow : 48 ≤ c.toNat := by
    simp only [Char.isDigit, Bool.and_eq_true, decide_eq_true_eq] at hc
    exact hc.1
  have hnat : c.toNat = '0'.toNat := by
    have hdiff : c.toNat - 48 = 0 := h
    show c.toNat = 48
    omega
  exact Char.toNat_inj.1 hnat

/-- What the machine has read after the sign and the first digit of a decimal. -/
theorem run_firstDigit (negative : Bool) {c : Char} (hc : c.isDigit = true) (stack : List Frame) :
    (State.reading .value stack).run ((if negative then ['-'] else []) ++ [c]) =
      .reading (.number ⟨if digitValue c = 0 then .zero else .whole, { negative, whole := [digitValue c] }⟩) stack := by
  cases negative with
  | false =>
    have hstep : State.step (.reading .value stack) c = begin .value stack c := by
      simp [State.step, isBlank_of_isDigit hc]
    exact hstep.trans (begin_digit hc stack)
  | true =>
    have hsign : State.step (.reading .value stack) '-' =
        .reading (.number ⟨.sign, { negative := true }⟩) stack := rfl
    show State.step (State.step (.reading .value stack) '-') c = _
    rw [hsign]
    simp [State.step, Numeral.Scan.step, digit?_of_isDigit hc, Numeral.Scan.digit]

/-- What the machine has read after a decimal. -/
theorem run_decimal (negative : Bool) (m : Nat) (stack : List Frame) :
    ∃ phase : Numeral.Phase, (phase = .zero ∨ phase = .whole) ∧
      (State.reading .value stack).run (decimal negative m) =
        .reading (.number ⟨phase, { negative, whole := ((Nat.toDigits 10 m).map digitValue).reverse }⟩) stack := by
  have hdigit : ∀ c ∈ Nat.toDigits 10 m, c.isDigit = true := fun c hc =>
    Nat.isDigit_of_mem_toDigits (by decide) (by decide) hc
  have hhead : m ≠ 0 → (Nat.toDigits 10 m).head? ≠ some '0' := Decimal.toDigits_head
  have hzero : m = 0 → Nat.toDigits 10 m = ['0'] := by
    rintro rfl
    rfl
  obtain ⟨c, cs, hcs⟩ := List.exists_cons_of_ne_nil (@Nat.toDigits_ne_nil m 10)
  rw [hcs] at hdigit hhead hzero
  have hc := hdigit c List.mem_cons_self
  have hsplit : decimal negative m = ((if negative then ['-'] else []) ++ [c]) ++ cs := by
    rw [decimal, hcs, List.append_assoc, List.singleton_append]
  rw [hsplit, State.run_append, run_firstDigit negative hc, hcs]
  -- After a leading zero no digit may follow; only zero itself begins with one.
  by_cases hm : m = 0
  · cases hzero hm
    exact ⟨.zero, .inl rfl, rfl⟩
  · have hvalue : digitValue c ≠ 0 := by
      intro h
      exact hhead hm (by rw [eq_zero_of_digitValue hc h]; rfl)
    rw [if_neg hvalue]
    refine ⟨.whole, .inr rfl, ?_⟩
    rw [run_digits fun c' hc' => hdigit c' (List.mem_cons_of_mem c hc')]
    simp

theorem ready_number {phase : Numeral.Phase} (hphase : phase = .zero ∨ phase = .whole) {read : Numeral} {x : Number}
    (hvalue : (Numeral.Scan.mk phase read).numeral.value = .ok x) (stack : List Frame) :
    Ready (.reading (.number ⟨phase, read⟩) stack) (.number x) stack := by
  have hdraft : draftOf (Numeral.Scan.mk phase read).numeral.value = .number x := by rw [hvalue]; rfl
  constructor
  · intro c hc
    have hends : (Numeral.Scan.mk phase read).step c = .ends := by
      simp only [isBlank, Bool.or_eq_true, decide_eq_true_eq, List.mem_cons, List.not_mem_nil, or_false] at hc
      rcases hphase with rfl | rfl <;> rcases hc with (((rfl | rfl) | rfl) | rfl) | rfl | rfl | rfl <;> rfl
    simp only [State.step, stepMode, hends, hdraft]
  · have hcomplete : phase.complete = true := by rcases hphase with rfl | rfl <;> rfl
    simp only [State.finish, hcomplete, if_true, hdraft]

/-! ## Lists and objects -/

/-- What lists and objects have in common for the machine; `β` is what it keeps of a member. -/
structure Collection (β : Type) where
  awaiting : List β → Bool → Mode
  frame : List β → β → Frame
  held : β → Draft
  closing : Char
  whole : List β → Draft
  waits : ∀ before first, (awaiting before first).Waits
  closing_mem : closing ∈ [',', ']', '\x7d']
  comma : ∀ m before stack,
    stepAfter (held m) (frame before m :: stack) ',' = .reading (awaiting (m :: before) false) stack
  close : ∀ m before stack,
    stepAfter (held m) (frame before m :: stack) closing = .reading (.after (whole (m :: before).reverse)) stack
  empty : ∀ stack, stepMode (awaiting [] true) stack closing = .reading (.after (whole [])) stack

def listItems : Collection Draft where
  awaiting := .item
  frame before _ := .item before
  held := id
  closing := ']'
  whole := .items
  waits := waits_item
  closing_mem := by decide
  comma _ _ _ := rfl
  close _ _ _ := rfl
  empty _ := rfl

def objectEntries : Collection (Key × Draft) where
  awaiting := .key
  frame before m := .entry before m.1
  held := Prod.snd
  closing := '\x7d'
  whole := .entries
  waits := waits_key
  closing_mem := by decide
  comma _ _ _ := rfl
  close _ _ _ := rfl
  empty _ := rfl

namespace Collection

variable {β : Type} (k : Collection β)

/-- Where a member is awaited, the texts of a language are read as `m`. -/
def Member (l : Language Char) (m : β) : Prop :=
  ∀ cs ∈ l, ∀ before first stack,
    Ready ((State.reading (k.awaiting before first) stack).run cs) (k.held m) (k.frame before m :: stack)

variable {k} {l : Language Char} {m : β} {ls : List (Language Char)} {ms : List β}

theorem Member.padded (h : k.Member l m) : k.Member (padded l) m := by
  rintro _ ⟨_, ⟨left, hleft, cs, hcs, rfl⟩, right, hright, rfl⟩ before first stack
  rw [State.run_append, State.run_append, (k.waits before first).run hleft]
  exact (h cs hcs before first stack).run_blanks hright

/-- After a member come the others, each after a comma, and then the end. -/
theorem run_more (h : List.Forall₂ k.Member ls ms) {cs : List Char}
    (hcs : cs ∈ (ls.map fun l => mark ',' * Json.padded l).prod) {s : State} {before : List β} {stack : List Frame}
    (hs : Ready s (k.held m) (k.frame before m :: stack)) :
    s.run (cs ++ [k.closing]) = .reading (.after (k.whole ((m :: before).reverse ++ ms))) stack := by
  induction h generalizing m s before cs with
  | nil =>
    cases hcs
    rw [List.append_nil]
    exact (hs.next _ (.inr k.closing_mem)).trans (k.close m before stack)
  | @cons l m' ls ms hl hls ih =>
    obtain ⟨_, ⟨_, rfl, cs₁, hcs₁, rfl⟩, cs₂, hcs₂, rfl⟩ := hcs
    have hcomma : s.step ',' = .reading (k.awaiting (m :: before) false) stack :=
      (hs.next _ (.inr (by decide))).trans (k.comma m before stack)
    show s.run (',' :: cs₁ ++ cs₂ ++ [k.closing]) = _
    rw [List.append_assoc, List.cons_append, State.run_cons, hcomma, State.run_append,
      ih hcs₂ (hl.padded cs₁ hcs₁ (m :: before) false stack)]
    simp

theorem run_commas (h : List.Forall₂ k.Member ls ms) {cs : List Char} (hcs : cs ∈ commas ls) (stack : List Frame) :
    (State.reading (k.awaiting [] true) stack).run (cs ++ [k.closing]) = .reading (.after (k.whole ms)) stack := by
  cases h with
  | nil =>
    rw [State.run_append, (k.waits [] true).run hcs]
    exact k.empty stack
  | cons hl hls =>
    obtain ⟨cs₁, hcs₁, cs₂, hcs₂, rfl⟩ := hcs
    rw [List.append_assoc, State.run_append, run_more hls hcs₂ (hl.padded cs₁ hcs₁ [] true stack)]
    rfl

end Collection

/-! ## Values -/

/-- A character with which a value can begin, in a list as well as elsewhere. -/
structure Begins (c : Char) : Prop where
  solid : isBlank c = false
  opens : c ≠ ']'
  item : ∀ before first stack, begin (.item before first) stack c = begin .value (.item before :: stack) c

theorem begins_of_mem {c : Char} (h : c ∈ ['"', '[', '\x7b', 't', 'f', 'n', '-']) : Begins c := by
  simp only [List.mem_cons, List.not_mem_nil, or_false] at h
  rcases h with rfl | rfl | rfl | rfl | rfl | rfl | rfl <;> exact ⟨rfl, by decide, fun _ _ _ => rfl⟩

theorem begins_of_isDigit {c : Char} (h : c.isDigit = true) : Begins c := by
  refine ⟨isBlank_of_isDigit h, ne_of_isDigit h (by decide), fun before first stack => ?_⟩
  have hstart : ∃ s, Numeral.start? c = some s := by
    rw [Numeral.start?, if_neg (ne_of_isDigit h (by decide)), digit?_of_isDigit h]
    exact ⟨_, rfl⟩
  obtain ⟨s, hs⟩ := hstart
  simp only [begin, hs]

/-- The texts of a language are read as `d`. -/
structure Reads (l : Language Char) (d : Draft) : Prop where
  begins : ∀ cs ∈ l, ∃ c rest, cs = c :: rest ∧ Begins c
  ready : ∀ cs ∈ l, ∀ stack, Ready ((State.reading .value stack).run cs) d stack

theorem Reads.item {l : Language Char} {d : Draft} (h : Reads l d) : listItems.Member l d := by
  intro cs hcs before first stack
  obtain ⟨c, rest, rfl, hc⟩ := h.begins cs hcs
  have hitem : State.step (.reading (.item before first) stack) c = begin .value (.item before :: stack) c := by
    simp [State.step, hc.solid, hc.opens, hc.item]
  have hvalue : State.step (.reading .value (.item before :: stack)) c = begin .value (.item before :: stack) c := by
    simp [State.step, hc.solid]
  have hready := h.ready (c :: rest) hcs (.item before :: stack)
  rw [State.run_cons, hvalue, ← hitem] at hready
  exact hready

theorem Reads.entry {l : Language Char} {d : Draft} (h : Reads l d) (key : String) :
    objectEntries.Member (quoted key * (blanks * (mark ':' * (blanks * l)))) (.ok key, d) := by
  intro text htext before first stack
  obtain ⟨cs, hkey, _, ⟨left, hleft, _, ⟨_, rfl, _, ⟨right, hright, cs', hvalue, rfl⟩, rfl⟩, rfl⟩, rfl⟩ := htext
  have hcolon : State.step (.reading (.colon before (.ok key)) stack) ':' =
      .reading .value (.entry before (.ok key) :: stack) := rfl
  have hrun : (State.reading (.key before first) stack).run (cs ++ (left ++ ([':'] ++ (right ++ cs')))) =
      (State.reading .value (.entry before (.ok key) :: stack)).run cs' := by
    rw [State.run_append, run_key hkey, State.run_append, (waits_colon _ _).run hleft, State.run_append, State.run_cons,
      State.run_nil, hcolon, State.run_append, waits_value.run hright]
  show Ready ((State.reading (.key before first) stack).run _) _ _
  rw [hrun]
  exact h.ready cs' hvalue _

/-- A layer as a draft. -/
def drafts : Layer Draft → Draft
  | .null => .null
  | .boolean b => .boolean b
  | .number n => .number n
  | .text s => .text s
  | .items ds => .items ds
  | .entries es => .entries (es.map fun e => (.ok e.1, e.2))

/-- A value as a draft without faults. -/
def Value.draft (v : Value) : Draft := v.fold drafts

theorem Value.ind {P : Value → Prop} (null : P .null) (boolean : ∀ b, P (.boolean b)) (number : ∀ n, P (.number n))
    (text : ∀ s, P (.text s)) (items : ∀ vs, (∀ v ∈ vs, P v) → P (.items vs))
    (entries : ∀ es, (∀ e ∈ es, P e.2) → P (.entries es)) (v : Value) : P v :=
  @Value.rec P (fun vs => ∀ v ∈ vs, P v) (fun es => ∀ e ∈ es, P e.2) (fun e => P e.2) null boolean number text items
    entries (by simp) (fun _ _ hv hvs => List.forall_mem_cons.2 ⟨hv, hvs⟩) (by simp)
    (fun _ _ he hes => List.forall_mem_cons.2 ⟨he, hes⟩) (fun _ _ hv => hv) v

theorem reads_of_run {l : Language Char} {d : Draft} {c : Char} (hc : c ∈ ['"', '[', '\x7b', 't', 'f', 'n', '-'])
    (h : ∀ cs ∈ l, (∃ rest, cs = c :: rest) ∧
      ∀ stack, (State.reading .value stack).run cs = .reading (.after d) stack) : Reads l d := by
  constructor
  · intro cs hcs
    obtain ⟨⟨rest, hrest⟩, -⟩ := h cs hcs
    exact ⟨c, rest, hrest, begins_of_mem hc⟩
  · intro cs hcs stack
    rw [(h cs hcs).2 stack]
    exact ready_after d stack

theorem reads_number (n : Number) : Reads (spellings (.number n)) (.number n) := by
  constructor
  · rintro _ ⟨negative, m, -, -, rfl⟩
    cases negative with
    | true => exact ⟨'-', _, rfl, begins_of_mem (by decide)⟩
    | false =>
      obtain ⟨c, cs, hcs⟩ := List.exists_cons_of_ne_nil (@Nat.toDigits_ne_nil m 10)
      have hc : c ∈ Nat.toDigits 10 m := hcs ▸ List.mem_cons_self
      exact ⟨c, cs, hcs, begins_of_isDigit (Nat.isDigit_of_mem_toDigits (by decide) (by decide) hc)⟩
  · rintro _ ⟨negative, m, hm, rfl, rfl⟩ stack
    obtain ⟨phase, hphase, hrun⟩ := run_decimal negative m stack
    rw [hrun]
    refine ready_number hphase ?_ stack
    rw [← value_wholeNumeral negative hm]
    simp [Numeral.Scan.numeral, wholeNumeral]

theorem reads_items {ls : List (Language Char)} {ds : List Draft} (h : List.Forall₂ Reads ls ds) :
    Reads (spellings (.items ls)) (.items ds) := by
  refine reads_of_run (c := '[') (by decide) ?_
  rintro _ ⟨_, rfl, _, ⟨cs, hcs, _, rfl, rfl⟩, rfl⟩
  exact ⟨⟨_, rfl⟩, fun stack => listItems.run_commas (h.imp fun _ _ => Reads.item) hcs stack⟩

theorem reads_entries {es : List (String × Language Char)} {ds : List (String × Draft)}
    (h : List.Forall₂ (fun e d => e.1 = d.1 ∧ Reads e.2 d.2) es ds) :
    Reads (spellings (.entries es)) (.entries (ds.map fun e => (.ok e.1, e.2))) := by
  refine reads_of_run (c := '\x7b') (by decide) ?_
  rintro _ ⟨_, rfl, _, ⟨cs, hcs, _, rfl, rfl⟩, rfl⟩
  have hmembers : List.Forall₂ objectEntries.Member
      (es.map fun e => quoted e.1 * (blanks * (mark ':' * (blanks * e.2)))) (ds.map fun e => (.ok e.1, e.2)) := by
    rw [List.forall₂_map_left_iff, List.forall₂_map_right_iff]
    refine h.imp ?_
    rintro ⟨key, l⟩ ⟨_, d⟩ ⟨rfl, hd⟩
    exact hd.entry key
  exact ⟨⟨_, rfl⟩, fun stack => objectEntries.run_commas hmembers hcs stack⟩

theorem reads_value (v : Value) : Reads (v.fold spellings) v.draft := by
  induction v using Value.ind with
  | null =>
    refine reads_of_run (c := 'n') (by decide) ?_
    rintro _ rfl
    exact ⟨⟨_, rfl⟩, fun _ => rfl⟩
  | boolean b =>
    cases b with
    | true =>
      refine reads_of_run (c := 't') (by decide) ?_
      rintro _ rfl
      exact ⟨⟨_, rfl⟩, fun _ => rfl⟩
    | false =>
      refine reads_of_run (c := 'f') (by decide) ?_
      rintro _ rfl
      exact ⟨⟨_, rfl⟩, fun _ => rfl⟩
  | number n => exact reads_number n
  | text s =>
    refine reads_of_run (c := '"') (by decide) fun cs hcs => ⟨?_, run_text hcs⟩
    obtain ⟨_, rfl, cs, -, rfl⟩ := hcs
    exact ⟨cs, rfl⟩
  | items vs ih =>
    rw [Value.draft, Value.fold, Value.fold, Value.foldItems_eq_map, Value.foldItems_eq_map]
    apply reads_items
    rw [List.forall₂_map_left_iff, List.forall₂_map_right_iff]
    exact List.forall₂_same.2 ih
  | entries es ih =>
    rw [Value.draft, Value.fold, Value.fold, Value.foldEntries_eq_map, Value.foldEntries_eq_map]
    apply reads_entries
    rw [List.forall₂_map_left_iff, List.forall₂_map_right_iff]
    exact List.forall₂_same.2 fun e he => ⟨rfl, ih e he⟩

/-- Every text of a value is read as that value, to its end. -/
theorem read_of_mem_texts {v : Value} {text : String} (h : text.toList ∈ v.texts) : read text = ⟨v.draft, false⟩ := by
  obtain ⟨_, ⟨left, hleft, cs, hcs, rfl⟩, right, hright, htext⟩ := h
  have hready : Ready ((State.reading .value []).run text.toList) v.draft [] := by
    rw [← htext]
    show Ready (State.run _ (left ++ cs ++ right)) _ _
    rw [State.run_append, State.run_append, waits_value.run hleft]
    exact ((reads_value v).ready cs hcs []).run_blanks hright
  exact hready.last

/-! ## Drafts of values -/

theorem draft_items (vs : List Value) : (Value.items vs).draft = .items (vs.map Value.draft) := by
  rw [Value.draft, Value.fold, Value.foldItems_eq_map]
  rfl

/-- An entry with the draft of its value. -/
def draftEntry (e : String × Value) : Key × Draft := (.ok e.1, e.2.draft)

theorem draft_entries (es : List (String × Value)) : (Value.entries es).draft = .entries (es.map draftEntry) := by
  rw [Value.draft, Value.fold, Value.foldEntries_eq_map, drafts, List.map_map]
  rfl

theorem values_draft {vs : List Value} (h : ∀ v ∈ vs, v.draft.value = .ok v) :
    Draft.values (vs.map Value.draft) = .ok vs := by
  induction vs with
  | nil => rfl
  | cons v vs ih =>
    rw [List.map_cons, Draft.values, h v List.mem_cons_self, ih fun v' hv' => h v' (List.mem_cons_of_mem v hv')]
    rfl

theorem entryValues_draft {es : List (String × Value)} (h : ∀ e ∈ es, e.2.draft.value = .ok e.2) :
    Draft.entryValues (es.map draftEntry) = .ok es := by
  induction es with
  | nil => rfl
  | cons e es ih =>
    rw [List.map_cons, draftEntry, Draft.entryValues, h e List.mem_cons_self,
      ih fun e' he' => h e' (List.mem_cons_of_mem e he')]
    rfl

theorem value_draft (v : Value) : v.draft.value = .ok v := by
  induction v using Value.ind with
  | null => rfl
  | boolean b => rfl
  | number n => rfl
  | text s => rfl
  | items vs ih =>
    rw [draft_items, Draft.value, values_draft ih]
    rfl
  | entries es ih =>
    rw [draft_entries, Draft.value, entryValues_draft ih]
    rfl

end TreeScript.Json
