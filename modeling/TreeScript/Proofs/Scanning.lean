/-
  TreeScript.Proofs.Scanning — brackets and literals, character by character.

  The scanner walks over a text and knows where it is: in code, in a string or in a
  template, and which brackets stand open. A bracket that is closed must be the last that
  was opened; the brace that closes a substitution leads back into its template; and a
  string must end on its line. A text is `Steady` if the scanner, in code, comes through
  it and is as it was before, whatever stands open around. Steady texts can be put together
  and put in brackets, and every text that expressions are written with is steady: what is
  in quotes never ends them, and a template's literal text neither ends it nor opens a
  substitution.
-/

import TreeScript.Proofs.Spelling

namespace TreeScript.Script

/-! ## The scanner -/

/-- What the scanner is in. After a `$` in a template, a brace opens a substitution. -/
inductive Mode where
  | code
  | string
  | stringEscape
  | template
  | dollar
  | templateEscape
  deriving DecidableEq, Repr

structure Scan where
  mode : Mode
  stack : List Bracket
  deriving DecidableEq, Repr

namespace Scan

/-- A bracket is closed: it must be the last that was opened. -/
def close (b : Bracket) : List Bracket → Option Scan
  | top :: stack => if top = b then some ⟨.code, stack⟩ else none
  | [] => none

/-- One character in code. -/
def inCode (stack : List Bracket) (c : Char) : Option Scan :=
  if c = '(' then some ⟨.code, .round :: stack⟩
  else if c = '[' then some ⟨.code, .square :: stack⟩
  else if c = '\x7b' then some ⟨.code, .curly :: stack⟩
  else if c = ')' then close .round stack
  else if c = ']' then close .square stack
  else if c = '\x7d' then
    match stack with
    | .hole :: stack => some ⟨.template, stack⟩
    | stack => close .curly stack
  else if c = '"' then some ⟨.string, stack⟩
  else if c = '\x60' then some ⟨.template, stack⟩
  else some ⟨.code, stack⟩

/-- One character of a template's text. -/
def inTemplate (stack : List Bracket) (c : Char) : Scan :=
  if c = '\x60' then ⟨.code, stack⟩
  else if c = '\\' then ⟨.templateEscape, stack⟩
  else if c = '$' then ⟨.dollar, stack⟩
  else ⟨.template, stack⟩

/-- One character; nothing is left of a scan that meets a bracket that does not fit, or a line break in a
string. -/
def step (st : Scan) (c : Char) : Option Scan :=
  match st.mode with
  | .code => inCode st.stack c
  | .string =>
    if c = '\n' || c = '\r' then none
    else if c = '"' then some ⟨.code, st.stack⟩
    else if c = '\\' then some ⟨.stringEscape, st.stack⟩
    else some st
  | .stringEscape => if c = '\n' || c = '\r' then none else some ⟨.string, st.stack⟩
  | .template => some (inTemplate st.stack c)
  | .dollar => if c = '\x7b' then some ⟨.code, .hole :: st.stack⟩ else some (inTemplate st.stack c)
  | .templateEscape => some ⟨.template, st.stack⟩

def run (st : Scan) (cs : List Char) : Option Scan := cs.foldlM step st

@[simp] theorem run_nil (st : Scan) : run st [] = some st := rfl

@[simp] theorem run_cons (st : Scan) (c : Char) (cs : List Char) : run st (c :: cs) = (step st c).bind (run · cs) := rfl

theorem run_append (st : Scan) (cs ds : List Char) : run st (cs ++ ds) = (run st cs).bind (run · ds) :=
  List.foldlM_append

end Scan

open Scan (run run_append run_cons run_nil)

/-- Every bracket, string and template of a text ends in it, and nothing else is closed. -/
def Balanced (cs : List Char) : Prop := run ⟨.code, []⟩ cs = some ⟨.code, []⟩

instance (cs : List Char) : Decidable (Balanced cs) := inferInstanceAs (Decidable (_ = _))

/-! ## Steady texts -/

/-- In code, the scanner comes through a text and is as it was. -/
def Steady (cs : List Char) : Prop := ∀ stack, run ⟨.code, stack⟩ cs = some ⟨.code, stack⟩

theorem steady_nil : Steady [] := fun _ => rfl

theorem Steady.append {cs ds : List Char} (h : Steady cs) (h' : Steady ds) : Steady (cs ++ ds) := by
  intro stack
  rw [run_append, h stack]
  exact h' stack

/-- The characters that mean something in code. -/
def strong : List Char := "()[]\x7b\x7d\"\x60".toList

theorem inCode_weak {c : Char} (h : c ∉ strong) (stack : List Bracket) : Scan.inCode stack c = some ⟨.code, stack⟩ := by
  have hne : c ≠ '(' ∧ c ≠ '[' ∧ c ≠ '\x7b' ∧ c ≠ ')' ∧ c ≠ ']' ∧ c ≠ '\x7d' ∧ c ≠ '"' ∧ c ≠ '\x60' := by
    refine ⟨?_, ?_, ?_, ?_, ?_, ?_, ?_, ?_⟩ <;> (rintro rfl; exact h (by decide))
  obtain ⟨h₁, h₂, h₃, h₄, h₅, h₆, h₇, h₈⟩ := hne
  simp [Scan.inCode, h₁, h₂, h₃, h₄, h₅, h₆, h₇, h₈]

theorem Steady.cons {c : Char} {cs : List Char} (hc : c ∉ strong) (h : Steady cs) : Steady (c :: cs) := by
  intro stack
  rw [run_cons, show Scan.step ⟨.code, stack⟩ c = _ from inCode_weak hc stack]
  exact h stack

theorem steady_of_notMem {cs : List Char} (h : ∀ c ∈ cs, c ∉ strong) : Steady cs := by
  induction cs with
  | nil => exact steady_nil
  | cons c cs ih => exact .cons (h c List.mem_cons_self) (ih fun d hd => h d (List.mem_cons_of_mem _ hd))

theorem steady_of_weak {cs : List Char} (h : cs.any strong.contains = false) : Steady cs := by
  refine steady_of_notMem fun c hc hstrong => ?_
  have hweak := forall_mem_eq_false h c hc
  rw [List.contains_eq_mem, decide_eq_false_iff_not] at hweak
  exact hweak hstrong

theorem Steady.round {cs : List Char} (h : Steady cs) : Steady ('(' :: (cs ++ [')'])) := by
  intro stack
  show run ⟨.code, .round :: stack⟩ (cs ++ [')']) = _
  rw [run_append, h]
  rfl

theorem Steady.square {cs : List Char} (h : Steady cs) : Steady ('[' :: (cs ++ [']'])) := by
  intro stack
  show run ⟨.code, .square :: stack⟩ (cs ++ [']']) = _
  rw [run_append, h]
  rfl

theorem Steady.curly {cs : List Char} (h : Steady cs) : Steady ('\x7b' :: (cs ++ ['\x7d'])) := by
  intro stack
  show run ⟨.code, .curly :: stack⟩ (cs ++ ['\x7d']) = _
  rw [run_append, h]
  rfl

/-- Between braces, blanks around a text make no difference. -/
theorem Steady.spacedCurly {cs : List Char} (h : Steady cs) : Steady ("\x7b ".toList ++ cs ++ " \x7d".toList) := by
  have hinner : Steady (' ' :: (cs ++ [' '])) := .cons (by decide) (h.append (steady_of_weak (by decide)))
  have hcurly : "\x7b ".toList ++ cs ++ " \x7d".toList = '\x7b' :: (' ' :: (cs ++ [' ']) ++ ['\x7d']) := by simp
  rw [hcurly]
  exact hinner.curly

theorem intercalate_cons (sep : List Char) (x : List Char) (xs : List (List Char)) :
    List.intercalate sep (x :: xs) = x ++ xs.flatMap (sep ++ ·) := by
  induction xs generalizing x with
  | nil => simp [List.intercalate]
  | cons y ys ih =>
    rw [List.intercalate_cons_cons, ih, List.flatMap_cons]
    simp

theorem steady_flatMap {α : Type} {xs : List α} {f : α → List Char} (h : ∀ x ∈ xs, Steady (f x)) :
    Steady (xs.flatMap f) := by
  induction xs with
  | nil => exact steady_nil
  | cons x xs ih =>
    exact (h x List.mem_cons_self).append (ih fun y hy => h y (List.mem_cons_of_mem _ hy))

theorem steady_commas {texts : List (List Char)} (h : ∀ t ∈ texts, Steady t) : Steady (commas texts) := by
  cases texts with
  | nil => exact steady_nil
  | cons t ts =>
    rw [commas, intercalate_cons]
    refine (h t List.mem_cons_self).append (steady_flatMap fun u hu => ?_)
    exact (steady_of_weak (by decide)).append (h u (List.mem_cons_of_mem _ hu))

/-! ## Names and numbers -/

theorem continuesName_strong : ∀ c ∈ strong, continuesName c = false :=
  forall_mem_ascii continuesName_of_lt (by decide)

theorem continuesName_of_mem {x : String} (h : isName x = true) {d : Char} (hd : d ∈ x.toList) :
    continuesName d = true := by
  obtain ⟨c, cs, hx, hc⟩ := isName_head h
  rw [isName, hx, isNameChars, Bool.and_eq_true, List.all_eq_true] at h
  rw [hx] at hd
  rcases List.mem_cons.1 hd with rfl | hd
  · rw [continuesName, hc, Bool.true_or]
  · exact h.2 d hd

theorem continuesName_of_isDigit {c : Char} (h : c.isDigit = true) : continuesName c = true := by
  have hrange : 0x30 ≤ c.toNat ∧ c.toNat ≤ 0x39 := Char.isDigit_iff_toNat.mp h
  have hdigit : Text.CharSet.contains ⟨[(0x30, 0x39)]⟩ c = true := by simpa [Text.CharSet.contains] using hrange
  rw [continuesName_of_lt (by omega), continuesAscii, hdigit, Bool.or_true]

theorem steady_name {x : String} (h : isName x = true) : Steady x.toList := by
  refine steady_of_notMem fun d hd hstrong => ?_
  have hcontinues := continuesName_of_mem h hd
  rw [continuesName_strong d hstrong] at hcontinues
  cases hcontinues

theorem isDigit_strong : ∀ c ∈ strong, c.isDigit = false := forall_mem_eq_false (by decide)

theorem positional_weak (d : Decimal) : ∀ c ∈ d.positional, c.isDigit = true ∨ c = '.' := by
  have hdigits : ∀ c ∈ Nat.toDigits 10 d.digits, c.isDigit = true := fun c hc =>
    Nat.isDigit_of_mem_toDigits (by decide) (by decide) hc
  intro c hc
  unfold Decimal.positional at hc
  simp only at hc
  split at hc
  · rcases List.mem_append.1 hc with hc | hc
    · exact .inl (hdigits c hc)
    · exact .inl (isDigit_zeros _ c hc)
  · split at hc
    · rcases List.mem_append.1 hc with hc | hc
      · exact .inl (hdigits c (List.mem_of_mem_take hc))
      · rcases List.mem_cons.1 hc with rfl | hc
        · exact .inr rfl
        · exact .inl (hdigits c (List.mem_of_mem_drop hc))
    · rcases List.mem_cons.1 hc with rfl | hc
      · exact .inl rfl
      · rcases List.mem_cons.1 hc with rfl | hc
        · exact .inr rfl
        · rcases List.mem_append.1 hc with hc | hc
          · exact .inl (isDigit_zeros _ c hc)
          · exact .inl (hdigits c hc)

theorem steady_number (x : Binary64) : Steady (numberChars x) := by
  have hpositional : Steady x.shortest.positional := by
    refine steady_of_notMem fun c hc hstrong => ?_
    rcases positional_weak _ c hc with h | rfl
    · rw [isDigit_strong c hstrong] at h
      cases h
    · exact absurd hstrong (by decide)
  unfold numberChars
  split
  · exact steady_of_weak (by decide)
  · refine Steady.append ?_ ?_
    · split
      · exact steady_of_weak (by decide)
      · exact steady_nil
    · split
      · exact steady_of_weak (by decide)
      · exact hpositional

/-! ## Strings -/

theorem run_quotedChar (c : Char) (stack : List Bracket) : run ⟨.string, stack⟩ (quotedChar c) = some ⟨.string, stack⟩ := by
  unfold quotedChar
  split
  · rfl
  split
  · rfl
  split
  · rfl
  split
  · rfl
  split
  · rfl
  rename_i hslash hquote hline hreturn _
  simp [Scan.step, hslash, hquote, hline, hreturn]

/-- What is in quotes stays in them. -/
theorem steady_quoted (s : List Char) : Steady (quotedChars s) := by
  have hinside (s : List Char) (stack : List Bracket) :
      run ⟨.string, stack⟩ (s.flatMap quotedChar) = some ⟨.string, stack⟩ := by
    induction s with
    | nil => rfl
    | cons c s ih =>
      rw [List.flatMap_cons, run_append, run_quotedChar]
      exact ih
  intro stack
  show run ⟨.string, stack⟩ (s.flatMap quotedChar ++ ['"']) = _
  rw [run_append, hinside]
  rfl

/-! ## Templates -/

/-- After a `$` that no brace follows, the scanner is in the template as before. -/
theorem run_dollar {stack : List Bracket} {c : Char} (h : c ≠ '\x7b') (cs : List Char) :
    run ⟨.dollar, stack⟩ (c :: cs) = run ⟨.template, stack⟩ (c :: cs) := by
  simp [Scan.step, h]

/-- The literal text of a template stays in it, unless it ends in a `$` that a brace follows. -/
theorem run_templateChars {s cs : List Char} (stack : List Bracket) (h : glues s cs = false) (hne : cs ≠ []) :
    run ⟨.template, stack⟩ (templateChars s ++ cs) = run ⟨.template, stack⟩ cs := by
  induction s with
  | nil => rfl
  | cons c s ih =>
    have hs : glues s cs = false := by
      cases s with
      | nil => rfl
      | cons d s => simpa [glues] using h
    rw [← ih hs]
    simp only [templateChars, List.append_assoc]
    split
    · rfl
    split
    · rfl
    split
    · rfl
    split
    · rfl
    split
    · rfl
    split
    · rfl
    rename_i hslash htick hbrace _ _ _
    by_cases hdollar : c = '$'
    · subst hdollar
      -- the character after the `$` is no brace, be it of this text or of what follows
      have hnext : (templateChars s ++ cs).head? ≠ some '\x7b' := by
        by_cases he : s = []
        · simpa [he, templateChars, glues] using h
        · rw [List.head?_append_of_ne_nil _ (templateChars_ne_nil he)]
          intro hhead
          have := templateChars_head hhead
          simp_all
      obtain ⟨d, rest, hrest⟩ := List.exists_cons_of_ne_nil (List.append_ne_nil_of_right_ne_nil (templateChars s) hne)
      rw [hrest] at hnext ⊢
      exact run_dollar (by simpa using hnext) rest
    · simp [Scan.step, Scan.inTemplate, hslash, htick, hdollar]

theorem run_hole {e : List Char} (h : Steady e) (stack : List Bracket) (cs : List Char) :
    run ⟨.template, stack⟩ ("$\x7b".toList ++ e ++ '\x7d' :: cs) = run ⟨.template, stack⟩ cs := by
  show run ⟨.code, .hole :: stack⟩ (e ++ '\x7d' :: cs) = _
  rw [run_append, h]
  rfl

/-- A template is steady if its substitutions are, and if no `$` at the end of a literal part is split from a brace
after it. -/
theorem steady_template {ps : List TemplatePart} (hparts : ∀ e, .expr e ∈ ps → Steady e.chars)
    (hunsplit : TemplatePart.unsplitAll ps = true) : Steady (Expr.template ps).chars := by
  have hinside (stack : List Bracket) :
      run ⟨.template, stack⟩ (TemplatePart.charsAll ps ++ ['\x60']) = some ⟨.code, stack⟩ := by
    induction ps with
    | nil => rfl
    | cons p ps ih =>
      have hrest := ih fun e he => hparts e (List.mem_cons_of_mem _ he)
      cases p with
      | text t =>
        simp only [TemplatePart.unsplitAll, Bool.and_eq_true, Bool.not_eq_true'] at hunsplit
        rw [TemplatePart.charsAll, List.append_assoc, run_templateChars stack _ (by simp)]
        · exact hrest hunsplit.2
        · rw [glues_charsAll]
          exact hunsplit.1
      | expr e =>
        simp only [TemplatePart.unsplitAll, Bool.and_eq_true] at hunsplit
        rw [TemplatePart.charsAll, List.append_assoc, List.cons_append, run_hole (hparts e List.mem_cons_self)]
        exact hrest hunsplit.2
  intro stack
  exact hinside stack

/-! ## Lines -/

/-- Lines one after another, each after a line break. -/
def joined (ls : List Line) : List Char := ls.flatMap fun l => '\n' :: l.padded

theorem joined_append (ls ls' : List Line) : joined (ls ++ ls') = joined ls ++ joined ls' := List.flatMap_append

/-- In code, a line break at the start makes no difference. -/
theorem run_unlines (stack : List Bracket) (ls : List Line) :
    run ⟨.code, stack⟩ (unlines (ls.map Line.padded)) = run ⟨.code, stack⟩ (joined ls) := by
  cases ls with
  | nil => rfl
  | cons l ls =>
    rw [List.map_cons, unlines, intercalate_cons, List.flatMap_map]
    rfl

/-- A line leaves open what its text does. -/
theorem run_line {stack stack' : List Bracket} {cs : List Char} (h : run ⟨.code, stack⟩ cs = some ⟨.code, stack'⟩)
    (level : Nat) : run ⟨.code, stack⟩ (joined [⟨level, cs⟩]) = some ⟨.code, stack'⟩ := by
  have hpad : Steady (pad level) := steady_of_notMem fun c hc => by
    rw [List.eq_of_mem_replicate hc]
    decide
  have hline : joined [⟨level, cs⟩] = '\n' :: pad level ++ cs := by simp [joined, Line.padded]
  rw [hline, run_append, hpad.cons (by decide) stack]
  exact h

/-- Lines in braces leave open, once the brace is closed, what stands before the opening one. -/
theorem run_braced {stack stack' : List Bracket} {lead head : List Char} {ls : List Line} (level : Nat)
    (h : run ⟨.code, stack⟩ lead = some ⟨.code, stack'⟩) (hhead : Steady head) (hls : Steady (joined ls)) :
    ∃ between, run ⟨.code, stack⟩ (joined (braced level (lead ++ head) ls).done) = some ⟨.code, between⟩ ∧
      run ⟨.code, between⟩ (braced level (lead ++ head) ls).lead = some ⟨.code, stack'⟩ := by
  have hopen : run ⟨.code, stack⟩ (lead ++ head) = some ⟨.code, stack'⟩ := by
    rw [run_append, h]
    exact hhead stack'
  cases ls with
  | nil =>
    refine ⟨stack, rfl, ?_⟩
    rw [braced, run_append, hopen]
    rfl
  | cons l ls =>
    refine ⟨.curly :: stack', ?_, rfl⟩
    have hbrace : run ⟨.code, stack⟩ (lead ++ head ++ ['\x7b']) = some ⟨.code, .curly :: stack'⟩ := by
      rw [run_append, hopen]
      rfl
    rw [braced, ← List.singleton_append, joined_append, run_append, run_line hbrace]
    exact hls _

/-! ## Statements -/

/-- After any text on its first line, a statement leaves open what that text does. -/
def Still (t : Stmt) : Prop :=
  ∀ (level : Nat) (lead : List Char) (stack stack' : List Bracket), run ⟨.code, stack⟩ lead = some ⟨.code, stack'⟩ →
    run ⟨.code, stack⟩ (joined (t.lines level lead)) = some ⟨.code, stack'⟩

theorem Still.steady {t : Stmt} (h : Still t) (level : Nat) : Steady (joined (t.lines level [])) := by
  intro stack
  exact h level [] stack stack rfl

theorem steady_linesAll {ts : List Stmt} (h : ∀ t ∈ ts, Still t) (level : Nat) :
    Steady (joined (Stmt.linesAll level ts)) := by
  induction ts with
  | nil => exact steady_nil
  | cons t ts ih =>
    rw [Stmt.linesAll, joined_append]
    exact ((h t List.mem_cons_self).steady level).append (ih fun u hu => h u (List.mem_cons_of_mem _ hu))

theorem Still.balanced {t : Stmt} (h : Still t) (level : Nat) : Balanced (t.text level).toList := by
  rw [Balanced, Stmt.text, String.toList_ofList, Stmt.chars, run_unlines]
  exact h.steady level []

/-- A statement on one line. -/
theorem still_of_line {t : Stmt} (cs : List Char) (hlines : ∀ level lead, t.lines level lead = [⟨level, lead ++ cs⟩])
    (h : Steady cs) : Still t := by
  intro level lead stack stack' hlead
  rw [hlines]
  refine run_line ?_ level
  rw [run_append, hlead]
  exact h stack'

/-- A statement that ends with a list in braces. -/
theorem still_of_braced {t : Stmt} (head : List Char) {body : List Stmt}
    (hlines : ∀ level lead,
      t.lines level lead = (braced level (lead ++ head) (Stmt.linesAll (level + 1) body)).lines level)
    (hhead : Steady head) (hbody : ∀ u ∈ body, Still u) : Still t := by
  intro level lead stack stack' hlead
  obtain ⟨between, hdone, hrest⟩ := run_braced level hlead hhead (steady_linesAll hbody (level + 1))
  rw [hlines, Opened.lines, joined_append, run_append, hdone]
  exact run_line hrest level

section Statements

variable {e : Expr} {name : String} {body : List Stmt}

attribute [local simp] Stmt.lines

theorem still_declare (kind : Tree.VarKind) (hname : Steady name.toList) (he : Steady e.chars) :
    Still (.declare kind name e) := by
  refine still_of_line
    (kind.keyword.toList ++ ' ' :: (name.toList ++ " = ".toList ++ e.chars ++ [';'])) ?_ ?_
  · intro level lead
    simp
  · have hkeyword : Steady kind.keyword.toList := by
      cases kind <;> exact steady_of_weak (by decide)
    refine hkeyword.append (Steady.cons (by decide) ?_)
    exact ((hname.append (steady_of_weak (by decide))).append he).append (steady_of_weak (by decide))

theorem still_function {params : List String} (hname : Steady name.toList) (hparams : ∀ x ∈ params, Steady x.toList)
    (hbody : ∀ u ∈ body, Still u) : Still (.function name params body) := by
  refine still_of_braced
    ("function ".toList ++ name.toList ++ '(' :: (commas (params.map String.toList) ++ ") ".toList)) ?_ ?_ hbody
  · intro level lead
    rw [Stmt.lines]
  · have hcommas : Steady (commas (params.map String.toList)) := by
      refine steady_commas fun t ht => ?_
      obtain ⟨x, hx, rfl⟩ := List.mem_map.1 ht
      exact hparams x hx
    have hround : '(' :: (commas (params.map String.toList) ++ ") ".toList) =
        '(' :: (commas (params.map String.toList) ++ [')']) ++ [' '] := by simp
    rw [hround]
    exact ((steady_of_weak (by decide)).append hname).append (hcommas.round.append (steady_of_weak (by decide)))

theorem steady_test (he : Steady e.chars) : Steady ("if (".toList ++ e.chars ++ ") ".toList) := by
  have hround : "if (".toList ++ e.chars ++ ") ".toList = "if ".toList ++ ('(' :: (e.chars ++ [')'])) ++ [' '] := by simp
  rw [hround]
  exact ((steady_of_weak (by decide)).append he.round).append (steady_of_weak (by decide))

theorem still_branch (he : Steady e.chars) (hbody : ∀ u ∈ body, Still u) : Still (.branch e body none) := by
  refine still_of_braced _ ?_ (steady_test he) hbody
  intro level lead
  rw [Stmt.lines]

theorem still_branch_else {alternate : Stmt} (he : Steady e.chars) (hbody : ∀ u ∈ body, Still u)
    (halternate : Still alternate) : Still (.branch e body (some alternate)) := by
  intro level lead stack stack' hlead
  obtain ⟨between, hdone, hrest⟩ :=
    run_braced level hlead (steady_test he) (steady_linesAll hbody (level + 1))
  rw [Stmt.lines, joined_append, run_append, hdone]
  refine halternate level _ between stack' ?_
  rw [run_append, hrest]
  exact steady_of_weak (by decide) stack'

theorem still_ret (he : Steady e.chars) : Still (.ret e) := by
  refine still_of_line ("return ".toList ++ e.chars ++ [';']) ?_ ?_
  · intro level lead
    simp
  · exact ((steady_of_weak (by decide)).append he).append (steady_of_weak (by decide))

theorem still_throwError (message : String) : Still (.throwError message) := by
  refine still_of_line ("throw new Error".toList ++ ('(' :: (quotedChars message.toList ++ [')'])) ++ [';']) ?_ ?_
  · intro level lead
    simp
  · exact ((steady_of_weak (by decide)).append (steady_quoted _).round).append (steady_of_weak (by decide))

theorem still_expr (he : Steady e.chars) : Still (.expr e) := by
  refine still_of_line (e.chars ++ [';']) ?_ ?_
  · intro level lead
    simp
  · exact he.append (steady_of_weak (by decide))

theorem still_block (hbody : ∀ u ∈ body, Still u) : Still (.block body) := by
  refine still_of_braced [] ?_ steady_nil hbody
  intro level lead
  rw [Stmt.lines, List.append_nil]

end Statements

end TreeScript.Script
