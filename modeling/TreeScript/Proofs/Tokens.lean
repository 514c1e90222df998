/-
  TreeScript.Proofs.Tokens — scripts as lists of tokens.

  `lex` follows the lexical rules of JavaScript for names, decimal numbers, strings in
  double quotes, templates and punctuation marks, each mark being the longest that
  fits. It keeps the brackets that stand open: a closing bracket must fit the last
  of them, and a brace that closes a substitution goes on with the template's text.
  A name is the longest identifier that fits, by the Unicode properties ID_Start and
  ID_Continue; a letter or a number that no identifier has in its place starts no token.
  Keywords are names here, and the grammar tells them apart. Escapes in names, numeric
  escapes, exponents, comments and regular expressions, which no expression of a script
  has, are refused or left as marks that the grammar has no use for.

  What one token takes from the text is `next`; `lex` takes token after token. The lemmas
  say what `lex` makes of each kind of text that expressions are written with, before any
  rest that cannot be taken for a part of it.
-/

import TreeScript.Proofs.Identifiers
import TreeScript.Proofs.Rounding
import TreeScript.Script.Text

namespace TreeScript.Script

inductive Token where
  | name (text : String)
  | number (value : Binary64)
  | string (text : String)
  /-- A stretch of a template's text, cooked: is it the first of its template, and is it the last. -/
  | quasi (first : Bool) (text : String) (last : Bool)
  | mark (text : String)
  deriving DecidableEq, Repr

/-- A bracket that stands open; a hole is a substitution in a template. -/
inductive Bracket where
  | round
  | square
  | curly
  | hole
  deriving DecidableEq, Repr

/-! ## Characters -/

/-- White space and line terminators. -/
def blank : Text.CharSet := ⟨[
  (0x9, 0xD), (0x20, 0x20), (0xA0, 0xA0), (0x1680, 0x1680), (0x2000, 0x200A), (0x2028, 0x2029),
  (0x202F, 0x202F), (0x205F, 0x205F), (0x3000, 0x3000), (0xFEFF, 0xFEFF)]⟩

/-- What a character stands for after a backslash; digits, `x`, `u` and line terminators are refused. -/
def unescaped? (c : Char) : Option Char :=
  if c = 'n' then some '\n'
  else if c = 'r' then some '\r'
  else if c = 't' then some '\t'
  else if c = 'b' then some '\x08'
  else if c = 'v' then some '\x0b'
  else if c = 'f' then some '\x0c'
  else if c.isDigit || c = 'x' || c = 'u' || c = '\n' || c = '\r' || c = '\u2028' || c = '\u2029' then none
  else some c

/-- A text that was read, with one more character before it. -/
def push {α : Type} (c : Char) : Option (List Char × α) → Option (List Char × α) :=
  Option.map fun r => (c :: r.1, r.2)

/-! ## Literals -/

/-- The text of a string up to its closing quote, and what follows. -/
def stringText : List Char → Option (List Char × List Char)
  | [] => none
  | c :: cs =>
    if c = '"' then some ([], cs)
    else if c = '\\' then
      match cs with
      | [] => none
      | e :: cs => (unescaped? e).bind fun v => push v (stringText cs)
    else if c = '\n' || c = '\r' then none
    else push c (stringText cs)

/-- The text of a template up to its closing back-tick or its next substitution, whether it was the
back-tick, and what follows. A raw line break counts as a line feed, however it is written. -/
def quasiText : List Char → Option (List Char × Bool × List Char)
  | [] => none
  | c :: cs =>
    if c = '\x60' then some ([], true, cs)
    else if c = '$' && cs.head? = some '\x7b' then some ([], false, cs.tail)
    else if c = '\\' then
      match cs with
      | [] => none
      | e :: cs => (unescaped? e).bind fun v => push v (quasiText cs)
    else if c = '\r' then if cs.head? = some '\n' then quasiText cs else push '\n' (quasiText cs)
    else push c (quasiText cs)

/-- The digits after a decimal point, if there is one, and what follows. -/
def fraction (cs : List Char) : List Char × List Char :=
  if cs.head? = some '.' then (cs.tail.takeWhile Char.isDigit, cs.tail.dropWhile Char.isDigit) else ([], cs)

/-- The digits of a decimal number before its point, after its point, and what follows. -/
def numeralParts (cs : List Char) : List Char × List Char × List Char :=
  (cs.takeWhile Char.isDigit, fraction (cs.dropWhile Char.isDigit))

/-- A decimal number and what follows it, which must not start a name; a zero before other digits is refused. -/
def numeral (cs : List Char) : Option (Binary64 × List Char) :=
  let (whole, places, rest) := numeralParts cs
  if (whole.head? = some '0' && whole.length ≠ 1) || rest.head?.any startsIdentifier then none
  else some (.ofDecimal (Nat.ofDigitChars 10 (whole ++ places) 0) (-places.length), rest)

/-! ## Marks -/

/-- The punctuation marks beside brackets and quotes, longer ones first. -/
def marks : List String := [
  ">>>=", "...", "===", "!==", "**=", "<<=", ">>=", ">>>", "&&=", "||=", "??=",
  "=>", "==", "!=", "<=", ">=", "&&", "||", "??", "?.", "++", "--", "+=", "-=", "*=", "/=", "%=",
  "&=", "|=", "^=", "<<", ">>", "**", "//", "/*",
  "+", "-", "*", "/", "%", "<", ">", "=", "!", "&", "|", "^", "~", "?", ":", ";", ",", "."]

def mark? (cs : List Char) : Option String := marks.find? (·.toList.isPrefixOf cs)

def opened? (c : Char) : Option Bracket :=
  if c = '(' then some .round else if c = '[' then some .square else if c = '\x7b' then some .curly else none

def closed? (c : Char) : Option Bracket :=
  if c = ')' then some .round else if c = ']' then some .square else if c = '\x7d' then some .curly else none

/-! ## Tokens -/

/-- What was taken from a text: a token, unless it was blank, the open brackets and the rest of the text. -/
structure Taken where
  token : Option Token
  stack : List Bracket
  rest : List Char

/-- A stretch of a template: its first one, or the one after a substitution. -/
def takeQuasi (first : Bool) (stack : List Bracket) (cs : List Char) : Option Taken :=
  (quasiText cs).map fun (text, last, rest) =>
    ⟨some (.quasi first (.ofList text) last), if last then stack else .hole :: stack, rest⟩

def takeMark (stack : List Bracket) (c : Char) (cs : List Char) : Option Taken :=
  match opened? c, closed? c with
  | some b, _ => some ⟨some (.mark (.ofList [c])), b :: stack, cs⟩
  | none, some b => if stack.head? = some b then some ⟨some (.mark (.ofList [c])), stack.tail, cs⟩ else none
  | none, none => (mark? (c :: cs)).map fun m => ⟨some (.mark m), stack, cs.drop (m.length - 1)⟩

/-- The first token of a text. -/
def next (stack : List Bracket) (c : Char) (cs : List Char) : Option Taken :=
  if startsIdentifier c then
    some ⟨some (.name (.ofList (c :: cs.takeWhile continuesIdentifier))), stack, cs.dropWhile continuesIdentifier⟩
  else if blank.contains c then some ⟨none, stack, cs⟩
  else if c.isDigit then (numeral (c :: cs)).map fun (x, rest) => ⟨some (.number x), stack, rest⟩
  else if c = '"' then (stringText cs).map fun (text, rest) => ⟨some (.string (.ofList text)), stack, rest⟩
  else if c = '\x60' then takeQuasi true stack cs
  else if c = '\x7d' && stack.head? = some .hole then takeQuasi false stack.tail cs
  else takeMark stack c cs

theorem stringText_escape (e : Char) (cs : List Char) :
    stringText ('\\' :: e :: cs) = (unescaped? e).bind fun v => push v (stringText cs) := rfl

theorem stringText_plain {c : Char} (h : c ∉ ['"', '\\', '\n', '\r']) (cs : List Char) :
    stringText (c :: cs) = push c (stringText cs) := by
  rw [stringText.eq_def]
  simp_all

theorem quasiText_tick (cs : List Char) : quasiText ('\x60' :: cs) = some ([], true, cs) := by
  rw [quasiText.eq_def]
  rfl

theorem quasiText_hole (cs : List Char) : quasiText ('$' :: '\x7b' :: cs) = some ([], false, cs) := rfl

theorem quasiText_escape (e : Char) (cs : List Char) :
    quasiText ('\\' :: e :: cs) = (unescaped? e).bind fun v => push v (quasiText cs) := rfl

theorem quasiText_plain {c : Char} {cs : List Char} (h : c ∉ ['\x60', '\\', '\r'])
    (hd : c = '$' → cs.head? ≠ some '\x7b') : quasiText (c :: cs) = push c (quasiText cs) := by
  rw [quasiText.eq_def]
  simp_all

theorem push_eq_some {α : Type} {c : Char} {o : Option (List Char × α)} {r : List Char × α} (h : push c o = some r) :
    ∃ s, o = some (s, r.2) ∧ r.1 = c :: s := by
  obtain ⟨p, hp, rfl⟩ := Option.map_eq_some_iff.mp h
  exact ⟨p.1, hp, rfl⟩

theorem stringText_length {cs : List Char} {r : List Char × List Char} (h : stringText cs = some r) :
    r.2.length ≤ cs.length := by
  fun_induction stringText cs generalizing r with
  | case1 => cases h
  | case2 => cases h; simp
  | case3 => cases h
  | case4 e cs _ ih =>
    obtain ⟨v, -, h⟩ := Option.bind_eq_some_iff.mp h
    obtain ⟨s, hs, -⟩ := push_eq_some h
    have := ih hs
    simp only [List.length_cons] at this ⊢
    omega
  | case5 => cases h
  | case6 c cs _ _ _ ih =>
    obtain ⟨s, hs, -⟩ := push_eq_some h
    have := ih hs
    simp only [List.length_cons] at this ⊢
    omega

theorem quasiText_length {cs : List Char} {r : List Char × Bool × List Char} (h : quasiText cs = some r) :
    r.2.2.length ≤ cs.length := by
  fun_induction quasiText cs generalizing r with
  | case1 => cases h
  | case2 => cases h; simp
  | case3 => cases h; simp only [List.length_tail, List.length_cons]; omega
  | case4 => cases h
  | case5 e cs _ _ ih =>
    obtain ⟨v, -, h⟩ := Option.bind_eq_some_iff.mp h
    obtain ⟨s, hs, -⟩ := push_eq_some h
    have := ih hs
    simp only [List.length_cons] at this ⊢
    omega
  | case6 cs _ _ _ _ ih =>
    have := ih h
    simp only [List.length_cons] at this ⊢
    omega
  | case7 cs _ _ _ _ ih =>
    obtain ⟨s, hs, -⟩ := push_eq_some h
    have := ih hs
    simp only [List.length_cons] at this ⊢
    omega
  | case8 c cs _ _ _ _ ih =>
    obtain ⟨s, hs, -⟩ := push_eq_some h
    have := ih hs
    simp only [List.length_cons] at this ⊢
    omega

theorem fraction_length (cs : List Char) : (fraction cs).2.length ≤ cs.length := by
  unfold fraction
  split
  · have := (List.dropWhile_sublist Char.isDigit (l := cs.tail)).length_le
    rw [List.length_tail] at this
    simp only
    omega
  · exact Nat.le_refl _

theorem numeral_length {c : Char} {cs : List Char} {r : Binary64 × List Char} (hc : c.isDigit = true)
    (h : numeral (c :: cs) = some r) : r.2.length ≤ cs.length := by
  simp only [numeral, numeralParts, List.dropWhile_cons, hc, if_true] at h
  split at h
  · cases h
  · cases h
    have := fraction_length (cs.dropWhile Char.isDigit)
    have := (List.dropWhile_sublist Char.isDigit (l := cs)).length_le
    simp only
    omega

theorem takeQuasi_length {first : Bool} {stack : List Bracket} {cs : List Char} {t : Taken}
    (h : takeQuasi first stack cs = some t) : t.rest.length ≤ cs.length := by
  obtain ⟨r, hr, rfl⟩ := Option.map_eq_some_iff.mp h
  exact quasiText_length hr

theorem takeMark_length {stack : List Bracket} {c : Char} {cs : List Char} {t : Taken}
    (h : takeMark stack c cs = some t) : t.rest.length ≤ cs.length := by
  simp only [takeMark] at h
  split at h
  · cases h; exact Nat.le_refl _
  · split at h
    · cases h; exact Nat.le_refl _
    · cases h
  · obtain ⟨m, -, rfl⟩ := Option.map_eq_some_iff.mp h
    simp only [List.length_drop]
    omega

/-- Every token takes a character. -/
theorem next_length {stack : List Bracket} {c : Char} {cs : List Char} {t : Taken}
    (h : next stack c cs = some t) : t.rest.length ≤ cs.length := by
  simp only [next] at h
  split at h
  · cases h; exact (List.dropWhile_sublist _).length_le
  split at h
  · cases h; exact Nat.le_refl _
  split at h
  · rename_i hd
    obtain ⟨r, hr, rfl⟩ := Option.map_eq_some_iff.mp h
    exact numeral_length hd hr
  split at h
  · obtain ⟨r, hr, rfl⟩ := Option.map_eq_some_iff.mp h
    exact stringText_length hr
  split at h
  · exact takeQuasi_length h
  split at h
  · exact takeQuasi_length h
  · exact takeMark_length h

/-- The tokens of a text, if it has any and closes all that it opens. -/
def lex (stack : List Bracket) : List Char → Option (List Token)
  | [] => if stack = [] then some [] else none
  | c :: cs =>
    match h : next stack c cs with
    | none => none
    | some t => (lex t.stack t.rest).map (t.token.toList ++ ·)
termination_by cs => cs.length
decreasing_by exact Nat.lt_succ_of_le (next_length h)

theorem lex_cons {stack : List Bracket} {c : Char} {cs : List Char} {t : Taken} (h : next stack c cs = some t) :
    lex stack (c :: cs) = (lex t.stack t.rest).map (t.token.toList ++ ·) := by
  rw [lex]
  split
  · rename_i h'
    rw [h] at h'
    cases h'
  · rename_i t' h'
    rw [h] at h'
    cases h'
    rfl

theorem lex_cons_none {stack : List Bracket} {c : Char} {cs : List Char} (h : next stack c cs = none) :
    lex stack (c :: cs) = none := by
  rw [lex]
  split
  · rfl
  · rename_i t' h'
    rw [h] at h'
    cases h'

end TreeScript.Script
