/-
  TreeScript.Proofs.JsonGrammar — the texts of a JSON value.

  A value can be written in many ways: blanks may stand between its tokens, and a character
  of a string may be escaped. Which ways there are is said here as languages, without
  regard to how a text is read. The texts of a value are made from those of its parts by
  `Value.fold`. Of numbers there are only the integers, written as plain decimals.
-/

import Mathlib.Computability.Language
import TreeScript.Json.Value

namespace TreeScript.Json

/-! ## Tokens and blanks -/

def mark (c : Char) : Language Char := {[c]}

def blanks : Language Char := {cs | ∀ c ∈ cs, c ∈ [' ', '\t', '\n', '\r']}

def padded (l : Language Char) : Language Char := blanks * l * blanks

/-- Texts with commas between them, and blanks around each. -/
def commas : List (Language Char) → Language Char
  | [] => blanks
  | l :: ls => padded l * (ls.map fun l => mark ',' * padded l).prod

/-! ## Strings -/

def hexDigit (d : Nat) : Language Char := mark (Nat.digitChar d) + mark (Nat.digitChar d).toUpper

/-- A number below `0x10000` as an escape. -/
def unit (u : Nat) : Language Char :=
  mark '\\' * (mark 'u' * (hexDigit (u / 0x1000) * (hexDigit (u / 0x100 % 0x10) *
    (hexDigit (u / 0x10 % 0x10) * hexDigit (u % 0x10)))))

/-- The characters that have an escape of one letter, with that letter. -/
def escapes : List (Char × Char) :=
  [('"', '"'), ('\\', '\\'), ('/', '/'), ('\x08', 'b'), ('\x0c', 'f'), ('\n', 'n'), ('\r', 'r'), ('\t', 't')]

/-- The ways to write a character in a string. -/
inductive Spells (c : Char) : List Char → Prop
  | plain : 0x20 ≤ c.toNat → c ≠ '"' → c ≠ '\\' → Spells c [c]
  | letter {e : Char} : (c, e) ∈ escapes → Spells c ['\\', e]
  | unit {cs : List Char} : c.toNat < 0x10000 → cs ∈ unit c.toNat → Spells c cs
  /-- A character beyond the numbers of an escape is escaped as two halves. -/
  | pair {cs : List Char} : 0x10000 ≤ c.toNat →
      cs ∈ Json.unit (0xD800 + (c.toNat - 0x10000) / 0x400) * Json.unit (0xDC00 + (c.toNat - 0x10000) % 0x400) →
      Spells c cs

def character (c : Char) : Language Char := {cs | Spells c cs}

def quoted (s : String) : Language Char := mark '"' * ((s.toList.map character).prod * mark '"')

/-! ## Values -/

/-- The number that a plain decimal with a sign stands for; there is no integer minus zero. -/
def Number.whole (negative : Bool) (m : Nat) : Number :=
  if negative then if m = 0 then .double (.neg .zero) else .integer (-m) else .integer m

def decimal (negative : Bool) (m : Nat) : List Char := (if negative then ['-'] else []) ++ Nat.toDigits 10 m

/-- The ways to write a value, given those of its parts. -/
def spellings : Layer (Language Char) → Language Char
  | .null => {"null".toList}
  | .boolean b => {(if b then "true" else "false").toList}
  | .number n => {cs | ∃ negative m, m < 2 ^ 63 ∧ n = .whole negative m ∧ cs = decimal negative m}
  | .text s => quoted s
  | .items ls => mark '[' * (commas ls * mark ']')
  | .entries es =>
    mark '\x7b' * (commas (es.map fun e => quoted e.1 * (blanks * (mark ':' * (blanks * e.2)))) * mark '\x7d')

/-- The texts of a value. -/
def Value.texts (v : Value) : Language Char := padded (v.fold spellings)

/-! ## Every value of this kind has a text -/

theorem exists_mem_mul {l l' : Language Char} (h : ∃ cs, cs ∈ l) (h' : ∃ cs, cs ∈ l') : ∃ cs, cs ∈ l * l' := by
  obtain ⟨a, ha⟩ := h
  obtain ⟨b, hb⟩ := h'
  exact ⟨a ++ b, Language.append_mem_mul ha hb⟩

theorem exists_mem_prod {ls : List (Language Char)} (h : ∀ l ∈ ls, ∃ cs, cs ∈ l) : ∃ cs, cs ∈ ls.prod := by
  induction ls with
  | nil => exact ⟨[], Language.nil_mem_one⟩
  | cons l ls ih =>
    rw [List.prod_cons]
    exact exists_mem_mul (h l List.mem_cons_self) (ih fun l' hl' => h l' (List.mem_cons_of_mem l hl'))

theorem exists_mem_mark (c : Char) : ∃ cs, cs ∈ mark c := ⟨[c], rfl⟩

theorem exists_mem_blanks : ∃ cs, cs ∈ blanks := ⟨[], by intro c hc; cases hc⟩

theorem exists_mem_padded {l : Language Char} (h : ∃ cs, cs ∈ l) : ∃ cs, cs ∈ padded l :=
  exists_mem_mul (exists_mem_mul exists_mem_blanks h) exists_mem_blanks

theorem exists_mem_commas {ls : List (Language Char)} (h : ∀ l ∈ ls, ∃ cs, cs ∈ l) : ∃ cs, cs ∈ commas ls := by
  cases ls with
  | nil => exact exists_mem_blanks
  | cons l ls =>
    refine exists_mem_mul (exists_mem_padded (h l List.mem_cons_self)) (exists_mem_prod ?_)
    simp only [List.mem_map, forall_exists_index, and_imp, forall_apply_eq_imp_iff₂]
    intro l' hl'
    exact exists_mem_mul (exists_mem_mark ',') (exists_mem_padded (h l' (List.mem_cons_of_mem l hl')))

/-- Texts with commas between them, in brackets. -/
theorem exists_mem_brackets {ls : List (Language Char)} (h : ∀ l ∈ ls, ∃ cs, cs ∈ l) (opening closing : Char) :
    ∃ cs, cs ∈ mark opening * (commas ls * mark closing) :=
  exists_mem_mul (exists_mem_mark opening) (exists_mem_mul (exists_mem_commas h) (exists_mem_mark closing))

theorem exists_mem_unit (u : Nat) : ∃ cs, cs ∈ unit u := by
  have hdigit (d : Nat) : ∃ cs, cs ∈ hexDigit d := ⟨[Nat.digitChar d], .inl rfl⟩
  exact exists_mem_mul (exists_mem_mark _) (exists_mem_mul (exists_mem_mark _) (exists_mem_mul (hdigit _)
    (exists_mem_mul (hdigit _) (exists_mem_mul (hdigit _) (hdigit _)))))

theorem exists_mem_character (c : Char) : ∃ cs, cs ∈ character c := by
  by_cases hcontrol : c.toNat < 0x20
  · obtain ⟨cs, hcs⟩ := exists_mem_unit c.toNat
    exact ⟨cs, .unit (by omega) hcs⟩
  by_cases hescaped : c = '"' ∨ c = '\\'
  · refine ⟨['\\', c], .letter ?_⟩
    rcases hescaped with rfl | rfl <;> decide
  · rw [not_or] at hescaped
    exact ⟨[c], .plain (by omega) hescaped.1 hescaped.2⟩

theorem exists_mem_quoted (s : String) : ∃ cs, cs ∈ quoted s := by
  refine exists_mem_mul (exists_mem_mark _) (exists_mem_mul (exists_mem_prod ?_) (exists_mem_mark _))
  simp only [List.mem_map, forall_exists_index, and_imp, forall_apply_eq_imp_iff₂]
  exact fun c _ => exists_mem_character c

end TreeScript.Json
