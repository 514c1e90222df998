/-
  TreeScript.Proofs.ObjectKeys — keys of object literals.

  A key is written without quotes if it looks like a name. JavaScript asks for an identifier
  there, and a key that looks like a name is one unless a stray character is in it
  (`isIdentifierName_iff`).

  All other keys are written as strings, and read back, with one exception: a property that
  is written as its key alone is not quoted, whatever its key looks like (`legalKey_iff`).
-/

import TreeScript.Library.Standard
import TreeScript.Lowering.Expr
import TreeScript.Proofs.Literals

namespace TreeScript

namespace Script

/-! ## Strings -/

theorem stringLiteral?_quotedChars (s rest : List Char) :
    stringLiteral? (quotedChars s ++ rest) = some (utf16 s, rest) := by
  have hread := characters_of_stringText (stringText_quoted s rest)
  simp [stringLiteral?, quotedChars, hread]

theorem length_lt_quotedChars (s : List Char) : s.length < (quotedChars s).length := by
  have hchar (c : Char) : 1 ≤ (quotedChar c).length := by
    unfold quotedChar
    repeat' split
    all_goals simp
  have hall : s.length ≤ (s.flatMap quotedChar).length := by
    induction s with
    | nil => simp
    | cons c s ih =>
      have := hchar c
      simp only [List.flatMap_cons, List.length_append, List.length_cons]
      omega
  simp only [quotedChars, List.length_cons, List.length_append, List.length_nil]
  omega

/-- How JavaScript wants a key in the text of its property. A key that looks like a name stands as it is, alone or
before a colon, and is an identifier; any other is a string before a colon that has the key for its value. -/
def LegalKey (key : String) (text : List Char) : Prop :=
  (isName key = true →
    isIdentifierName key = true ∧ ∃ rest, text = key.toList ++ rest ∧ (rest = [] ∨ rest.head? = some ':')) ∧
  (isName key = false →
    ∃ rest, text = quotedChars key.toList ++ ':' :: rest ∧ stringLiteral? text = some (utf16 key.toList, ':' :: rest))

/-- The text of an object literal with the texts of its properties. -/
def objectChars (texts : List (List Char)) : List Char :=
  if texts = [] then "\x7b\x7d".toList else "\x7b ".toList ++ commas texts ++ " \x7d".toList

end Script

namespace Lowering

open Script (isName hasStray LegalKey keyChars quotedChars objectChars)

/-! ## Properties -/

/-- The text of a property. -/
def propertyChars (s : Scope) (p : Tree.Property) : List Char :=
  if isBare s p.key p.shorthand p.value then p.key.toList else keyChars p.key ++ ": ".toList ++ (expr s p.value).chars

theorem charsAll_entries (s : Scope) (ps : List Tree.Property) :
    Script.Entry.charsAll (entries s ps) = ps.map (propertyChars s) := by
  induction ps with
  | nil => rfl
  | cons p ps ih =>
    obtain ⟨key, value, shorthand⟩ := p
    rw [entries, List.map_cons, ← ih, propertyChars]
    cases isBare s key shorthand value with
    | true => rfl
    | false => rfl

theorem chars_object (s : Scope) (ps : List Tree.Property) :
    (expr s (.object ps)).chars = objectChars (ps.map (propertyChars s)) := by
  cases ps with
  | nil => rfl
  | cons p ps =>
    obtain ⟨key, value, shorthand⟩ := p
    rw [← charsAll_entries, expr, entries]
    cases isBare s key shorthand value with
    | true => rfl
    | false => rfl

theorem legalKey_iff (s : Scope) (p : Tree.Property) :
    LegalKey p.key (propertyChars s p) ↔
      (isName p.key = true → hasStray p.key.toList = false) ∧
      (isName p.key = false → isBare s p.key p.shorthand p.value = false) := by
  unfold LegalKey
  refine and_congr ?_ ?_
  · -- a name stands as it is in any case
    refine imp_congr_right fun hname => ?_
    rw [Script.isIdentifierName_iff hname]
    refine and_iff_left ?_
    unfold propertyChars
    split
    · exact ⟨[], by simp, .inl rfl⟩
    · refine ⟨": ".toList ++ (expr s p.value).chars, ?_, .inr rfl⟩
      rw [keyChars, if_pos hname, List.append_assoc]
  · refine imp_congr_right fun hname => ?_
    unfold propertyChars
    cases hbare : isBare s p.key p.shorthand p.value with
    | true =>
      -- no text is as long as its own string
      simp only [if_true, Bool.true_eq_false, iff_false, not_exists, not_and]
      intro rest heq
      have hlength := congrArg List.length heq
      have := Script.length_lt_quotedChars p.key.toList
      simp only [List.length_append, List.length_cons] at hlength
      omega
    | false =>
      have htext : keyChars p.key ++ ": ".toList ++ (expr s p.value).chars =
          quotedChars p.key.toList ++ ':' :: ' ' :: (expr s p.value).chars := by
        simp [keyChars, hname]
      simp only [Bool.false_eq_true, if_false, iff_true]
      exact ⟨' ' :: (expr s p.value).chars, htext, by rw [htext, Script.stringLiteral?_quotedChars]⟩

/-- The text of an object literal is that of its properties, and their keys are all as JavaScript wants them if and
only if no key that looks like a name has a stray character, and no other key stands alone. -/
theorem object_keys_legal_iff (s : Scope) (ps : List Tree.Property) :
    (expr s (.object ps)).chars = objectChars (ps.map (propertyChars s)) ∧
    ((∀ p ∈ ps, LegalKey p.key (propertyChars s p)) ↔
      ∀ p ∈ ps, (isName p.key = true → hasStray p.key.toList = false) ∧
        (isName p.key = false → isBare s p.key p.shorthand p.value = false)) :=
  ⟨chars_object s ps, forall₂_congr fun p _ => legalKey_iff s p⟩

/-- A key with an accent, one with a blank and a quote, and one that stands alone. -/
def mixedKeys : List Tree.Property :=
  [⟨"naïve", .identifier "x", false⟩, ⟨"a \"b", .identifier "x", false⟩, ⟨"größe", .identifier "größe", true⟩]

theorem object_keys_legal_iff_mixedKeys :
    objectChars (mixedKeys.map (propertyChars ⟨.standard, []⟩)) = "\x7b naïve: x, \"a \\\"b\": x, größe \x7d".toList ∧
      ∀ p ∈ mixedKeys, LegalKey p.key (propertyChars ⟨.standard, []⟩ p) := by
  have hcomputed : objectChars (mixedKeys.map (propertyChars ⟨.standard, []⟩)) =
        "\x7b naïve: x, \"a \\\"b\": x, größe \x7d".toList ∧
      ∀ p ∈ mixedKeys, (isName p.key = true → hasStray p.key.toList = false) ∧
        (isName p.key = false → isBare ⟨.standard, []⟩ p.key p.shorthand p.value = false) := by decide +kernel
  exact ⟨hcomputed.1, (object_keys_legal_iff ⟨.standard, []⟩ mixedKeys).2.2 hcomputed.2⟩

/-- A superscript stands in a key without quotes, and a blank in a key that stands alone. -/
theorem object_keys_stray :
    (∃ p : Tree.Property, (expr ⟨.standard, []⟩ (.object [p])).chars = "\x7b x²: y \x7d".toList ∧ isName p.key = true ∧
      Script.isIdentifierName p.key = false) ∧
    ∃ p : Tree.Property, (expr ⟨.standard, []⟩ (.object [p])).chars = "\x7b a b \x7d".toList ∧ p.key = "a b" ∧
      isName p.key = false := by
  constructor
  · exact ⟨⟨"x²", .identifier "y", false⟩, by decide +kernel⟩
  · exact ⟨⟨"a b", .identifier "a b", true⟩, by decide +kernel⟩

end Lowering

end TreeScript
