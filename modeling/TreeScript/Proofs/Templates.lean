/-
  TreeScript.Proofs.Templates — interpolated strings as template literals.

  An interpolated string is a list of literal texts and expressions in any order. Its
  template literal has one stretch of text before, between and after its expressions, and
  each stretch should be all the literal text that stands there, joined. `weave` puts
  stretches and expressions together as tokens, and `lex_interpolated_iff` says when the
  lexical rules of templates read just these: escapes, the closing back-tick, and braces that
  open a substitution and are closed by the brace that fits them.

  Literal text never closes a template. It never opens a substitution inside one part; a `$`
  at the end of a part does, when the literal text after it starts with a brace
  (`lex_interpolated_fails_across_parts`). The expressions are read as far as their names are
  identifiers.
-/

import TreeScript.Proofs.ReadBack

namespace TreeScript

/-- The expressions of an interpolated string in order, each with the literal text between it and the next. -/
def Tree.Part.substitutions : List Tree.Part → List (Tree.Expr × String)
  | [] => []
  | .text _ :: ps => substitutions ps
  | .expr value :: ps => (value, lead ps) :: substitutions ps

namespace Lowering

open TreeScript.Script (Token lex)
open TreeScript.Tree (Part)

/-- The tokens of a template from a stretch of text on: the text, and the substitutions with theirs. -/
def weave (s : Scope) (first : Bool) (text : String) : List (Tree.Expr × String) → List Token
  | [] => [.quasi first text true]
  | (e, after) :: subs => .quasi first text false :: ((expr s e).tokens ++ weave s false after subs)

theorem tokens_templateParts (s : Scope) (ps : List Part) (first : Bool) (text : List Char) :
    Script.TemplatePart.tokens first text (templateParts s ps) =
      weave s first (String.ofList text ++ Part.lead ps) (Part.substitutions ps) := by
  induction ps generalizing first text with
  | nil => simp [templateParts, Script.TemplatePart.tokens, Part.lead, Part.substitutions, weave]
  | cons p ps ih =>
    cases p with
    | text t =>
      have h := ih first (text ++ t.toList)
      simpa [templateParts, Script.TemplatePart.tokens, Part.lead, Part.substitutions, String.append_assoc] using h
    | expr e =>
      have h := ih false []
      simpa [templateParts, Script.TemplatePart.tokens, Part.lead, Part.substitutions, weave] using h

theorem tokens_interpolated (s : Scope) (parts : List Part) :
    (expr s (.interpolated parts)).tokens = weave s true (Part.lead parts) (Part.substitutions parts) := by
  have h := tokens_templateParts s parts true []
  rwa [String.ofList_nil, String.empty_append] at h

theorem wellNamed_of_mem {parts : List Part} (hp : Part.wellNamedAll parts = true) {e : Tree.Expr}
    (he : .expr e ∈ parts) : e.wellNamed = true := by
  induction parts with
  | nil => cases he
  | cons p ps ih =>
    cases p with
    | text t =>
      rcases List.mem_cons.mp he with h | h
      · cases h
      · exact ih hp h
    | expr value =>
      simp only [Part.wellNamedAll, Bool.and_eq_true] at hp
      rcases List.mem_cons.mp he with h | h
      · cases h
        exact hp.1
      · exact ih hp.2 h

/-- The template literal of an interpolated string is read as its expressions in order, with the literal
texts between them joined, just when no `$` at the end of a literal part is split from a brace after it, in
it or in its expressions, and the names in these are identifiers. The tokens of such an expression are those that
are read from its own text. -/
theorem lex_interpolated_iff (s : Scope) (hs : s.library.wellNamed = true) (parts : List Part)
    (hp : Part.wellNamedAll parts = true) :
    (lex [] (expr s (.interpolated parts)).text.toList =
        some (weave s true (Part.lead parts) (Part.substitutions parts)) ↔
        Part.unsplitAll parts = true ∧ Script.unstrayed (partWords s parts) = true) ∧
      ∀ e, .expr e ∈ parts → (lex [] (expr s e).text.toList = some (expr s e).tokens ↔
        e.unsplit = true ∧ Script.unstrayed (words s e) = true) := by
  constructor
  · rw [← tokens_interpolated, Script.Expr.lex_text_iff (expr_legible hs (.interpolated parts) hp),
      expr_unsplit s (.interpolated parts), proper_expr hs (.interpolated parts) hp]
    rfl
  · intro e hmem
    have he := wellNamed_of_mem hp hmem
    rw [Script.Expr.lex_text_iff (expr_legible hs e he), expr_unsplit s e, proper_expr hs e he]

/-- A template in a template, with a back-tick, dollar signs and braces in its texts. -/
theorem lex_interpolated_nested :
    let s : Scope := ⟨.standard, []⟩
    let parts : List Part := [.text "\x60$", .expr (.interpolated [.text "$\x7b", .expr (.identifier "x"), .text "\x7d"]),
      .text "\x7b\\", .text "$"]
    (s.library.wellNamed = true ∧ Part.wellNamedAll parts = true ∧ Part.unsplitAll parts = true ∧
        Script.unstrayed (partWords s parts) = true) ∧
      lex [] (expr s (.interpolated parts)).text.toList = some [
        .quasi true "\x60$" false, .quasi true "$\x7b" false, .name "x", .quasi false "\x7d" true,
        .quasi false "\x7b\\$" true] := by
  intro s parts
  have hs : s.library.wellNamed = true := by decide +kernel
  have hp : Part.wellNamedAll parts = true := by decide +kernel
  have hboth : Part.unsplitAll parts = true ∧ Script.unstrayed (partWords s parts) = true := by decide +kernel
  exact ⟨⟨hs, hp, hboth⟩, (lex_interpolated_iff s hs parts hp).1.mpr hboth⟩

/-- A `$` and a brace in two parts open a substitution that nothing closes. -/
theorem lex_interpolated_fails_across_parts :
    let parts : List Part := [.text "$", .text "\x7b"]
    (expr ⟨{}, []⟩ (.interpolated parts)).text = "\x60$\x7b\x60" ∧
      lex [] (expr ⟨{}, []⟩ (.interpolated parts)).text.toList = none ∧
      weave ⟨{}, []⟩ true (Part.lead parts) (Part.substitutions parts) = [.quasi true "$\x7b" true] := by
  have htext : (expr ⟨{}, []⟩ (.interpolated [.text "$", .text "\x7b"])).text = "\x60$\x7b\x60" := by decide
  refine ⟨htext, ?_, by decide⟩
  rw [htext]
  show lex [] ['\x60', '$', '\x7b', '\x60'] = none
  rw [Script.lex_template, Script.lexQuasi_hole, Script.lex_template]
  rfl

end Lowering

end TreeScript
