/-
  TreeScript.Proofs.Balance — no value of a program breaks out of its literal.

  The text of a lowered statement is balanced: every bracket, string and template in it
  ends in it. What the tree brings along as text, that is string values, symbols, keys,
  literal patterns, the literal parts of interpolated strings and the names in error
  messages, is escaped so that it stays where it is. What it brings along as names is
  written as it is, and must be names.

  There is one exception. A `$` at the end of a literal part and a brace at the start of the
  next literal text are each harmless, but together they open a substitution. An empty
  part between the two does not keep them apart.
-/

import TreeScript.Proofs.Compositional
import TreeScript.Proofs.ReadBack

namespace TreeScript

open TreeScript.Script (Balanced Steady Still isName steady_name steady_nil steady_of_weak steady_commas)

/-! ## Names -/

namespace Tree

def Node.unsplit : Node → Bool
  | .stmt _ => true
  | .expr e => e.unsplit

/-- Nodes whose names can stand in a script, and whose interpolated strings split no `$` from a brace after it. -/
def Tidy (ns : List Node) : Prop := ∀ n ∈ ns, (∀ x ∈ n.names, isName x = true) ∧ n.unsplit = true

end Tree

/-- A library whose aliases, and whose owners of built-ins, are names. -/
structure Library.Named (lib : Library) : Prop where
  aliases : ∀ e ∈ lib.aliases, isName e.2 = true
  owners : ∀ e ∈ lib.builtins, isName e.2 = true

namespace Lowering

open TreeScript.Tree (Tidy)

theorem isName_spelling {lib : Library} (hlib : lib.Named) {x : String} (h : isName x = true) :
    isName (lib.spelling x) = true := by
  unfold Library.spelling
  cases hx : lib.aliases.lookup x with
  | none => exact h
  | some target => exact hlib.aliases (x, target) (Library.mem_of_lookup hx)

theorem isName_spelled {s : Scope} (hlib : s.library.Named) {x : String} (h : isName x = true) :
    isName (s.spelled x) = true := by
  unfold Scope.spelled
  split
  · exact h
  · exact isName_spelling hlib h

/-! ## Steady texts -/

theorem textual_steady : Textual Steady where
  plain h := by
    refine Script.steady_of_notMem fun c hc hstrong => ?_
    have hplain := Script.forall_mem_eq_false h c hc
    simp [hstrong] at hplain
  name := steady_name
  number := Script.steady_number
  quoted := Script.steady_quoted
  append := Steady.append
  commas := steady_commas
  round := Steady.round
  square := Steady.square
  curly := Steady.spacedCurly
  braces := steady_nil.curly

theorem compositional_still : CompositionalStmt (fun x => Steady x.toList) (fun e => Steady e.chars) Still where
  toCompositional := textual_steady.compositional
  argument := textual_steady.argument
  declare kind _ _ hx he := Script.still_declare kind hx he
  function hx hparams hbody := Script.still_function hx hparams hbody
  branch he hbody := Script.still_branch he hbody
  branchElse he hbody halternate := Script.still_branch_else he hbody halternate
  ret he := Script.still_ret he
  raise := Script.still_throwError
  evaluate he := Script.still_expr he
  block hbody := Script.still_block hbody

/-! ## Tidy trees -/

theorem steady_written {s : Scope} (hlib : s.library.Named) {n : Tree.Expr} (hn : ∀ x ∈ n.names, isName x = true)
    {x : String} (h : written? s n = some x) : Steady x.toList := by
  unfold written? at h
  split at h
  · rename_i name
    cases h
    exact steady_name (isName_spelled hlib (hn name List.mem_cons_self))
  · obtain ⟨owner, howner, rfl⟩ := Option.map_eq_some_iff.1 h
    exact steady_name (isName_spelling hlib (hlib.owners _ (Library.mem_of_lookup howner)))
  · cases h
    exact steady_of_weak (by decide)
  · cases h
    exact steady_of_weak (by decide)
  · cases h
    exact steady_of_weak (by decide)
  · cases h

theorem steady_expr {s : Scope} (hlib : s.library.Named) {e : Tree.Expr} (h : Tidy (e.nodes.map .expr)) :
    Steady (expr s e).chars := by
  refine textual_steady.compositional.expr e fun n hn => ?_
  obtain ⟨hnames, hunsplit⟩ := h (.expr n) (List.mem_map_of_mem hn)
  refine ⟨fun x hx => steady_name (hnames x hx), fun x hx => steady_written hlib hnames hx, ?_⟩
  intro ps hps hparts
  subst hps
  exact Script.steady_template hparts ((templateParts_unsplit s ps).trans hunsplit)

theorem still_stmt {s : Scope} (t : Tree.Stmt) {t' : Script.Stmt} (h : stmt s t = .ok t') (hlib : s.library.Named)
    (htidy : Tidy t.nodes) : Still t' := by
  refine compositional_still.stmt t h ?_ ?_
  · intro site hsite
    obtain ⟨hlibrary, hnodes⟩ := sites_stmt s t hsite
    refine steady_expr (hlibrary ▸ hlib) fun n hn => ?_
    obtain ⟨e, he, rfl⟩ := List.mem_map.1 hn
    exact htidy _ (List.mem_cons_of_mem _ (hnodes e he))
  · intro u hu x hx
    exact steady_name ((htidy _ hu).1 x hx)

/-- The text of a lowered statement is balanced at every indentation, if its names can stand in a script and if no
interpolated string in it splits a `$` from a brace. -/
theorem text_balanced (s : Scope) (hlib : s.library.Named) (t : Tree.Stmt)
    (hnames : ∀ n ∈ t.nodes, ∀ x ∈ n.names, isName x = true) (hunsplit : ∀ n ∈ t.nodes, n.unsplit = true)
    (t' : Script.Stmt) (h : stmt s t = .ok t') (level : Nat) : Balanced (t'.text level).toList := by
  have htidy : Tidy t.nodes := fun n hn => ⟨hnames n hn, hunsplit n hn⟩
  exact (still_stmt t h hlib htidy).balanced level

theorem named_standard : Library.standard.Named := ⟨by decide +kernel, by decide +kernel⟩

/-- A dispatcher with a bracket, a quote, a back-tick or a line break wherever a tree has room for text. -/
def quoting : Tree.Stmt :=
  .dispatch "show"
    [⟨"show", [.literal (.string "\")\x7d"), .binding "x", .literal (.symbol "\n(")],
        some (.call (.identifier "is_even") [.identifier "x"]),
        [.expr (.interpolated
          [.text "\x60$", .expr (.object [⟨"\"[", .interpolated [.text "$\x7b", .text "\x7d\\"], false⟩]), .text "\x7b\r"])]⟩]

theorem text_balanced_quoting :
    (∀ n ∈ quoting.nodes, ∀ x ∈ n.names, isName x = true) ∧ (∀ n ∈ quoting.nodes, n.unsplit = true) ∧
      ∃ t', stmt ⟨.standard, []⟩ quoting = .ok t' ∧ Balanced (t'.text 1).toList := by
  have hnames : ∀ n ∈ quoting.nodes, ∀ x ∈ n.names, isName x = true := by decide +kernel
  have hunsplit : ∀ n ∈ quoting.nodes, n.unsplit = true := by decide +kernel
  exact ⟨hnames, hunsplit, _, rfl, text_balanced ⟨.standard, []⟩ named_standard quoting hnames hunsplit _ rfl 1⟩

end Lowering

/-! ## A `$` and a brace around an empty part -/

/-- Whether no literal part that ends in a `$` stands right before one that starts with a brace. -/
def Tree.Part.apart : List Tree.Part → Bool
  | .text t :: .text u :: ps => !Script.glues t.toList u.toList && Tree.Part.apart (.text u :: ps)
  | _ :: ps => Tree.Part.apart ps
  | [] => true

namespace Lowering

def aroundNothing : List Tree.Part := [.text "$", .text "", .text "\x7b"]

/-- It is not enough that the part right after a `$` starts with no brace: it may be empty. -/
theorem unbalanced_across_an_empty_part :
    Tree.Part.apart aroundNothing = true ∧
      (∀ n ∈ (Tree.Stmt.expr (.interpolated aroundNothing)).nodes, ∀ x ∈ n.names, isName x = true) ∧
      ∃ t', stmt ⟨.standard, []⟩ (.expr (.interpolated aroundNothing)) = .ok t' ∧ ¬ Balanced (t'.text 0).toList :=
  ⟨by decide, by decide, _, rfl, by decide⟩

end Lowering

end TreeScript
