/-
  TreeScript.Proofs.Aliasing — aliases and the scopes of a script.

  A name of the program should be written as it is where a declaration of it holds, and by
  its alias everywhere else. Lowering goes by what it takes to be bound, which is a part of
  what is in scope. So a name is written as it should be, unless it has an alias and the
  only declarations of it that hold are ones that lowering misses: a `var` in a statement
  list that does not enclose the name.
-/

import TreeScript.Proofs.References

namespace TreeScript

/-- The name of the program that a mention is written for: an identifier, unless a built-in is called by it. -/
def Library.own? (lib : Library) : Tree.Mention → Option String
  | .identifier name => some name
  | .called name => if lib.builtinOwner? name = none then some name else none
  | _ => none

/-- How a name should be written in a context. -/
def Tree.Context.spelling (ctx : Tree.Context) (lib : Library) (name : String) : String :=
  if name ∈ ctx.scope then name else lib.spelling name

theorem written_of_own? {s : Scope} {m : Tree.Mention} {name : String} (h : s.library.own? m = some name) :
    m.written s = s.spelled name := by
  unfold Library.own? at h
  split at h
  · cases h
    rfl
  · split at h
    · rename_i hnone
      cases h
      simp [Tree.Mention.written, hnone]
    · cases h
  · cases h

theorem spelled_eq_spelling_iff {ctx : Tree.Context} (h : ctx.bound ⊆ ctx.scope) (lib : Library) (name : String) :
    (Scope.mk lib ctx.bound).spelled name = ctx.spelling lib name ↔
      lib.spelling name = name ∨ (name ∈ ctx.scope → name ∈ ctx.bound) := by
  unfold Scope.spelled Tree.Context.spelling
  by_cases hbound : name ∈ ctx.bound
  · have hscope := h hbound
    simp [hbound, hscope]
  · by_cases hscope : name ∈ ctx.scope
    · simp [hbound, hscope]
    · simp [hbound, hscope]

/-- Every identifier of a compiled program is one reference of its script, in document order. One that is no called
built-in is written as it is where a declaration of it holds in the script, and by its alias everywhere else, if and
only if it has no alias, or one of the declarations that hold stands in a list around it, among the parameters of a
function around it or among the bindings of its clause. -/
theorem name_spelled_iff (lib : Library) (p : Tree.Program) (out : Lowering.Output)
    (h : compileWith lib p = .ok out) :
    Tree.sources p.occurrences = Tree.nodeSources (Tree.Stmt.nodesAll p.body) ∧
      out.script.references.length = p.occurrences.length ∧
      ∀ (i : Nat) (o : Tree.Occurrence) (name : String), p.occurrences[i]? = some o →
        lib.own? o.mention = some name → ∃ r : Script.Reference, out.script.references[i]? = some r ∧
          (∀ x, x ∈ r.visible ↔ x ∈ o.context.scope ∨ ∃ f ∈ o.context, x ∈ f.arguments) ∧
          (r.name = o.context.spelling lib name ↔
            lib.spelling name = name ∨ (name ∈ o.context.scope → name ∈ o.context.bound)) := by
  have hreferences := Lowering.references_compile (Lowering.mapError_eq_ok.1 h)
  refine ⟨p.sources_occurrences, by rw [hreferences, List.length_map], ?_⟩
  intro i o name ho hname
  refine ⟨o.reference lib, by rw [hreferences, List.getElem?_map, ho, Option.map_some], ?_, ?_⟩
  · intro x
    exact Tree.Context.mem_visible
  · have hwritten : (o.reference lib).name = (Scope.mk lib o.context.bound).spelled name := written_of_own? hname
    rw [hwritten]
    exact spelled_eq_spelling_iff (Tree.Program.bound_subset_scope (List.mem_of_getElem? ho)) lib name

/-- A name with an alias: bound by a clause and read in its guard, declared with `var` and read before that in a
function, and free. -/
def shadowing : Tree.Program := ⟨[
  .clause ⟨"f", [.binding "String"], some (.call (.identifier "is_even") [.identifier "String"]), []⟩,
  .function "g" [] [.expr (.identifier "String"), .declare .var "String" .undefined],
  .expr (.identifier "String")]⟩

theorem name_spelled_iff_shadowing : ∃ out, compileWith .standard shadowing = .ok out ∧
    out.script.references.map (·.name) =
      ["_arg0", "Integer", "String", "Error", "String", "Str"] ∧
    ∃ r : Script.Reference, out.script.references[4]? = some r ∧ r.name = "String" := by
  refine ⟨_, rfl, by decide, ?_⟩
  obtain ⟨-, -, hspelled⟩ := name_spelled_iff .standard shadowing _ rfl
  obtain ⟨r, hr, -, hname⟩ := hspelled 4 _ "String" rfl rfl
  exact ⟨r, hr, hname.2 (.inr fun _ => by decide)⟩

/-- A `var` inside a block, and a use of it after the block. -/
def nestedVar : Tree.Program := ⟨[
  .block [.declare .var "String" (.literal (.string "mine"))],
  .expr (.identifier "String")]⟩

theorem name_misspelled_after_a_nested_var : ∃ (out : Lowering.Output) (o : Tree.Occurrence) (r : Script.Reference),
    compileWith .standard nestedVar = .ok out ∧
    nestedVar.occurrences[0]? = some o ∧ out.script.references[0]? = some r ∧
    Library.standard.own? o.mention = some "String" ∧ "String" ∈ r.visible ∧ "String" ∈ o.context.scope ∧
    "String" ∉ o.context.bound ∧ r.name = "Str" :=
  ⟨_, _, _, rfl, rfl, rfl, rfl, by decide, by decide, by decide, by decide⟩

end TreeScript
