/-
  TreeScript.Proofs.Coincidence — a script depends on no bound names but the relevant ones.

  Of the names bound around a statement, lowering can only notice those that have an alias
  and that occur free in the statement: as an identifier that no statement list, parameter
  or clause binding inside the statement binds. `Stmt.occursFree` ties the occurrences of
  names, each with its context, to the free names that lowering is followed along. And each
  of these names is noticed, wherever it is not the name of a built-in that is called: two
  sets of bound names that give one script are alike on them (`alike_of_stmt_eq`).
-/

import TreeScript.Proofs.Aliasing
import TreeScript.Proofs.FreeNames
import TreeScript.Script.Text

namespace TreeScript

namespace Tree

/-! ## Free occurrences -/

/-- A name occurs free if an identifier of that name stands where no frame around it binds the name. -/
def OccursFree (os : List Occurrence) (x : String) : Prop :=
  ∃ o ∈ os, o.mention.source? = some (.identifier x) ∧ x ∉ o.context.bound

section

variable {x : String}

@[simp] theorem occursFree_nil : ¬ OccursFree [] x := by
  rintro ⟨o, ho, -⟩
  cases ho

@[simp] theorem occursFree_append {os os' : List Occurrence} :
    OccursFree (os ++ os') x ↔ OccursFree os x ∨ OccursFree os' x := by
  unfold OccursFree
  simp only [List.mem_append, or_and_right, exists_or]

theorem occursFree_mentions {ctx : Context} {ms : List Mention} :
    OccursFree (ms.map (Occurrence.mk · ctx)) x ↔
      .identifier x ∈ ms.filterMap Mention.source? ∧ x ∉ ctx.bound := by
  unfold OccursFree
  rw [List.mem_filterMap]
  constructor
  · rintro ⟨o, ho, hsource, hbound⟩
    obtain ⟨m, hm, rfl⟩ := List.mem_map.1 ho
    exact ⟨⟨m, hm, hsource⟩, hbound⟩
  · rintro ⟨⟨m, hm, hsource⟩, hbound⟩
    exact ⟨_, List.mem_map_of_mem hm, hsource, hbound⟩

theorem mem_identifiers {ns : List Expr} : x ∈ identifiers ns ↔ .identifier x ∈ ns.filterMap Expr.source? := by
  rw [identifiers, List.mem_filterMap, List.mem_filterMap]
  refine exists_congr fun e => and_congr_right fun _ => ?_
  cases e <;> simp [Expr.identifier?, Expr.source?]

@[simp] theorem Expr.occursFree (e : Expr) (ctx : Context) :
    OccursFree (e.occurrences ctx) x ↔ x ∈ identifiers e.nodes ∧ x ∉ ctx.bound := by
  rw [Expr.occurrences, occursFree_mentions, e.source?_mentions, mem_identifiers]

@[simp] theorem mem_bound_push {ctx : Context} {f : Frame} :
    x ∈ Context.bound (ctx ++ [f]) ↔ x ∈ ctx.bound ∨ x ∈ f.binds := by
  rw [Lowering.bound_push, List.mem_append]

/-- What is free inside a frame is free outside of it if the frame does not bind it. -/
theorem free_push {ctx : Context} {f : Frame} {names : List String} :
    x ∈ names ∧ x ∉ Context.bound (ctx ++ [f]) ↔ x ∈ outside f.binds names ∧ x ∉ ctx.bound := by
  rw [mem_bound_push, mem_outside]
  tauto

mutual

/-- The names that occur free in a statement are its free names, as far as its context does not bind them. -/
theorem Stmt.occursFree : (t : Stmt) → (ctx : Context) →
    (OccursFree (t.occurrences ctx) x ↔ x ∈ t.free ∧ x ∉ ctx.bound)
  | .declare kind name value, ctx => value.occursFree ctx
  | .function name params body, ctx => by
    have hcontext : ctx ++ [.function params body, .statements body] =
        (ctx ++ [.function params body]) ++ [.statements body] := by simp
    rw [Stmt.occurrences, hcontext, Stmt.occursFreeAll body, free_push, free_push]
    rfl
  | .clause c, ctx => by
    rw [Stmt.occurrences, c.occursFree, mem_bound_push]
    simp [Stmt.free, Frame.binds]
  | .dispatch name clauses, ctx => by
    have herror : ¬ OccursFree [⟨.fixed "Error", ctx ++ [.dispatcher clauses]⟩] x := by
      rintro ⟨o, ho, hsource, -⟩
      cases List.mem_singleton.1 ho
      cases hsource
    rw [Stmt.occurrences, occursFree_append, or_iff_left herror, Clause.occursFreeAll clauses, mem_bound_push]
    simp [Stmt.free, Frame.binds]
  | .branch test consequent none, ctx => by
    rw [Stmt.occurrences, occursFree_append, test.occursFree, Stmt.occursFreeAll consequent, free_push, Stmt.free,
      List.mem_append, or_and_right]
    rfl
  | .branch test consequent (some alternate), ctx => by
    have halternate : (Frame.statements [alternate]).binds = alternate.declared?.toList := by
      cases hname : alternate.declared? <;> simp [Frame.binds, Lowering.declared, hname]
    rw [Stmt.occurrences, occursFree_append, occursFree_append, test.occursFree, Stmt.occursFreeAll consequent,
      alternate.occursFree, free_push, free_push, halternate, Stmt.free, List.mem_append, List.mem_append, or_and_right,
      or_and_right]
    rfl
  | .unless test consequent, ctx => by
    rw [Stmt.occurrences, occursFree_append, test.occursFree, Stmt.occursFreeAll consequent, free_push, Stmt.free,
      List.mem_append, or_and_right]
    rfl
  | .ret value, ctx => value.occursFree ctx
  | .expr value, ctx => value.occursFree ctx
  | .block body, ctx => by
    rw [Stmt.occurrences, Stmt.occursFreeAll body, free_push]
    rfl

theorem Stmt.occursFreeAll : (ts : List Stmt) → (ctx : Context) →
    (OccursFree (Stmt.occurrencesAll ctx ts) x ↔ x ∈ Stmt.freeAll ts ∧ x ∉ ctx.bound)
  | [], ctx => by simp [Stmt.occurrencesAll, Stmt.freeAll]
  | t :: ts, ctx => by
    rw [Stmt.occurrencesAll, occursFree_append, t.occursFree, Stmt.occursFreeAll ts, Stmt.freeAll, List.mem_append,
      or_and_right]

theorem Clause.occursFree : (c : Clause) → (ctx : Context) →
    (OccursFree (c.occurrences ctx) x ↔ x ∈ c.free ∧ x ∉ ctx.bound)
  | ⟨name, patterns, guard, body⟩, ctx => by
    -- the parameters that the patterns read are no identifiers of the tree
    have hconditions : ¬ OccursFree ((conditionMentions 0 patterns).map (Occurrence.mk · ctx)) x := by
      rw [occursFree_mentions, source?_conditionMentions]
      simp
    have hbindings (ctx' : Context) : ¬ OccursFree ((bindingMentions 0 patterns).map (Occurrence.mk · ctx')) x := by
      rw [occursFree_mentions, source?_bindingMentions]
      simp
    have hguard : OccursFree (guard.toList.flatMap (Expr.occurrences (ctx ++ [.clause patterns]))) x ↔
        x ∈ guard.toList.flatMap (identifiers ·.nodes) ∧ x ∉ Context.bound (ctx ++ [.clause patterns]) := by
      cases guard <;> simp
    have hbody : OccursFree (Stmt.occurrencesAll (ctx ++ [.clause patterns] ++ [.statements body]) body) x ↔
        x ∈ outside (Lowering.declared body) (Stmt.freeAll body) ∧ x ∉ Context.bound (ctx ++ [.clause patterns]) := by
      rw [Stmt.occursFreeAll body, free_push]
      rfl
    simp only [Clause.occurrences, occursFree_append, hconditions, hbindings, false_or]
    rw [hguard, hbody, ← or_and_right, ← List.mem_append, free_push]
    rfl

theorem Clause.occursFreeAll : (cs : List Clause) → (ctx : Context) →
    (OccursFree (Clause.occurrencesAll ctx cs) x ↔ x ∈ Clause.freeAll cs ∧ x ∉ ctx.bound)
  | [], ctx => by simp [Clause.occurrencesAll, Clause.freeAll]
  | c :: cs, ctx => by
    rw [Clause.occurrencesAll, occursFree_append, c.occursFree, Clause.occursFreeAll cs, Clause.freeAll,
      List.mem_append, or_and_right]

end

end

/-! ## Contexts around a statement -/

/-- An occurrence with more frames around it. -/
def Occurrence.under (outer : Context) (o : Occurrence) : Occurrence := ⟨o.mention, outer ++ o.context⟩

section

variable (outer : Context)

@[simp] theorem under_mentions (ctx : Context) (ms : List Mention) :
    (ms.map (Occurrence.mk · ctx)).map (Occurrence.under outer) = ms.map (Occurrence.mk · (outer ++ ctx)) := by
  rw [List.map_map]
  rfl

@[simp] theorem Expr.occurrences_under (e : Expr) (ctx : Context) :
    e.occurrences (outer ++ ctx) = (e.occurrences ctx).map (Occurrence.under outer) := by
  rw [Expr.occurrences, Expr.occurrences, under_mentions]

mutual

/-- Frames around a statement stand around each of its occurrences. -/
theorem Stmt.occurrences_under : (t : Stmt) → (ctx : Context) →
    t.occurrences (outer ++ ctx) = (t.occurrences ctx).map (Occurrence.under outer)
  | .declare kind name value, ctx => value.occurrences_under outer ctx
  | .function name params body, ctx => by
    rw [Stmt.occurrences, Stmt.occurrences, List.append_assoc, Stmt.occurrencesAll_under body]
  | .clause c, ctx => by rw [Stmt.occurrences, Stmt.occurrences, List.append_assoc, c.occurrences_under]
  | .dispatch name clauses, ctx => by
    rw [Stmt.occurrences, Stmt.occurrences, List.append_assoc, Clause.occurrencesAll_under clauses, List.map_append]
    rfl
  | .branch test consequent none, ctx => by
    rw [Stmt.occurrences, Stmt.occurrences, List.append_assoc, test.occurrences_under,
      Stmt.occurrencesAll_under consequent, List.map_append]
  | .branch test consequent (some alternate), ctx => by
    simp only [Stmt.occurrences, List.append_assoc, test.occurrences_under, Stmt.occurrencesAll_under consequent,
      alternate.occurrences_under, List.map_append]
  | .unless test consequent, ctx => by
    rw [Stmt.occurrences, Stmt.occurrences, List.append_assoc, test.occurrences_under,
      Stmt.occurrencesAll_under consequent, List.map_append]
  | .ret value, ctx => value.occurrences_under outer ctx
  | .expr value, ctx => value.occurrences_under outer ctx
  | .block body, ctx => by rw [Stmt.occurrences, Stmt.occurrences, List.append_assoc, Stmt.occurrencesAll_under body]

theorem Stmt.occurrencesAll_under : (ts : List Stmt) → (ctx : Context) →
    Stmt.occurrencesAll (outer ++ ctx) ts = (Stmt.occurrencesAll ctx ts).map (Occurrence.under outer)
  | [], _ => rfl
  | t :: ts, ctx => by
    rw [Stmt.occurrencesAll, Stmt.occurrencesAll, t.occurrences_under, Stmt.occurrencesAll_under ts, List.map_append]

theorem Clause.occurrences_under : (c : Clause) → (ctx : Context) →
    c.occurrences (outer ++ ctx) = (c.occurrences ctx).map (Occurrence.under outer)
  | ⟨name, patterns, guard, body⟩, ctx => by
    have hguard : guard.toList.flatMap (Expr.occurrences (outer ++ (ctx ++ [.clause patterns]))) =
        (guard.toList.flatMap (Expr.occurrences (ctx ++ [.clause patterns]))).map (Occurrence.under outer) := by
      cases guard <;> simp
    simp only [Clause.occurrences, List.append_assoc, List.map_append, under_mentions, hguard,
      Stmt.occurrencesAll_under body]
    split <;> rfl

theorem Clause.occurrencesAll_under : (cs : List Clause) → (ctx : Context) →
    Clause.occurrencesAll (outer ++ ctx) cs = (Clause.occurrencesAll ctx cs).map (Occurrence.under outer)
  | [], _ => rfl
  | c :: cs, ctx => by
    rw [Clause.occurrencesAll, Clause.occurrencesAll, c.occurrences_under, Clause.occurrencesAll_under cs,
      List.map_append]

end

end

/-- A context in which lowering takes some names to be bound, and in which nothing else is declared. -/
def binder (bound : List String) : Context := [.statements (bound.map fun x => .declare .var x .undefined)]

theorem bound_binder (bound : List String) : (binder bound).bound = bound := by
  simp [binder, Context.bound, Frame.binds, Lowering.declared, List.filterMap_map, Function.comp_def, Stmt.declared?]

theorem visible_binder (bound : List String) : (binder bound).visible = [] := by
  simp [binder, Context.visible, Frame.arguments, Frame.declares, lexicals, List.filterMap_map, Function.comp_def,
    Stmt.lexical?]

end Tree

namespace Lowering

open TreeScript.Scope (Agree)
open TreeScript.Tree (OccursFree Occurrence Mention binder)

/-! ## Scopes with different names -/

variable {lib : Library} {bound bound' : List String}

/-- Two scopes over one library spell a name alike if it has no alias, or if both bind it or neither. -/
theorem spelled_eq_iff {x : String} :
    (Scope.mk lib bound).spelled x = (Scope.mk lib bound').spelled x ↔
      (lib.spelling x ≠ x → (x ∈ bound ↔ x ∈ bound')) := by
  unfold Scope.spelled
  by_cases hbound : x ∈ bound <;> by_cases hbound' : x ∈ bound' <;> simp [hbound, hbound', eq_comm]

/-- Two sets of bound names are alike on those of some names that have an alias. -/
def Alike (lib : Library) (names : String → Prop) (bound bound' : List String) : Prop :=
  ∀ x, names x → lib.spelling x ≠ x → (x ∈ bound ↔ x ∈ bound')

theorem Alike.agree {names : List String} (h : Alike lib (· ∈ names) bound bound') :
    Agree names ⟨lib, bound⟩ ⟨lib, bound'⟩ :=
  ⟨rfl, fun x hx => spelled_eq_iff.2 (h x hx)⟩

theorem stmt_eq_of_alike {t : Tree.Stmt} (h : Alike lib (OccursFree (t.occurrences [])) bound bound') :
    stmt ⟨lib, bound⟩ t = stmt ⟨lib, bound'⟩ t := by
  refine stmt_congr t (Alike.agree ?_)
  intro x hx
  exact h x ((t.occursFree []).2 ⟨hx, by simp [Tree.Context.bound]⟩)

theorem expr_eq_of_alike {e : Tree.Expr} (h : Alike lib (OccursFree (e.occurrences [])) bound bound') :
    expr ⟨lib, bound⟩ e = expr ⟨lib, bound'⟩ e := by
  refine expr_congr e (Alike.agree ?_)
  intro x hx
  exact h x ((e.occursFree []).2 ⟨hx, by simp [Tree.Context.bound]⟩)

/-! ## The names that matter -/

/-- A name occurs free and is written for itself: not as the built-in that is called by it. -/
def WrittenFree (lib : Library) (os : List Occurrence) (x : String) : Prop :=
  ∃ o ∈ os, lib.own? o.mention = some x ∧ x ∉ o.context.bound

/-- References that are alike were made from occurrences whose free names are bound alike. -/
theorem alike_of_references {os : List Occurrence}
    (h : (os.map (Occurrence.under (binder bound))).map (Occurrence.reference lib) =
      (os.map (Occurrence.under (binder bound'))).map (Occurrence.reference lib)) :
    Alike lib (WrittenFree lib os) bound bound' := by
  rintro x ⟨o, ho, hown, hfree⟩ halias
  rw [List.map_map, List.map_map, List.map_inj_left] at h
  have hname := congrArg Script.Reference.name (h o ho)
  have hwritten (b : List String) : (Occurrence.reference lib (o.under (binder b))).name =
      (Scope.mk lib (b ++ o.context.bound)).spelled x := by
    have hbound : (o.under (binder b)).context.bound = b ++ o.context.bound := by
      rw [Occurrence.under, Tree.Context.bound, List.flatMap_append]
      exact congrArg (· ++ o.context.bound) (Tree.bound_binder b)
    rw [Occurrence.reference, hbound]
    exact written_of_own? hown
  simp only [Function.comp_apply, hwritten] at hname
  simpa [hfree] using spelled_eq_iff.1 hname halias

theorem alike_of_stmt_eq {t : Tree.Stmt} {t' : Script.Stmt} (h : stmt ⟨lib, bound⟩ t = .ok t')
    (h' : stmt ⟨lib, bound'⟩ t = .ok t') : Alike lib (WrittenFree lib (t.occurrences [])) bound bound' := by
  have hreferences (b : List String) (hb : stmt ⟨lib, b⟩ t = .ok t') :
      ((t.occurrences []).map (Occurrence.under (binder b))).map (Occurrence.reference lib) = t'.references [] := by
    rw [← Tree.bound_binder b] at hb
    rw [← Tree.Stmt.occurrences_under, List.append_nil, ← references_stmt lib t hb, Tree.visible_binder]
  exact alike_of_references ((hreferences bound h).trans (hreferences bound' h').symm)

theorem alike_of_expr_eq {e : Tree.Expr} (h : expr ⟨lib, bound⟩ e = expr ⟨lib, bound'⟩ e) :
    Alike lib (WrittenFree lib (e.occurrences [])) bound bound' := by
  have hreferences (b : List String) :
      ((e.occurrences []).map (Occurrence.under (binder b))).map (Occurrence.reference lib) =
        (expr ⟨lib, b⟩ e).references [] := by
    rw [← Tree.Expr.occurrences_under, List.append_nil, ← references_expr, Tree.visible_binder, Tree.bound_binder]
  exact alike_of_references ((hreferences bound).trans (h ▸ (hreferences bound').symm))

/-- Two sets of bound names that are alike on the names with an alias that occur free in a statement give it the same
text at every level, or the same failure, and so for expressions. They give it the same script only if they are alike
on each of these names that is not just the name of a called built-in. -/
theorem texts_coincide (lib : Library) (bound bound' : List String) :
    (∀ t : Tree.Stmt,
      (Alike lib (OccursFree (t.occurrences [])) bound bound' → ∀ level,
        (stmt ⟨lib, bound⟩ t).map (Script.Stmt.text level) = (stmt ⟨lib, bound'⟩ t).map (Script.Stmt.text level)) ∧
      ∀ t', stmt ⟨lib, bound⟩ t = .ok t' → stmt ⟨lib, bound'⟩ t = .ok t' →
        Alike lib (WrittenFree lib (t.occurrences [])) bound bound') ∧
    ∀ e : Tree.Expr,
      (Alike lib (OccursFree (e.occurrences [])) bound bound' →
        (expr ⟨lib, bound⟩ e).text = (expr ⟨lib, bound'⟩ e).text) ∧
      (expr ⟨lib, bound⟩ e = expr ⟨lib, bound'⟩ e → Alike lib (WrittenFree lib (e.occurrences [])) bound bound') := by
  refine ⟨fun t => ⟨?_, ?_⟩, fun e => ⟨?_, alike_of_expr_eq⟩⟩
  · intro h level
    rw [stmt_eq_of_alike h]
  · intro t' h h'
    exact alike_of_stmt_eq h h'
  · intro h
    rw [expr_eq_of_alike h]

/-- A name with an alias, bound by a block and by a clause, in a key that stands alone and in a guard; and a call of
a built-in. -/
def sheltering : Tree.Stmt := .dispatch "f" [
  ⟨"f", [.binding "n"], none,
    [.block [.declare .const "String" (.identifier "n"),
      .expr (.object [⟨"String", .identifier "String", true⟩])]]⟩,
  ⟨"f", [.literal .nil, .binding "String"], some (.call (.identifier "is_even") [.identifier "String"]), []⟩]

theorem texts_coincide_sheltering :
    Alike .standard (OccursFree (sheltering.occurrences [])) ["String"] ["is_even"] ∧
      (∃ t', stmt ⟨.standard, ["String"]⟩ sheltering = .ok t') ∧
      (stmt ⟨.standard, ["String"]⟩ sheltering).map (Script.Stmt.text 1) =
        (stmt ⟨.standard, ["is_even"]⟩ sheltering).map (Script.Stmt.text 1) ∧
      expr ⟨.standard, ["String"]⟩ (.identifier "String") ≠ expr ⟨.standard, []⟩ (.identifier "String") := by
  have hplain : ∀ x ∈ sheltering.free, Library.standard.spelling x = x := by decide
  have halike : Alike .standard (OccursFree (sheltering.occurrences [])) ["String"] ["is_even"] := by
    intro x hx halias
    exact absurd (hplain x ((sheltering.occursFree []).1 hx).1) halias
  refine ⟨halike, ⟨_, rfl⟩, ((texts_coincide .standard ["String"] ["is_even"]).1 sheltering).1 halike 1, ?_⟩
  intro heq
  have hdiffer := ((texts_coincide .standard ["String"] []).2 (.identifier "String")).2 heq "String"
    ⟨_, List.mem_singleton_self _, rfl, by decide⟩ (by decide)
  exact absurd (hdiffer.1 (by decide)) (by decide)

end Lowering

end TreeScript
