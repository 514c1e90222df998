/-
  TreeScript.Proofs.Occurrences — where the names of a program stand.

  An occurrence is a mention of a name with its context: the statement lists, functions,
  dispatchers and clauses around it, from the outermost on. Scripts let a declaration hold
  in a part of that context. A constant, a function or a dispatcher holds in the statement
  list that declares it; a `var` holds in the whole function around it, or in the whole
  program; a parameter holds in its function, and what a pattern binds in its clause. These
  names are the context's `scope`. Lowering looks at less: what it takes to be `bound` are
  the declarations of the lists around the occurrence, and a `var` in a list that does not
  enclose it is missed. So what is bound is in scope (`bound_subset_scope`), but not the
  other way round.
-/

import TreeScript.Lowering.Stmt
import TreeScript.Proofs.Gathering
import TreeScript.Proofs.Nodes

namespace TreeScript.Tree

open TreeScript.Lowering (argument declared)

/-! ## Mentions -/

/-- What puts a name into a script: an identifier, an identifier that is called, a range, or anything for which
scripts have a name of their own. -/
inductive Mention where
  | identifier (name : String)
  | called (name : String)
  | range
  | fixed (name : String)
  deriving DecidableEq, Repr

/-- The node of the tree that a mention stands for, an identifier that is called as any other one. -/
def Mention.source? : Mention → Option Mention
  | .identifier name | .called name => some (.identifier name)
  | .range => some .range
  | .fixed _ => none

def Expr.source? : Expr → Option Mention
  | .identifier name => some (.identifier name)
  | .range _ _ _ => some .range
  | _ => none

def Node.source? : Node → Option Mention
  | .stmt _ => none
  | .expr e => e.source?

def Literal.mentions : Literal → List Mention
  | .symbol _ => [.fixed "Symbol"]
  | _ => []

def BinaryOp.mentions (op : BinaryOp) : List Mention := if op = .intDiv then [.fixed "Math"] else []

/-- The mentions of a callee, where those of the expression itself are `ms`. -/
def Expr.calleeMentions (ms : List Mention) : Expr → List Mention
  | .identifier name => [.called name]
  | _ => ms

mutual

/-- The mentions of an expression, in the order in which its script has them. -/
def Expr.mentions : Expr → List Mention
  | .conditional test consequent alternate => test.mentions ++ consequent.mentions ++ alternate.mentions
  | .binary op left right => op.mentions ++ (left.mentions ++ right.mentions)
  | .unary _ operand => operand.mentions
  | .call callee args => callee.calleeMentions callee.mentions ++ Expr.mentionsAll args
  | .member object _ => object.mentions
  | .index object position => object.mentions ++ position.mentions
  | .range first last none => .range :: (first.mentions ++ last.mentions)
  | .range first last (some step) => .range :: (first.mentions ++ last.mentions ++ step.mentions)
  | .array elements => Expr.mentionsAll elements
  | .object properties => Property.mentionsAll properties
  | .identifier name => [.identifier name]
  | .literal value => value.mentions
  | .undefined => []
  | .interpolated parts => Part.mentionsAll parts

def Expr.mentionsAll : List Expr → List Mention
  | [] => []
  | e :: es => e.mentions ++ Expr.mentionsAll es

def Property.mentionsAll : List Property → List Mention
  | [] => []
  | ⟨_, value, _⟩ :: ps => value.mentions ++ Property.mentionsAll ps

def Part.mentionsAll : List Part → List Mention
  | [] => []
  | .text _ :: ps => Part.mentionsAll ps
  | .expr value :: ps => value.mentions ++ Part.mentionsAll ps

end

/-- The mentions of literal patterns, from `position` on: each is compared with a parameter. -/
def conditionMentions (position : Nat) : List Pattern → List Mention
  | [] => []
  | .literal value :: ps => .fixed (argument position) :: (value.mentions ++ conditionMentions (position + 1) ps)
  | _ :: ps => conditionMentions (position + 1) ps

/-- The mentions of patterns that bind, from `position` on: each is given a parameter. -/
def bindingMentions (position : Nat) : List Pattern → List Mention
  | [] => []
  | .binding _ :: ps => .fixed (argument position) :: bindingMentions (position + 1) ps
  | _ :: ps => bindingMentions (position + 1) ps

/-! ## Contexts -/

/-- The name that a statement declares in the list it stands in, and only there. -/
def Stmt.lexical? : Stmt → Option String
  | .declare .var _ _ => none
  | t => t.declared?

def lexicals (body : List Stmt) : List String := body.filterMap Stmt.lexical?

mutual

/-- The names that a statement declares in the function around it. -/
def Stmt.hoisted : Stmt → List String
  | .declare .var name _ => [name]
  | .branch _ consequent none => Stmt.hoistedAll consequent
  | .branch _ consequent (some alternate) => Stmt.hoistedAll consequent ++ alternate.hoisted
  | .unless _ consequent => Stmt.hoistedAll consequent
  | .block body => Stmt.hoistedAll body
  | _ => []

def Stmt.hoistedAll : List Stmt → List String
  | [] => []
  | t :: ts => t.hoisted ++ Stmt.hoistedAll ts

end

/-- The names that clauses declare in their dispatcher. -/
def Clause.hoistedAll (cs : List Clause) : List String := cs.flatMap fun c => Stmt.hoistedAll c.body

/-- What can stand around a name. -/
inductive Frame where
  | program (body : List Stmt)
  | statements (body : List Stmt)
  | function (params : List String) (body : List Stmt)
  | dispatcher (clauses : List Clause)
  | clause (patterns : List Pattern)

namespace Frame

/-- The names that the program declares in all of a frame. -/
def declares : Frame → List String
  | .program body => Stmt.hoistedAll body
  | .statements body => lexicals body
  | .function params body => params ++ Stmt.hoistedAll body
  | .dispatcher clauses => Clause.hoistedAll clauses
  | .clause patterns => patterns.filterMap Pattern.bound?

/-- The names that lowering takes to be bound in a frame. -/
def binds : Frame → List String
  | .statements body => declared body
  | .function params _ => params
  | .clause patterns => patterns.filterMap Pattern.bound?
  | .program _ | .dispatcher _ => []

/-- The names that lowering gives to the parameters of a dispatcher. -/
def arguments : Frame → List String
  | .dispatcher clauses => (List.range (arity clauses)).map argument
  | _ => []

end Frame

/-- What stands around a name, from the outermost frame on. -/
abbrev Context := List Frame

namespace Context

/-- The names of the program that are declared in all of the innermost frame. -/
def scope (ctx : Context) : List String := ctx.flatMap Frame.declares

def bound (ctx : Context) : List String := ctx.flatMap Frame.binds

/-- The names that stand for a variable in the script: those in scope and the parameters of dispatchers. -/
def visible (ctx : Context) : List String := ctx.flatMap fun f => f.arguments ++ f.declares

theorem mem_visible {ctx : Context} {x : String} :
    x ∈ ctx.visible ↔ x ∈ ctx.scope ∨ ∃ f ∈ ctx, x ∈ f.arguments := by
  simp only [visible, scope, List.mem_flatMap, List.mem_append]
  constructor
  · rintro ⟨f, hf, h | h⟩
    · exact .inr ⟨f, hf, h⟩
    · exact .inl ⟨f, hf, h⟩
  · rintro (⟨f, hf, h⟩ | ⟨f, hf, h⟩)
    · exact ⟨f, hf, .inr h⟩
    · exact ⟨f, hf, .inl h⟩

end Context

/-! ## Occurrences -/

structure Occurrence where
  mention : Mention
  context : Context

def Expr.occurrences (ctx : Context) (e : Expr) : List Occurrence := e.mentions.map (Occurrence.mk · ctx)

mutual

/-- The occurrences in a statement that stands in a context. -/
def Stmt.occurrences (ctx : Context) : Stmt → List Occurrence
  | .declare _ _ value => value.occurrences ctx
  | .function _ params body => Stmt.occurrencesAll (ctx ++ [.function params body, .statements body]) body
  | .clause c => c.occurrences (ctx ++ [.dispatcher [c]])
  | .dispatch _ clauses =>
    Clause.occurrencesAll (ctx ++ [.dispatcher clauses]) clauses ++ [⟨.fixed "Error", ctx ++ [.dispatcher clauses]⟩]
  | .branch test consequent none =>
    test.occurrences ctx ++ Stmt.occurrencesAll (ctx ++ [.statements consequent]) consequent
  | .branch test consequent (some alternate) =>
    test.occurrences ctx ++ Stmt.occurrencesAll (ctx ++ [.statements consequent]) consequent ++
      alternate.occurrences (ctx ++ [.statements [alternate]])
  | .unless test consequent =>
    test.occurrences ctx ++ Stmt.occurrencesAll (ctx ++ [.statements consequent]) consequent
  | .ret value => value.occurrences ctx
  | .expr value => value.occurrences ctx
  | .block body => Stmt.occurrencesAll (ctx ++ [.statements body]) body

def Stmt.occurrencesAll (ctx : Context) : List Stmt → List Occurrence
  | [] => []
  | t :: ts => t.occurrences ctx ++ Stmt.occurrencesAll ctx ts

/-- The occurrences in a clause. The parameters are read where the patterns bind; without a guard, that is
among the statements of the body. -/
def Clause.occurrences (ctx : Context) : Clause → List Occurrence
  | ⟨_, patterns, guard, body⟩ =>
    let inner := ctx ++ [.clause patterns]
    let innermost := inner ++ [.statements body]
    (conditionMentions 0 patterns).map (Occurrence.mk · ctx) ++
      (bindingMentions 0 patterns).map (Occurrence.mk · (if guard.isNone then innermost else inner)) ++
      guard.toList.flatMap (Expr.occurrences inner) ++ Stmt.occurrencesAll innermost body

def Clause.occurrencesAll (ctx : Context) : List Clause → List Occurrence
  | [] => []
  | c :: cs => c.occurrences ctx ++ Clause.occurrencesAll ctx cs

end

/-- The occurrences of a program, once its clauses are gathered. -/
def Program.occurrences (p : Program) : List Occurrence :=
  Stmt.occurrencesAll [.program p.gathered.body, .statements p.gathered.body] p.gathered.body

/-! ## Every node occurs -/

/-- The nodes that some occurrences stand for. -/
def sources (os : List Occurrence) : List Mention := os.filterMap (·.mention.source?)

@[simp] theorem sources_nil : sources [] = [] := rfl

@[simp] theorem sources_append (os os' : List Occurrence) : sources (os ++ os') = sources os ++ sources os' :=
  List.filterMap_append

@[simp] theorem sources_map (ms : List Mention) (ctx : Context) :
    sources (ms.map (Occurrence.mk · ctx)) = ms.filterMap Mention.source? := by
  rw [sources, List.filterMap_map]
  rfl

theorem source?_conditionMentions (position : Nat) (ps : List Pattern) :
    (conditionMentions position ps).filterMap Mention.source? = [] := by
  induction ps generalizing position with
  | nil => rfl
  | cons p ps ih =>
    cases p with
    | literal value =>
      have hvalue : value.mentions.filterMap Mention.source? = [] := by cases value <;> rfl
      rw [conditionMentions, List.filterMap_cons_none rfl, List.filterMap_append, hvalue, List.nil_append, ih]
    | wildcard => exact ih _
    | binding name => exact ih _

theorem source?_bindingMentions (position : Nat) (ps : List Pattern) :
    (bindingMentions position ps).filterMap Mention.source? = [] := by
  induction ps generalizing position with
  | nil => rfl
  | cons p ps ih =>
    cases p with
    | literal value => exact ih _
    | wildcard => exact ih _
    | binding name => rw [bindingMentions, List.filterMap_cons_none rfl, ih]

theorem source?_calleeMentions (e : Expr) :
    (e.calleeMentions e.mentions).filterMap Mention.source? = e.mentions.filterMap Mention.source? := by
  cases e <;> rfl

mutual

/-- The mentions of an expression stand for its identifiers and ranges, in document order. -/
theorem Expr.source?_mentions : (e : Expr) → e.mentions.filterMap Mention.source? = e.nodes.filterMap Expr.source?
  | .conditional test consequent alternate => by
    rw [Expr.mentions, Expr.nodes, List.filterMap_cons_none rfl]
    simp only [List.filterMap_append, test.source?_mentions, consequent.source?_mentions, alternate.source?_mentions]
  | .binary op left right => by
    have hop : op.mentions.filterMap Mention.source? = [] := by cases op <;> rfl
    rw [Expr.mentions, Expr.nodes, List.filterMap_cons_none rfl]
    simp only [List.filterMap_append, hop, List.nil_append, left.source?_mentions, right.source?_mentions]
  | .unary op operand => by
    rw [Expr.mentions, Expr.nodes, List.filterMap_cons_none rfl, operand.source?_mentions]
  | .call callee args => by
    rw [Expr.mentions, Expr.nodes, List.filterMap_cons_none rfl]
    simp only [List.filterMap_append, source?_calleeMentions, callee.source?_mentions, Expr.source?_mentionsAll args]
  | .member object property => by
    rw [Expr.mentions, Expr.nodes, List.filterMap_cons_none rfl, object.source?_mentions]
  | .index object position => by
    rw [Expr.mentions, Expr.nodes, List.filterMap_cons_none rfl]
    simp only [List.filterMap_append, object.source?_mentions, position.source?_mentions]
  | .range first last none => by
    rw [Expr.mentions, Expr.nodes]
    refine congrArg (Mention.range :: ·) ?_
    simp only [List.filterMap_append, first.source?_mentions, last.source?_mentions]
  | .range first last (some step) => by
    rw [Expr.mentions, Expr.nodes]
    refine congrArg (Mention.range :: ·) ?_
    simp only [List.filterMap_append, first.source?_mentions, last.source?_mentions, step.source?_mentions]
  | .array elements => by
    rw [Expr.mentions, Expr.nodes, List.filterMap_cons_none rfl, Expr.source?_mentionsAll elements]
  | .object properties => by
    rw [Expr.mentions, Expr.nodes, List.filterMap_cons_none rfl, Property.source?_mentionsAll properties]
  | .identifier name => rfl
  | .literal value => by cases value <;> rfl
  | .undefined => rfl
  | .interpolated parts => by
    rw [Expr.mentions, Expr.nodes, List.filterMap_cons_none rfl, Part.source?_mentionsAll parts]

theorem Expr.source?_mentionsAll : (es : List Expr) →
    (Expr.mentionsAll es).filterMap Mention.source? = (Expr.nodesAll es).filterMap Expr.source?
  | [] => rfl
  | e :: es => by
    simp only [Expr.mentionsAll, Expr.nodesAll, List.filterMap_append, e.source?_mentions, Expr.source?_mentionsAll es]

theorem Property.source?_mentionsAll : (ps : List Property) →
    (Property.mentionsAll ps).filterMap Mention.source? = (Property.nodesAll ps).filterMap Expr.source?
  | [] => rfl
  | ⟨key, value, shorthand⟩ :: ps => by
    simp only [Property.mentionsAll, Property.nodesAll, List.filterMap_append, value.source?_mentions,
      Property.source?_mentionsAll ps]

theorem Part.source?_mentionsAll : (ps : List Part) →
    (Part.mentionsAll ps).filterMap Mention.source? = (Part.nodesAll ps).filterMap Expr.source?
  | [] => rfl
  | .text text :: ps => Part.source?_mentionsAll ps
  | .expr value :: ps => by
    simp only [Part.mentionsAll, Part.nodesAll, List.filterMap_append, value.source?_mentions,
      Part.source?_mentionsAll ps]

end

/-- The nodes among some nodes for which a name is put into a script. -/
def nodeSources (ns : List Node) : List Mention := ns.filterMap Node.source?

@[simp] theorem nodeSources_nil : nodeSources [] = [] := rfl

@[simp] theorem nodeSources_append (ns ns' : List Node) : nodeSources (ns ++ ns') = nodeSources ns ++ nodeSources ns' :=
  List.filterMap_append

@[simp] theorem nodeSources_stmt (s : Stmt) (ns : List Node) : nodeSources (.stmt s :: ns) = nodeSources ns := rfl

@[simp] theorem nodeSources_map (es : List Expr) : nodeSources (es.map .expr) = es.filterMap Expr.source? := by
  rw [nodeSources, List.filterMap_map]
  rfl

theorem nodeSources_patterns (ps : List Pattern) : nodeSources (ps.flatMap Pattern.nodes) = [] := by
  induction ps with
  | nil => rfl
  | cons p ps ih =>
    rw [List.flatMap_cons, nodeSources_append, ih]
    cases p <;> rfl

@[simp] theorem sources_expr (ctx : Context) (e : Expr) : sources (e.occurrences ctx) = nodeSources (e.nodes.map .expr) := by
  rw [Expr.occurrences, sources_map, nodeSources_map, e.source?_mentions]

mutual

theorem Stmt.sources_occurrences : (t : Stmt) → (ctx : Context) → sources (t.occurrences ctx) = nodeSources t.inner
  | .declare kind name value, ctx => by rw [Stmt.occurrences, Stmt.inner, sources_expr]
  | .function name params body, ctx => by rw [Stmt.occurrences, Stmt.inner, Stmt.sources_occurrencesAll body]
  | .clause c, ctx => by rw [Stmt.occurrences, Stmt.inner, c.sources_occurrences]
  | .dispatch name clauses, ctx => by
    rw [Stmt.occurrences, Stmt.inner, sources_append, Clause.sources_occurrencesAll clauses]
    simp [sources, Mention.source?]
  | .branch test consequent none, ctx => by
    simp [Stmt.occurrences, Stmt.inner, Stmt.sources_occurrencesAll consequent]
  | .branch test consequent (some alternate), ctx => by
    simp [Stmt.occurrences, Stmt.inner, Stmt.sources_occurrencesAll consequent, alternate.sources_occurrences]
  | .unless test consequent, ctx => by
    simp [Stmt.occurrences, Stmt.inner, Stmt.sources_occurrencesAll consequent]
  | .ret value, ctx => by rw [Stmt.occurrences, Stmt.inner, sources_expr]
  | .expr value, ctx => by rw [Stmt.occurrences, Stmt.inner, sources_expr]
  | .block body, ctx => by rw [Stmt.occurrences, Stmt.inner, Stmt.sources_occurrencesAll body]

theorem Stmt.sources_occurrencesAll : (ts : List Stmt) → (ctx : Context) →
    sources (Stmt.occurrencesAll ctx ts) = nodeSources (Stmt.nodesAll ts)
  | [], _ => rfl
  | t :: ts, ctx => by
    simp [Stmt.occurrencesAll, Stmt.nodesAll, t.sources_occurrences, Stmt.sources_occurrencesAll ts]

theorem Clause.sources_occurrences : (c : Clause) → (ctx : Context) → sources (c.occurrences ctx) = nodeSources c.nodes
  | ⟨name, patterns, guard, body⟩, ctx => by
    have hguard : sources (guard.toList.flatMap (Expr.occurrences (ctx ++ [.clause patterns]))) =
        nodeSources (guard.toList.flatMap (·.nodes.map .expr)) := by
      cases guard <;> simp
    simp [Clause.occurrences, Clause.nodes, source?_conditionMentions, source?_bindingMentions, nodeSources_patterns,
      hguard, Stmt.sources_occurrencesAll body]

theorem Clause.sources_occurrencesAll : (cs : List Clause) → (ctx : Context) →
    sources (Clause.occurrencesAll ctx cs) = nodeSources (Clause.nodesAll cs)
  | [], _ => rfl
  | c :: cs, ctx => by
    simp [Clause.occurrencesAll, Clause.nodesAll, c.sources_occurrences, Clause.sources_occurrencesAll cs]

end

/-- Every identifier and every range of a program occurs once, in document order. -/
theorem Program.sources_occurrences (p : Program) : sources p.occurrences = nodeSources (Stmt.nodesAll p.body) := by
  rw [Program.occurrences, Stmt.sources_occurrencesAll, Program.gathered, Stmt.nodesAll_eq_flatMap,
    Stmt.nodesAll_eq_flatMap, nodeSources, nodeSources, List.filterMap_flatMap, List.filterMap_flatMap]
  refine flatMap_gather (fun t => nodeSources t.nodes) ?_ ?_ p.body
  · intro name c cs
    have hclauses : nodeSources (Stmt.dispatch name (c :: cs)).nodes = nodeSources ((c :: cs).flatMap Clause.nodes) := by
      rw [← Clause.nodesAll_eq_flatMap]
      rfl
    rw [hclauses, nodeSources, List.filterMap_flatMap]
    rfl
  · intro name params body
    have hclause : nodeSources (Stmt.clause (catchAllClause name params body)).nodes =
        nodeSources (catchAllClause name params body).nodes := rfl
    rw [hclause, nodes_catchAllClause]
    rfl

/-! ## What is bound is in scope -/

/-- What is bound in a context is in scope, and so are some names that are declared inside. -/
structure Context.Holds (ctx : Context) (names : List String) : Prop where
  bound : ctx.bound ⊆ ctx.scope
  names : names ⊆ ctx.scope

theorem Context.Holds.mono {ctx : Context} {names names' : List String} (h : ctx.Holds names) (hnames : names' ⊆ names) :
    ctx.Holds names' :=
  ⟨h.bound, List.Subset.trans hnames h.names⟩

/-- A frame may bind, and hold inside, what it declares itself and what is in scope around it. -/
theorem Context.Holds.push {ctx : Context} {names names' : List String} {f : Frame} (h : ctx.Holds names)
    (hbinds : f.binds ⊆ names ++ f.declares) (hnames : names' ⊆ names ++ f.declares) :
    Context.Holds (ctx ++ [f]) names' := by
  have hscope : Context.scope (ctx ++ [f]) = ctx.scope ++ f.declares := by simp [Context.scope]
  have hframe : names ++ f.declares ⊆ ctx.scope ++ f.declares := by
    intro x hx
    rcases List.mem_append.1 hx with hx | hx
    · exact List.mem_append_left _ (h.names hx)
    · exact List.mem_append_right _ hx
  refine ⟨?_, ?_⟩
  · intro x hx
    have hx : x ∈ ctx.bound ∨ x ∈ f.binds := by simpa [Context.bound] using hx
    rw [hscope]
    rcases hx with hx | hx
    · exact List.mem_append_left _ (h.bound hx)
    · exact hframe (hbinds hx)
  · rw [hscope]
    exact List.Subset.trans hnames hframe

theorem Stmt.hoisted_subset {t : Stmt} {ts : List Stmt} (h : t ∈ ts) : t.hoisted ⊆ Stmt.hoistedAll ts := by
  induction ts with
  | nil => cases h
  | cons t' ts ih =>
    rcases List.mem_cons.1 h with rfl | h
    · exact List.subset_append_left _ _
    · exact List.subset_append_of_subset_right _ (ih h)

theorem declared_subset (body : List Stmt) : declared body ⊆ Stmt.hoistedAll body ++ lexicals body := by
  intro x hx
  obtain ⟨t, ht, hx⟩ := List.mem_filterMap.1 hx
  by_cases hvar : t.lexical? = some x
  · exact List.mem_append_right _ (List.mem_filterMap.2 ⟨t, ht, hvar⟩)
  · -- only a `var` declares a name elsewhere than in its list
    have hhoisted : x ∈ t.hoisted := by
      unfold Stmt.lexical? at hvar
      split at hvar
      · cases hx
        simp [Stmt.hoisted]
      · exact absurd hx hvar
    exact List.mem_append_left _ (Stmt.hoisted_subset ht hhoisted)

theorem lexicals_subset (body : List Stmt) : lexicals body ⊆ declared body := by
  intro x hx
  obtain ⟨t, ht, hx⟩ := List.mem_filterMap.1 hx
  refine List.mem_filterMap.2 ⟨t, ht, ?_⟩
  unfold Stmt.lexical? at hx
  split at hx
  · cases hx
  · exact hx

section Holds

variable {ctx : Context} {names : List String}

theorem Context.Holds.statements {body : List Stmt} (h : ctx.Holds (Stmt.hoistedAll body)) :
    Context.Holds (ctx ++ [.statements body]) (Stmt.hoistedAll body) :=
  h.push (declared_subset body) (List.subset_append_left _ _)

theorem Context.Holds.function (h : ctx.Holds names) (params : List String) (body : List Stmt) :
    Context.Holds (ctx ++ [.function params body, .statements body]) (Stmt.hoistedAll body) := by
  have hfunction : Context.Holds (ctx ++ [.function params body]) (Stmt.hoistedAll body) := by
    refine h.push ?_ ?_
    · exact List.subset_append_of_subset_right _ (List.subset_append_left _ _)
    · exact List.subset_append_of_subset_right _ (List.subset_append_right _ _)
  simpa using hfunction.statements

theorem Context.Holds.dispatcher (h : ctx.Holds names) (clauses : List Clause) :
    Context.Holds (ctx ++ [.dispatcher clauses]) (Clause.hoistedAll clauses) :=
  h.push (List.nil_subset _) (List.subset_append_right _ _)

theorem Context.Holds.clause (h : ctx.Holds names) (patterns : List Pattern) :
    Context.Holds (ctx ++ [.clause patterns]) names :=
  h.push (List.subset_append_right _ _) (List.subset_append_left _ _)

end Holds

/-- In all contexts of some occurrences, what is bound is in scope. -/
def BoundInScope (os : List Occurrence) : Prop := ∀ o ∈ os, o.context.bound ⊆ o.context.scope

theorem BoundInScope.append {os os' : List Occurrence} (h : BoundInScope os) (h' : BoundInScope os') :
    BoundInScope (os ++ os') := by
  intro o ho
  rcases List.mem_append.1 ho with ho | ho
  · exact h o ho
  · exact h' o ho

theorem boundInScope_map {ctx : Context} (h : ctx.bound ⊆ ctx.scope) (ms : List Mention) :
    BoundInScope (ms.map (Occurrence.mk · ctx)) := by
  intro o ho
  obtain ⟨m, -, rfl⟩ := List.mem_map.1 ho
  exact h

mutual

theorem Stmt.boundInScope : (t : Stmt) → {ctx : Context} → ctx.Holds t.hoisted → BoundInScope (t.occurrences ctx)
  | .declare kind name value, _, h => boundInScope_map h.bound _
  | .function name params body, _, h => Stmt.boundInScopeAll body (h.function params body)
  | .clause c, _, h => c.boundInScope ((h.dispatcher [c]).mono (by simp [Clause.hoistedAll]))
  | .dispatch name clauses, _, h =>
    (Clause.boundInScopeAll clauses (h.dispatcher clauses)).append
      (boundInScope_map (h.dispatcher clauses).bound [.fixed "Error"])
  | .branch test consequent none, _, h =>
    (boundInScope_map h.bound _).append (Stmt.boundInScopeAll consequent h.statements)
  | .branch test consequent (some alternate), ctx, h => by
    have hconsequent : ctx.Holds (Stmt.hoistedAll consequent) := h.mono (List.subset_append_left _ _)
    have halternate : ctx.Holds (Stmt.hoistedAll [alternate]) := by
      refine h.mono ?_
      simp [Stmt.hoisted, Stmt.hoistedAll]
    have halternate' : Context.Holds (ctx ++ [.statements [alternate]]) alternate.hoisted := by
      simpa [Stmt.hoistedAll] using halternate.statements
    exact ((boundInScope_map h.bound _).append (Stmt.boundInScopeAll consequent hconsequent.statements)).append
      (alternate.boundInScope halternate')
  | .unless test consequent, _, h =>
    (boundInScope_map h.bound _).append (Stmt.boundInScopeAll consequent h.statements)
  | .ret value, _, h => boundInScope_map h.bound _
  | .expr value, _, h => boundInScope_map h.bound _
  | .block body, _, h => Stmt.boundInScopeAll body h.statements

theorem Stmt.boundInScopeAll : (ts : List Stmt) → {ctx : Context} → ctx.Holds (Stmt.hoistedAll ts) →
    BoundInScope (Stmt.occurrencesAll ctx ts)
  | [], _, _ => fun _ ho => by cases ho
  | t :: ts, _, h =>
    (t.boundInScope (h.mono (List.subset_append_left _ _))).append
      (Stmt.boundInScopeAll ts (h.mono (List.subset_append_right _ _)))

theorem Clause.boundInScope : (c : Clause) → {ctx : Context} → ctx.Holds (Stmt.hoistedAll c.body) →
    BoundInScope (c.occurrences ctx)
  | ⟨name, patterns, guard, body⟩, ctx, h => by
    have hinner := h.clause patterns
    have hbindings : BoundInScope ((bindingMentions 0 patterns).map (Occurrence.mk ·
        (if guard.isNone then ctx ++ [.clause patterns] ++ [.statements body] else ctx ++ [.clause patterns]))) := by
      split
      · exact boundInScope_map hinner.statements.bound _
      · exact boundInScope_map hinner.bound _
    have hguard : BoundInScope (guard.toList.flatMap (Expr.occurrences (ctx ++ [.clause patterns]))) := by
      cases guard with
      | none => exact fun _ ho => by cases ho
      | some guard => simpa [Expr.occurrences] using boundInScope_map hinner.bound guard.mentions
    exact (((boundInScope_map h.bound _).append hbindings).append hguard).append
      (Stmt.boundInScopeAll body hinner.statements)

theorem Clause.boundInScopeAll : (cs : List Clause) → {ctx : Context} → ctx.Holds (Clause.hoistedAll cs) →
    BoundInScope (Clause.occurrencesAll ctx cs)
  | [], _, _ => fun _ ho => by cases ho
  | c :: cs, _, h =>
    (c.boundInScope (h.mono (List.subset_append_left _ _))).append
      (Clause.boundInScopeAll cs (h.mono (List.subset_append_right _ _)))

end

/-- What lowering takes to be bound at a place of a program is in scope there. -/
theorem Program.bound_subset_scope {p : Program} {o : Occurrence} (ho : o ∈ p.occurrences) :
    o.context.bound ⊆ o.context.scope := by
  have hprogram : Context.Holds [.program p.gathered.body] (Stmt.hoistedAll p.gathered.body) :=
    ⟨List.nil_subset _, List.subset_append_left _ _⟩
  exact Stmt.boundInScopeAll _ hprogram.statements o ho

/-! ## The top level -/

theorem Stmt.hoistedAll_eq_flatMap (ts : List Stmt) : Stmt.hoistedAll ts = ts.flatMap Stmt.hoisted := by
  induction ts with
  | nil => rfl
  | cons t ts ih => rw [Stmt.hoistedAll, ih, List.flatMap_cons]

theorem hoistedAll_gather (body : List Stmt) : Stmt.hoistedAll (gather body) = Stmt.hoistedAll body := by
  rw [Stmt.hoistedAll_eq_flatMap, Stmt.hoistedAll_eq_flatMap]
  refine flatMap_gather _ ?_ ?_ body
  · intro name c cs
    simp [Stmt.hoisted]
  · intro name params body
    simp [Stmt.hoisted]

/-- The top level declares the names of its statements, and what is declared with `var` inside them. -/
theorem mem_top {body : List Stmt} {x : String} :
    x ∈ lexicals (gather body) ∨ x ∈ Stmt.hoistedAll (gather body) ↔ x ∈ declared body ∨ x ∈ Stmt.hoistedAll body := by
  have hdeclared : x ∈ declared (gather body) ↔ x ∈ declared body := mem_declared_gather
  rw [hoistedAll_gather, ← hdeclared]
  constructor
  · intro h
    rcases h with h | h
    · exact .inl (lexicals_subset _ h)
    · exact .inr h
  · intro h
    rcases h with h | h
    · rcases List.mem_append.1 (declared_subset _ h) with h | h
      · rw [hoistedAll_gather] at h
        exact .inr h
      · exact .inl h
    · exact .inr h

end TreeScript.Tree
