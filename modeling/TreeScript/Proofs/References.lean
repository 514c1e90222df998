/-
  TreeScript.Proofs.References — the names in a script, with what is declared around them.

  A reference is a name in a script with the names that stand for a variable at its place;
  which these are is for the script alone to say. The references of a lowered statement are
  the occurrences in the statement, one for one and in order: each is written as lowering
  spells its mention, and what is visible there is what the occurrence's context says
  (`references_stmt`, `references_compile`).
-/

import TreeScript.Proofs.FirstMatch
import TreeScript.Proofs.Occurrences
import TreeScript.Proofs.RuntimeNames

namespace TreeScript

/-! ## References -/

namespace Script

/-- A name in a script, and the names that stand for a variable of the script there. -/
structure Reference where
  name : String
  visible : List String

def Expr.references (visible : List String) (e : Expr) : List Reference := e.names.map (Reference.mk · visible)

mutual

/-- The references in a statement. A block adds what its statements declare in it; a function adds its
parameters and all that is declared with `var` inside. -/
def Stmt.references (visible : List String) : Stmt → List Reference
  | .declare _ _ value => value.references visible
  | .function _ params body => Stmt.referencesAll (visible ++ params ++ Script.vars body ++ lexicals body) body
  | .branch test consequent none =>
    test.references visible ++ Stmt.referencesAll (visible ++ lexicals consequent) consequent
  | .branch test consequent (some alternate) =>
    test.references visible ++ Stmt.referencesAll (visible ++ lexicals consequent) consequent ++
      alternate.references visible
  | .ret value => value.references visible
  | .throwError _ => [⟨"Error", visible⟩]
  | .expr value => value.references visible
  | .block body => Stmt.referencesAll (visible ++ lexicals body) body

def Stmt.referencesAll (visible : List String) : List Stmt → List Reference
  | [] => []
  | t :: ts => t.references visible ++ Stmt.referencesAll visible ts

end

/-- The references in the statements of a program. What it imports is not among the visible names. -/
def Program.references (p : Program) : List Reference := Stmt.referencesAll (vars p.body ++ lexicals p.body) p.body

theorem Stmt.referencesAll_append (visible : List String) (ts ts' : List Stmt) :
    Stmt.referencesAll visible (ts ++ ts') = Stmt.referencesAll visible ts ++ Stmt.referencesAll visible ts' := by
  induction ts with
  | nil => rfl
  | cons t ts ih => simp [Stmt.referencesAll, ih]

end Script

namespace Tree

/-- How a mention is spelled in a scope: a called built-in is spelled as the object that it is called on. -/
def Mention.written (s : Scope) : Mention → String
  | .identifier name => s.spelled name
  | .called name => (s.library.builtinOwner? name).elim (s.spelled name) s.library.spelling
  | .range => "_Range"
  | .fixed name => name

/-- The reference that lowering makes of an occurrence. -/
def Occurrence.reference (lib : Library) (o : Occurrence) : Script.Reference :=
  ⟨o.mention.written ⟨lib, o.context.bound⟩, o.context.visible⟩

end Tree

namespace Lowering

open TreeScript.Tree (Context Mention Occurrence)

/-! ## Expressions -/

section Names

variable (s : Scope)

theorem names_literal_eq (value : Tree.Literal) : (literal value).names = value.mentions.map (Mention.written s) := by
  cases value <;> rfl

theorem names_binary_eq (op : Tree.BinaryOp) (left right : Tree.Expr) (left' right' : Script.Expr) :
    (binary op left right left' right').names = op.mentions.map (Mention.written s) ++ (left'.names ++ right'.names) := by
  cases op with
  | intDiv => simp [binary, Script.Expr.names, Script.Expr.namesAll, Tree.BinaryOp.mentions, Mention.written]
  | concat => simp [binary, Script.Expr.names, Script.Expr.namesAll, Tree.BinaryOp.mentions]
  | append => simp [binary, Script.Expr.names, Script.Expr.namesAll, Tree.BinaryOp.mentions]
  | _ => simp [binary, Tree.BinaryOp.mentions]

theorem names_callee_eq (f : Tree.Expr) {ms : List Mention} (h : (expr s f).names = ms.map (Mention.written s)) :
    (callee s f (expr s f)).names = (f.calleeMentions ms).map (Mention.written s) := by
  cases f with
  | identifier name =>
    cases howner : s.library.builtinOwner? name with
    | none => simp [callee, builtin?, howner, expr, Script.Expr.names, Tree.Expr.calleeMentions, Mention.written]
    | some owner => simp [callee, builtin?, howner, Script.Expr.names, Tree.Expr.calleeMentions, Mention.written]
  | _ => simpa [callee, builtin?, Tree.Expr.calleeMentions] using h

mutual

/-- The names in the script of an expression are its mentions as they are spelled. -/
theorem names_expr_eq : (e : Tree.Expr) → (expr s e).names = e.mentions.map (Mention.written s)
  | .conditional test consequent alternate => by
    simp only [expr, Script.Expr.names, Tree.Expr.mentions, List.map_append, names_expr_eq test,
      names_expr_eq consequent, names_expr_eq alternate]
  | .binary op left right => by
    simp only [expr, names_binary_eq s, Tree.Expr.mentions, List.map_append, names_expr_eq left, names_expr_eq right]
  | .unary op operand => by
    simp only [expr, Script.Expr.names, names_wrapped, Tree.Expr.mentions, names_expr_eq operand]
  | .call f args => by
    simp only [expr, Script.Expr.names, Tree.Expr.mentions, List.map_append, names_callee_eq s f (names_expr_eq f),
      names_exprs_eq args]
  | .member object property => by
    simp only [expr, Script.Expr.names, names_wrapped, Tree.Expr.mentions, names_expr_eq object]
  | .index object position => by
    simp only [expr, Script.Expr.names, names_wrapped, Tree.Expr.mentions, List.map_append, names_expr_eq object,
      names_expr_eq position]
  | .range first last none => by
    simp only [expr, Script.Expr.names, Script.Expr.namesAll, Tree.Expr.mentions, List.map_append, List.map_cons,
      List.append_nil, Mention.written, names_expr_eq first, names_expr_eq last]
  | .range first last (some step) => by
    simp only [expr, Script.Expr.names, Script.Expr.namesAll, Tree.Expr.mentions, List.map_append, List.map_cons,
      List.append_nil, List.append_assoc, Mention.written, names_expr_eq first, names_expr_eq last, names_expr_eq step]
  | .array elements => by simp only [expr, Script.Expr.names, Tree.Expr.mentions, names_exprs_eq elements]
  | .object properties => by simp only [expr, Script.Expr.names, Tree.Expr.mentions, names_entries_eq properties]
  | .identifier name => rfl
  | .literal value => by rw [expr, Tree.Expr.mentions, names_literal_eq s]
  | .undefined => rfl
  | .interpolated parts => by simp only [expr, Script.Expr.names, Tree.Expr.mentions, names_templateParts_eq parts]

theorem names_exprs_eq : (es : List Tree.Expr) →
    Script.Expr.namesAll (exprs s es) = (Tree.Expr.mentionsAll es).map (Mention.written s)
  | [] => rfl
  | e :: es => by
    simp only [exprs, Script.Expr.namesAll, Tree.Expr.mentionsAll, List.map_append, names_expr_eq e, names_exprs_eq es]

theorem names_entries_eq : (ps : List Tree.Property) →
    Script.Entry.namesAll (entries s ps) = (Tree.Property.mentionsAll ps).map (Mention.written s)
  | [] => rfl
  | ⟨key, value, shorthand⟩ :: ps => by
    rw [entries, Tree.Property.mentionsAll, List.map_append, ← names_expr_eq value, ← names_entries_eq ps]
    by_cases hbare : isBare s key shorthand value = true
    · -- a key that stands alone is the name that its value is spelled
      obtain ⟨rfl, hkey⟩ := isBare_iff hbare
      simp [hbare, Script.Entry.namesAll, expr, Script.Expr.names, hkey]
    · simp [hbare, Script.Entry.namesAll]

theorem names_templateParts_eq : (ps : List Tree.Part) →
    Script.TemplatePart.namesAll (templateParts s ps) = (Tree.Part.mentionsAll ps).map (Mention.written s)
  | [] => rfl
  | .text text :: ps => names_templateParts_eq ps
  | .expr value :: ps => by
    simp only [templateParts, Script.TemplatePart.namesAll, Tree.Part.mentionsAll, List.map_append, names_expr_eq value,
      names_templateParts_eq ps]

end

end Names

/-! ## Declarations -/

theorem vars_alternative (t : Tree.Stmt) (t' : Script.Stmt) : (alternative t t').vars = t'.vars := by
  unfold alternative
  split
  · rfl
  · simp [Script.Stmt.vars, Script.vars]

theorem lexicals_cons {t : Tree.Stmt} {ts : List Tree.Stmt} {t' : Script.Stmt} {ts' : List Script.Stmt}
    (ht : t'.lexical? = t.lexical?) (hts : Script.lexicals ts' = Tree.lexicals ts) :
    Script.lexicals (t' :: ts') = Tree.lexicals (t :: ts) := by
  unfold Script.lexicals Tree.lexicals at hts ⊢
  rw [List.filterMap_cons, List.filterMap_cons, ht, hts]

mutual

/-- A lowered statement declares what the statement does, in the same places. -/
theorem declares_stmt (s : Scope) : (t : Tree.Stmt) → {t' : Script.Stmt} → stmt s t = .ok t' →
    t'.vars = t.hoisted ∧ t'.lexical? = t.lexical?
  | .declare kind name value, _, h => by
    cases h
    cases kind <;> exact ⟨rfl, rfl⟩
  | .function name params body, _, h => by
    obtain ⟨body', -, rfl⟩ := stmt_function_eq_ok h
    exact ⟨rfl, rfl⟩
  | .clause c, _, h => by cases h
  | .dispatch name cs, _, h => by
    obtain ⟨clauses', -, rfl⟩ := stmt_dispatch_eq_ok h
    exact ⟨rfl, rfl⟩
  | .branch test consequent none, _, h => by
    obtain ⟨consequent', hc, rfl⟩ := stmt_branch_eq_ok h
    exact ⟨(declares_stmts _ consequent hc).1, rfl⟩
  | .branch test consequent (some alternate), _, h => by
    obtain ⟨consequent', alternate', hc, ha, rfl⟩ := stmt_branchElse_eq_ok h
    refine ⟨?_, rfl⟩
    rw [Script.Stmt.vars, Tree.Stmt.hoisted, vars_alternative, (declares_stmts _ consequent hc).1,
      (declares_stmt _ alternate ha).1]
  | .unless test consequent, _, h => by
    obtain ⟨consequent', hc, rfl⟩ := stmt_unless_eq_ok h
    exact ⟨(declares_stmts _ consequent hc).1, rfl⟩
  | .ret value, _, h => by
    cases h
    exact ⟨rfl, rfl⟩
  | .expr value, _, h => by
    cases h
    exact ⟨rfl, rfl⟩
  | .block body, _, h => by
    obtain ⟨body', hb, rfl⟩ := stmt_block_eq_ok h
    exact ⟨(declares_stmts _ body hb).1, rfl⟩

theorem declares_stmts (s : Scope) : (ts : List Tree.Stmt) → {ts' : List Script.Stmt} → stmts s ts = .ok ts' →
    Script.vars ts' = Tree.Stmt.hoistedAll ts ∧ Script.lexicals ts' = Tree.lexicals ts
  | [], _, h => by
    cases h
    exact ⟨rfl, rfl⟩
  | t :: ts, _, h => by
    obtain ⟨t', ts', ht, hts, rfl⟩ := stmts_cons_eq_ok h
    obtain ⟨hvars, hlexical⟩ := declares_stmt s t ht
    obtain ⟨hvars', hlexicals⟩ := declares_stmts s ts hts
    refine ⟨?_, lexicals_cons hlexical hlexicals⟩
    rw [Script.vars, Tree.Stmt.hoistedAll, hvars, hvars']

end

theorem declares_bodyStmts {s : Scope} {ts : List Tree.Stmt} {ts' : List Script.Stmt} (h : bodyStmts s ts = .ok ts') :
    Script.vars ts' = Tree.Stmt.hoistedAll ts ∧ Script.lexicals ts' = Tree.lexicals ts := by
  induction ts generalizing ts' with
  | nil =>
    cases h
    exact ⟨rfl, rfl⟩
  | cons t ts ih =>
    rcases bodyStmts_cons_eq_ok h with ⟨value, rfl, rfl, rfl⟩ | ⟨-, t', us', ht, hts, rfl⟩
    · exact ⟨rfl, rfl⟩
    · obtain ⟨hvars, hlexical⟩ := declares_stmt s t ht
      obtain ⟨hvars', hlexicals⟩ := ih hts
      refine ⟨?_, lexicals_cons hlexical hlexicals⟩
      rw [Script.vars, Tree.Stmt.hoistedAll, hvars, hvars']

/-- A clause's statement declares in the function around it what its body does, and nothing in its list. -/
theorem declares_clauseStmt {s : Scope} {c : Tree.Clause} {t' : Script.Stmt} (h : clauseStmt s c = .ok t') :
    t'.vars = Tree.Stmt.hoistedAll c.body ∧ t'.lexical? = none := by
  obtain ⟨name, patterns, guard, body⟩ := c
  obtain ⟨body', hb, rfl⟩ := clauseStmt_mk_eq_ok h
  have hguarded (tests : List Script.Expr) (us : List Script.Stmt) :
      (guarded tests us).vars = Script.vars us ∧ (guarded tests us).lexical? = none := by
    unfold guarded
    cases conjunction tests <;> exact ⟨rfl, rfl⟩
  have hafter (test : Option Script.Expr) : Script.vars (afterGuard test body') = Script.vars body' := by
    cases test <;> simp [afterGuard, Script.vars, Script.Stmt.vars]
  refine ⟨?_, (hguarded _ _).2⟩
  rw [(hguarded _ _).1, vars_clause ⟨name, patterns, guard, body⟩, hafter, (declares_bodyStmts hb).1]

theorem declares_clauseStmts {s : Scope} {cs : List Tree.Clause} {ts' : List Script.Stmt}
    (h : clauseStmts s cs = .ok ts') : Script.vars ts' = Tree.Clause.hoistedAll cs ∧ Script.lexicals ts' = [] := by
  induction cs generalizing ts' with
  | nil =>
    cases h
    exact ⟨rfl, rfl⟩
  | cons c cs ih =>
    obtain ⟨c', us', hc, hcs, rfl⟩ := clauseStmts_cons_eq_ok h
    obtain ⟨hvars, hlexical⟩ := declares_clauseStmt hc
    obtain ⟨hvars', hlexicals⟩ := ih hcs
    constructor
    · rw [Script.vars, hvars, hvars']
      rfl
    · rw [Script.lexicals, List.filterMap_cons_none hlexical]
      exact hlexicals

/-! ## Clauses -/

theorem names_conditions_eq (s : Scope) (position : Nat) (ps : List Tree.Pattern) :
    (conditions position ps).flatMap Script.Expr.names =
      (Tree.conditionMentions position ps).map (Mention.written s) := by
  induction ps generalizing position with
  | nil => rfl
  | cons p ps ih =>
    cases p with
    | literal value =>
      simp [conditions, Tree.conditionMentions, Script.Expr.names, Mention.written, names_literal_eq s, ih]
    | wildcard => exact ih _
    | binding name => exact ih _

theorem references_bindings (s : Scope) (visible : List String) (position : Nat) (ps : List Tree.Pattern) :
    Script.Stmt.referencesAll visible (bindings position ps) =
      (Tree.bindingMentions position ps).map fun m => ⟨m.written s, visible⟩ := by
  induction ps generalizing position with
  | nil => rfl
  | cons p ps ih =>
    cases p with
    | literal value => exact ih _
    | wildcard => exact ih _
    | binding name =>
      rw [bindings, Tree.bindingMentions, List.map_cons, ← ih]
      rfl

theorem references_guarded (visible : List String) (tests : List Script.Expr) (body : List Script.Stmt) :
    (guarded tests body).references visible =
      (tests.flatMap Script.Expr.names).map (Script.Reference.mk · visible) ++
        Script.Stmt.referencesAll (visible ++ Script.lexicals body) body := by
  cases tests with
  | nil => rfl
  | cons e es =>
    have hnames : (es.foldl (.binary .and) e).names = (e :: es).flatMap Script.Expr.names := by
      simpa [guarded, conjunction, Script.Stmt.names, Script.Stmt.namesAll] using names_guarded (e :: es) []
    rw [← hnames]
    rfl

theorem references_alternative (visible : List String) (t : Tree.Stmt) {t' : Script.Stmt}
    (h : t'.lexical? = t.lexical?) :
    (alternative t t').references visible = t'.references (visible ++ Tree.lexicals [t]) := by
  have hlexicals : Script.lexicals [t'] = Tree.lexicals [t] := lexicals_cons h rfl
  unfold alternative
  split
  · -- a statement that follows `else` declares nothing
    rename_i hfollows
    have hnone : Tree.lexicals [t] = [] := by
      cases t with
      | branch test consequent alternate => rfl
      | block body => rfl
      | _ => cases hfollows
    rw [hnone, List.append_nil]
  · rw [Script.Stmt.references, hlexicals, Script.Stmt.referencesAll, Script.Stmt.referencesAll, List.append_nil]

/-! ## Statements -/

section References

variable (lib : Library)

theorem references_mentions (ctx : Context) (ms : List Mention) :
    (ms.map (Occurrence.mk · ctx)).map (Occurrence.reference lib) =
      ms.map fun m => ⟨m.written ⟨lib, ctx.bound⟩, ctx.visible⟩ := by
  rw [List.map_map]
  rfl

theorem references_expr (ctx : Context) (e : Tree.Expr) :
    (expr ⟨lib, ctx.bound⟩ e).references ctx.visible = (e.occurrences ctx).map (Occurrence.reference lib) := by
  rw [Script.Expr.references, names_expr_eq, Tree.Expr.occurrences, references_mentions, List.map_map]
  rfl

/-! A context with one more frame binds and shows what the frame adds. -/

theorem bound_push (ctx : Context) (f : Tree.Frame) : Context.bound (ctx ++ [f]) = ctx.bound ++ f.binds := by
  simp [Context.bound]

theorem visible_push (ctx : Context) (f : Tree.Frame) :
    Context.visible (ctx ++ [f]) = ctx.visible ++ (f.arguments ++ f.declares) := by
  simp [Context.visible]

theorem visible_statements (ctx : Context) (body : List Tree.Stmt) :
    Context.visible (ctx ++ [.statements body]) = ctx.visible ++ Tree.lexicals body :=
  visible_push ctx _

theorem visible_clause (ctx : Context) (patterns : List Tree.Pattern) :
    Context.visible (ctx ++ [.clause patterns]) = ctx.visible ++ patterns.filterMap Tree.Pattern.bound? :=
  visible_push ctx _

theorem scope_statements (ctx : Context) (body : List Tree.Stmt) :
    (Scope.mk lib ctx.bound).binding (declared body) = ⟨lib, Context.bound (ctx ++ [.statements body])⟩ := by
  rw [bound_push]
  rfl

theorem scope_clause (ctx : Context) (patterns : List Tree.Pattern) :
    (Scope.mk lib ctx.bound).binding (patterns.filterMap Tree.Pattern.bound?) =
      ⟨lib, Context.bound (ctx ++ [.clause patterns])⟩ := by
  rw [bound_push]
  rfl

theorem scope_dispatcher (ctx : Context) (clauses : List Tree.Clause) :
    Scope.mk lib ctx.bound = ⟨lib, Context.bound (ctx ++ [.dispatcher clauses])⟩ := by
  rw [bound_push]
  exact congrArg (Scope.mk lib) (List.append_nil _).symm

mutual

/-- The references of a lowered statement are its occurrences, each written as lowering spells it and seeing what
its context declares. -/
theorem references_stmt : (t : Tree.Stmt) → {ctx : Context} → {t' : Script.Stmt} → stmt ⟨lib, ctx.bound⟩ t = .ok t' →
    t'.references ctx.visible = (t.occurrences ctx).map (Occurrence.reference lib)
  | .declare kind name value, ctx, _, h => by
    cases h
    exact references_expr lib ctx value
  | .function name params body, ctx, _, h => by
    obtain ⟨body', hb, rfl⟩ := stmt_function_eq_ok h
    obtain ⟨hvars, hlexicals⟩ := declares_bodyStmts hb
    have hscope : ((Scope.mk lib ctx.bound).binding params).binding (declared body) =
        ⟨lib, Context.bound (ctx ++ [.function params body, .statements body])⟩ := by
      simp [Context.bound, Scope.binding, Tree.Frame.binds]
    have hvisible : ctx.visible ++ params ++ Tree.Stmt.hoistedAll body ++ Tree.lexicals body =
        Context.visible (ctx ++ [.function params body, .statements body]) := by
      simp [Context.visible, Tree.Frame.arguments, Tree.Frame.declares]
    rw [hscope] at hb
    rw [Script.Stmt.references, hvars, hlexicals, hvisible, references_bodyStmts body hb, Tree.Stmt.occurrences]
  | .clause c, _, _, h => by cases h
  | .dispatch name cs, ctx, _, h => by
    obtain ⟨clauses', hc, rfl⟩ := stmt_dispatch_eq_ok h
    obtain ⟨hvars, hlexicals⟩ := declares_clauseStmts hc
    rw [scope_dispatcher lib ctx cs] at hc
    have hvars' : Script.vars (clauses' ++ [.throwError ("No pattern matched for " ++ name)]) =
        Tree.Clause.hoistedAll cs := by
      rw [vars_append, hvars]
      exact List.append_nil _
    have hlexicals' : Script.lexicals (clauses' ++ [.throwError ("No pattern matched for " ++ name)]) = [] := by
      unfold Script.lexicals at hlexicals ⊢
      rw [List.filterMap_append, hlexicals]
      rfl
    have hvisible : ctx.visible ++ (List.range (Tree.arity cs)).map argument ++ Tree.Clause.hoistedAll cs =
        Context.visible (ctx ++ [.dispatcher cs]) := by
      rw [visible_push, List.append_assoc]
      rfl
    rw [Script.Stmt.references, hvars', hlexicals', List.append_nil, hvisible, Script.Stmt.referencesAll_append,
      references_clauseStmts cs hc, Tree.Stmt.occurrences, List.map_append]
    rfl
  | .branch test consequent none, ctx, _, h => by
    obtain ⟨consequent', hc, rfl⟩ := stmt_branch_eq_ok h
    rw [scope_statements] at hc
    rw [Script.Stmt.references, references_expr, (declares_stmts _ consequent hc).2, ← visible_statements,
      references_stmts consequent hc, Tree.Stmt.occurrences, List.map_append]
  | .branch test consequent (some alternate), ctx, _, h => by
    obtain ⟨consequent', alternate', hc, ha, rfl⟩ := stmt_branchElse_eq_ok h
    rw [scope_statements] at hc ha
    rw [Script.Stmt.references, references_expr, (declares_stmts _ consequent hc).2, ← visible_statements,
      references_stmts consequent hc, references_alternative _ _ (declares_stmt _ alternate ha).2,
      ← visible_statements, references_stmt alternate ha, Tree.Stmt.occurrences, List.map_append, List.map_append]
  | .unless test consequent, ctx, _, h => by
    obtain ⟨consequent', hc, rfl⟩ := stmt_unless_eq_ok h
    rw [scope_statements] at hc
    have htest : (Script.Expr.unary .not (.paren (expr ⟨lib, ctx.bound⟩ test))).references ctx.visible =
        (test.occurrences ctx).map (Occurrence.reference lib) := references_expr lib ctx test
    rw [Script.Stmt.references, htest, (declares_stmts _ consequent hc).2, ← visible_statements,
      references_stmts consequent hc, Tree.Stmt.occurrences, List.map_append]
  | .ret value, ctx, _, h => by
    cases h
    exact references_expr lib ctx value
  | .expr value, ctx, _, h => by
    cases h
    rw [Script.Stmt.references, Script.Expr.references, names_wrapped]
    exact references_expr lib ctx value
  | .block body, ctx, _, h => by
    obtain ⟨body', hb, rfl⟩ := stmt_block_eq_ok h
    rw [scope_statements] at hb
    rw [Script.Stmt.references, (declares_stmts _ body hb).2, ← visible_statements, references_stmts body hb,
      Tree.Stmt.occurrences]

theorem references_stmts : (ts : List Tree.Stmt) → {ctx : Context} → {ts' : List Script.Stmt} →
    stmts ⟨lib, ctx.bound⟩ ts = .ok ts' →
    Script.Stmt.referencesAll ctx.visible ts' = (Tree.Stmt.occurrencesAll ctx ts).map (Occurrence.reference lib)
  | [], _, _, h => by
    cases h
    rfl
  | t :: ts, _, _, h => by
    obtain ⟨t', ts', ht, hts, rfl⟩ := stmts_cons_eq_ok h
    rw [Script.Stmt.referencesAll, references_stmt t ht, references_stmts ts hts, Tree.Stmt.occurrencesAll,
      List.map_append]

theorem references_bodyStmts : (ts : List Tree.Stmt) → {ctx : Context} → {ts' : List Script.Stmt} →
    bodyStmts ⟨lib, ctx.bound⟩ ts = .ok ts' →
    Script.Stmt.referencesAll ctx.visible ts' = (Tree.Stmt.occurrencesAll ctx ts).map (Occurrence.reference lib)
  | [], _, _, h => by
    cases h
    rfl
  | t :: ts, ctx, _, h => by
    rcases bodyStmts_cons_eq_ok h with ⟨value, rfl, rfl, rfl⟩ | ⟨-, t', ts', ht, hts, rfl⟩
    · rw [Script.Stmt.referencesAll, Script.Stmt.references, references_expr, Tree.Stmt.occurrencesAll,
        Tree.Stmt.occurrences, List.map_append]
      rfl
    · rw [Script.Stmt.referencesAll, references_stmt t ht, references_bodyStmts ts hts, Tree.Stmt.occurrencesAll,
        List.map_append]

theorem references_clauseStmt : (c : Tree.Clause) → {ctx : Context} → {t' : Script.Stmt} →
    clauseStmt ⟨lib, ctx.bound⟩ c = .ok t' →
    t'.references ctx.visible = (c.occurrences ctx).map (Occurrence.reference lib)
  | ⟨name, patterns, guard, body⟩, ctx, _, h => by
    obtain ⟨body', hb, rfl⟩ := clauseStmt_mk_eq_ok h
    rw [scope_clause, scope_statements] at hb
    rw [scope_clause]
    have hlexicals := (declares_bodyStmts hb).2
    have hbody := references_bodyStmts body hb
    rw [references_guarded, names_conditions_eq ⟨lib, ctx.bound⟩, lexicals_clause ⟨name, patterns, guard, body⟩,
      Script.Stmt.referencesAll_append, Tree.Clause.occurrences, Tree.Clause.bound, ← List.append_assoc ctx.visible,
      ← visible_clause]
    cases guard with
    | none =>
      -- the bindings stand in one list with the body
      rw [Option.map_none, afterGuard, hlexicals, ← visible_statements, hbody,
        references_bindings ⟨lib, Context.bound (ctx ++ [.clause patterns] ++ [.statements body])⟩]
      simp [Occurrence.reference, Function.comp_def]
    | some guard =>
      have hnone : Script.lexicals [.branch (expr ⟨lib, Context.bound (ctx ++ [.clause patterns])⟩ guard) body' none] = [] :=
        rfl
      rw [Option.map_some, afterGuard, hnone, List.append_nil, Script.Stmt.referencesAll, Script.Stmt.references,
        references_expr, hlexicals, ← visible_statements, hbody,
        references_bindings ⟨lib, Context.bound (ctx ++ [.clause patterns])⟩]
      simp [Occurrence.reference, Function.comp_def, Script.Stmt.referencesAll]

theorem references_clauseStmts : (cs : List Tree.Clause) → {ctx : Context} → {ts' : List Script.Stmt} →
    clauseStmts ⟨lib, ctx.bound⟩ cs = .ok ts' →
    Script.Stmt.referencesAll ctx.visible ts' = (Tree.Clause.occurrencesAll ctx cs).map (Occurrence.reference lib)
  | [], _, _, h => by
    cases h
    rfl
  | c :: cs, _, _, h => by
    obtain ⟨c', cs', hc, hcs, rfl⟩ := clauseStmts_cons_eq_ok h
    rw [Script.Stmt.referencesAll, references_clauseStmt c hc, references_clauseStmts cs hcs,
      Tree.Clause.occurrencesAll, List.map_append]

end

end References

/-- The references of a compiled program are its occurrences, one for one and in order. -/
theorem references_compile {lib : Library} {p : Tree.Program} {out : Output} (h : compile lib p = .ok out) :
    out.script.references = p.occurrences.map (Occurrence.reference lib) := by
  obtain ⟨hbody, -, -⟩ := compile_eq_ok h
  have hscope : Scope.mk lib (declared p.gathered.body) =
      ⟨lib, Context.bound [.program p.gathered.body, .statements p.gathered.body]⟩ := by
    simp [Context.bound, Tree.Frame.binds]
  have hvisible : Tree.Stmt.hoistedAll p.gathered.body ++ Tree.lexicals p.gathered.body =
      Context.visible [.program p.gathered.body, .statements p.gathered.body] := by
    simp [Context.visible, Tree.Frame.arguments, Tree.Frame.declares]
  obtain ⟨hvars, hlexicals⟩ := declares_stmts _ _ hbody
  rw [hscope] at hbody
  rw [Script.Program.references, hvars, hlexicals, hvisible, references_stmts lib _ hbody, Tree.Program.occurrences]

end Lowering

end TreeScript
