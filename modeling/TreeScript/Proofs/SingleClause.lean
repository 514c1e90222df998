/-
  TreeScript.Proofs.SingleClause — which dispatchers run one clause at most.

  A clause whose body ends normally hands on to the clauses after it, and in the end to
  the error for arguments that no clause takes. Whether that can happen is a matter of the
  body's form: `Clause.leaves` says that a body always returns or throws, and it does so
  whatever its expressions evaluate to (`execAll_ne_normal`). A body that does not leave is
  run to its end by an engine that answers every expression from a list (`scripted`), be it
  a literal. So a dispatcher runs one clause at most in every engine exactly if every clause
  leaves, up to the first that takes all arguments.
-/

import TreeScript.Proofs.Clauses
import TreeScript.Proofs.Scopes

namespace TreeScript

/-! ## Statements that leave -/

namespace Tree

mutual

/-- Whether a statement never ends normally. -/
def Stmt.leaves : Stmt → Bool
  | .ret _ => true
  | .branch _ consequent (some alternate) => anyLeaves consequent && alternate.leaves
  | .block body => anyLeaves body
  | _ => false

def anyLeaves : List Stmt → Bool
  | [] => false
  | t :: ts => t.leaves || anyLeaves ts

end

/-- Whether a statement list ends in an expression. -/
def endsInExpr : List Stmt → Bool
  | [] => false
  | [.expr _] => true
  | _ :: ts => endsInExpr ts

/-- Whether a clause's body never ends normally: an expression at its end is returned. -/
def Clause.leaves (c : Clause) : Bool := anyLeaves c.body || endsInExpr c.body

/-- The clauses that can be reached at all: those up to the first that takes all arguments. -/
def reachable : List Clause → List Clause
  | [] => []
  | c :: cs => if c.catchAll then [c] else c :: reachable cs

theorem mem_of_mem_reachable {c : Clause} {cs : List Clause} (h : c ∈ reachable cs) : c ∈ cs := by
  induction cs with
  | nil => cases h
  | cons d ds ih =>
    rw [reachable] at h
    split at h
    · exact List.mem_cons.2 (.inl (List.mem_singleton.1 h))
    · rcases List.mem_cons.1 h with rfl | h
      · exact List.mem_cons_self
      · exact List.mem_cons_of_mem d (ih h)

end Tree

namespace Script

mutual

/-- Whether a statement never ends normally. -/
def Stmt.leaves : Stmt → Bool
  | .ret _ => true
  | .throwError _ => true
  | .branch _ consequent (some alternate) => anyLeaves consequent && alternate.leaves
  | .block body => anyLeaves body
  | _ => false

def anyLeaves : List Stmt → Bool
  | [] => false
  | t :: ts => t.leaves || anyLeaves ts

end

variable {σ : Type}

theorem withValue_fst_ne_normal {r : Outcome × Machine σ} {next : Value → Machine σ → Completion × Machine σ}
    (h : ∀ v m, (next v m).1 ≠ .normal) : (withValue r next).1 ≠ .normal := by
  rcases r with ⟨v | fault, m⟩
  · exact h v m
  · exact Completion.noConfusion

mutual

theorem exec_ne_normal (E : Engine σ) (env : Env) (m : Machine σ) :
    (t : Stmt) → t.leaves = true → (E.exec env t m).1 ≠ .normal
  | .ret value, _ => by
    simp only [Engine.exec]
    exact withValue_fst_ne_normal fun _ _ => Completion.noConfusion
  | .throwError message, _ => by
    simp only [Engine.exec]
    split
    · exact Completion.noConfusion
    · exact withValue_fst_ne_normal fun _ _ => Completion.noConfusion
  | .branch test consequent (some alternate), h => by
    simp only [Stmt.leaves, Bool.and_eq_true] at h
    simp only [Engine.exec]
    refine withValue_fst_ne_normal fun v m => ?_
    split
    · exact execAll_ne_normal E _ _ consequent h.1
    · exact exec_ne_normal E env m alternate h.2
  | .block body, h => by
    simp only [Engine.exec]
    exact execAll_ne_normal E _ _ body (by simpa [Stmt.leaves] using h)

/-- Statements of which one leaves do not end normally, whatever their expressions evaluate to. -/
theorem execAll_ne_normal (E : Engine σ) (env : Env) (m : Machine σ) :
    (ts : List Stmt) → anyLeaves ts = true → (E.execAll env ts m).1 ≠ .normal
  | t :: ts, h => by
    simp only [anyLeaves, Bool.or_eq_true] at h
    simp only [Engine.execAll]
    apply andThen_fst_ne_normal
    rcases h with h | h
    · exact .inl (exec_ne_normal E env m t h)
    · exact .inr fun m => execAll_ne_normal E env m ts h

end

/-! ## Statements that do not leave -/

/-- An engine that answers each expression with the next of some booleans. -/
def scripted : Engine (List Bool) where
  eval _ _ m := (.value (.boolean (m.world.headD false)), { m with world := m.world.tail })
  closure _ _ _ _ answers := answers
  keeps _ _ _ := ⟨fun _ _ h => h, Nat.le_refl _⟩

theorem scripted_eval {env : Env} {e : Expr} {m : Machine (List Bool)} {answer : Bool} {rest : List Bool}
    (h : m.world = answer :: rest) : scripted.eval env e m = (.value (.boolean answer), { m with world := rest }) := by
  simp [scripted, h]

/-- Whether a run ends normally with these answers, and uses them up. -/
def CompletesWith (answers : List Bool) (run : Machine (List Bool) → Completion × Machine (List Bool)) : Prop :=
  ∀ m rest, m.world = answers ++ rest → (run m).1 = .normal ∧ (run m).2.world = rest

theorem CompletesWith.andThen {as bs : List Bool} {run next : Machine (List Bool) → Completion × Machine (List Bool)}
    (h : CompletesWith as run) (h' : CompletesWith bs next) :
    CompletesWith (as ++ bs) fun m => Script.andThen (run m) next := by
  intro m rest hm
  obtain ⟨hn, hw⟩ := h m (bs ++ rest) (by simpa using hm)
  rcases hr : run m with ⟨how, m'⟩
  simp only [hr] at hn hw ⊢
  subst hn
  exact h' m' rest hw

theorem world_hoist (env : Env) (body : List Stmt) (m : Machine (List Bool)) :
    (scripted.hoist env body m).world = m.world := by
  induction body generalizing m with
  | nil => rfl
  | cons t ts ih =>
    cases t with
    | function name params body =>
      rw [Engine.hoist, ih, Machine.world_assign]
      rfl
    | _ => simp only [Engine.hoist, ih]

theorem world_enter (body : List Stmt) (env : Env) (m : Machine (List Bool)) :
    (scripted.enter body env m).2.world = m.world := by
  rw [Engine.enter, world_hoist, reserve_snd]

theorem world_frame (params : List String) (body : List Stmt) (args : List Value) (env : Env) (m : Machine σ) :
    (frame params body args env m).2.world = m.world := by
  simp [frame, allocate, reserve_snd]

mutual

theorem exec_completes : (t : Stmt) → t.leaves = false → ∃ answers, ∀ env, CompletesWith answers (scripted.exec env t)
  | .declare kind name value, _ =>
    ⟨[false], fun env m rest hm => by simp [Engine.exec, scripted_eval hm, withValue]⟩
  | .function name params body, _ => ⟨[], fun env m rest hm => ⟨rfl, hm⟩⟩
  | .branch test consequent none, _ =>
    ⟨[false], fun env m rest hm => by simp [Engine.exec, scripted_eval hm, withValue, Value.isTruthy]⟩
  | .branch test consequent (some alternate), h => by
    simp only [Stmt.leaves, Bool.and_eq_false_iff] at h
    rcases h with h | h
    · obtain ⟨answers, hc⟩ := execAll_completes consequent h
      refine ⟨true :: answers, fun env m rest hm => ?_⟩
      simp only [Engine.exec, scripted_eval hm, withValue, Value.isTruthy, if_true]
      exact hc _ _ rest (world_enter ..)
    · obtain ⟨answers, ha⟩ := exec_completes alternate h
      refine ⟨false :: answers, fun env m rest hm => ?_⟩
      simp only [Engine.exec, scripted_eval hm, withValue, Value.isTruthy, Bool.false_eq_true, if_false]
      exact ha _ _ rest rfl
  | .expr value, _ => ⟨[false], fun env m rest hm => by simp [Engine.exec, scripted_eval hm, withValue]⟩
  | .block body, h => by
    obtain ⟨answers, hb⟩ := execAll_completes body (by simpa [Stmt.leaves] using h)
    refine ⟨answers, fun env m rest hm => ?_⟩
    simp only [Engine.exec]
    exact hb _ _ rest (by rw [world_enter, hm])

/-- Statements of which none leaves end normally for some answers to their tests. -/
theorem execAll_completes :
    (ts : List Stmt) → anyLeaves ts = false → ∃ answers, ∀ env, CompletesWith answers (scripted.execAll env ts)
  | [], _ => ⟨[], fun env m rest hm => ⟨rfl, hm⟩⟩
  | t :: ts, h => by
    simp only [anyLeaves, Bool.or_eq_false_iff] at h
    obtain ⟨as, ht⟩ := exec_completes t h.1
    obtain ⟨bs, hts⟩ := execAll_completes ts h.2
    exact ⟨as ++ bs, fun env => (ht env).andThen (hts env)⟩

end

end Script

namespace Lowering

open TreeScript.Script (Engine Env Machine Value)

variable {σ : Type}

mutual

theorem leaves_stmt (s : Scope) : (t : Tree.Stmt) → {t' : Script.Stmt} → stmt s t = .ok t' → t'.leaves = t.leaves
  | .declare kind name value, _, h => by
    cases h
    rfl
  | .function name params body, _, h => by
    obtain ⟨body', -, rfl⟩ := stmt_function_eq_ok h
    rfl
  | .clause c, _, h => by cases h
  | .dispatch name cs, _, h => by
    obtain ⟨clauses', -, rfl⟩ := stmt_dispatch_eq_ok h
    rfl
  | .branch test consequent none, _, h => by
    obtain ⟨consequent', -, rfl⟩ := stmt_branch_eq_ok h
    rfl
  | .branch test consequent (some alternate), _, h => by
    obtain ⟨consequent', alternate', hc, ha, rfl⟩ := stmt_branchElse_eq_ok h
    have alternative_leaves : (alternative alternate alternate').leaves = alternate'.leaves := by
      unfold alternative
      split
      · rfl
      · simp [Script.Stmt.leaves, Script.anyLeaves]
    simp only [Script.Stmt.leaves, Tree.Stmt.leaves, alternative_leaves, leaves_stmt _ alternate ha,
      anyLeaves_stmts _ consequent hc]
  | .unless test consequent, _, h => by
    obtain ⟨consequent', -, rfl⟩ := stmt_unless_eq_ok h
    rfl
  | .ret value, _, h => by
    cases h
    rfl
  | .expr value, _, h => by
    cases h
    rfl
  | .block body, _, h => by
    obtain ⟨body', hb, rfl⟩ := stmt_block_eq_ok h
    simp only [Script.Stmt.leaves, Tree.Stmt.leaves, anyLeaves_stmts _ body hb]

theorem anyLeaves_stmts (s : Scope) :
    (ts : List Tree.Stmt) → {ts' : List Script.Stmt} → stmts s ts = .ok ts' →
      Script.anyLeaves ts' = Tree.anyLeaves ts
  | [], _, h => by
    cases h
    rfl
  | t :: ts, _, h => by
    obtain ⟨t', ts', ht, hts, rfl⟩ := stmts_cons_eq_ok h
    simp only [Script.anyLeaves, Tree.anyLeaves, leaves_stmt s t ht, anyLeaves_stmts s ts hts]

end

/-- The script of a body leaves exactly if the body does. -/
theorem anyLeaves_bodyStmts (s : Scope) (ts : List Tree.Stmt) {ts' : List Script.Stmt} (h : bodyStmts s ts = .ok ts') :
    Script.anyLeaves ts' = (Tree.anyLeaves ts || Tree.endsInExpr ts) := by
  induction ts generalizing ts' with
  | nil =>
    cases h
    rfl
  | cons t ts ih =>
    rcases bodyStmts_cons_eq_ok h with ⟨value, rfl, rfl, rfl⟩ | ⟨hlast, t', ts'', ht, hts, rfl⟩
    · rfl
    · rw [Tree.endsInExpr.eq_3 t ts fun value ht hts => hlast ⟨value, ht, hts⟩]
      simp only [Script.anyLeaves, Tree.anyLeaves, leaves_stmt s t ht, ih hts, Bool.or_assoc]

/-! ## Reaching a clause -/

open TreeScript.Script (scripted scripted_eval)

/-- The answers that let a condition hold. -/
def granting (test : Option Script.Expr) : List Bool := test.toList.map fun _ => true

theorem ask_granted {test : Option Script.Expr} {env : Env} {m : Machine (List Bool)} {rest : List Bool}
    (next : Machine (List Bool) → Entry (List Bool)) (hm : m.world = granting test ++ rest) :
    ask scripted test env m next = next { m with world := rest } := by
  cases test with
  | none =>
    obtain rfl : m.world = rest := hm
    rfl
  | some test => simp [ask, scripted_eval (show m.world = true :: rest from hm), Value.isTruthy]

theorem ask_refused {test : Script.Expr} {env : Env} {m : Machine (List Bool)} {rest : List Bool}
    (next : Machine (List Bool) → Entry (List Bool)) (hm : m.world = false :: rest) :
    ask scripted (some test) env m next = .passed { m with world := rest } := by
  simp [ask, scripted_eval hm, Value.isTruthy]

theorem anyLeaves_bindings (position : Nat) (ps : List Tree.Pattern) :
    Script.anyLeaves (bindings position ps) = false := by
  induction ps generalizing position with
  | nil => rfl
  | cons p ps ih => cases p <;> simp [bindings, Script.anyLeaves, Script.Stmt.leaves, ih]

/-- For some answers, a clause whose tests hold comes to its guard. -/
theorem bind_asks {b : Block} (hb : Script.anyLeaves b.bindings = false) :
    ∃ answers, ∀ (env : Env) (m : Machine (List Bool)) (rest : List Bool), m.world = answers ++ rest →
      ∃ inner m', m'.world = rest ∧ b.bind scripted env m = ask scripted b.guard inner m' fun m =>
        let scope := if b.guard.isSome then scripted.enter b.body inner m else (inner, m)
        .entered scope.1 scope.2 := by
  obtain ⟨answers, hbind⟩ := Script.execAll_completes _ hb
  refine ⟨answers, fun env m rest hm => ?_⟩
  rw [Block.bind]
  generalize hscope : scripted.enter (b.bindings ++ afterGuard b.guard b.body) env m = scope
  obtain ⟨hn, hw⟩ := hbind scope.1 scope.2 rest (by rw [← hscope, Script.world_enter, hm])
  rcases hr : scripted.execAll scope.1 b.bindings scope.2 with ⟨how, m'⟩
  simp only [hr] at hn hw
  subst hn
  exact ⟨scope.1, m', hw, rfl⟩

/-- Every clause is entered for some answers. -/
theorem arrive_enters {b : Block} (hb : Script.anyLeaves b.bindings = false) :
    ∃ answers, ∀ (env : Env) (m : Machine (List Bool)) (rest : List Bool), m.world = answers ++ rest →
      ∃ inner m', b.arrive scripted env m = .entered inner m' ∧ m'.world = rest := by
  obtain ⟨answers, hbind⟩ := bind_asks hb
  refine ⟨granting (conjunction b.tests) ++ (answers ++ granting b.guard), fun env m rest hm => ?_⟩
  rw [List.append_assoc] at hm
  obtain ⟨inner, m', hw, hasks⟩ := hbind env { m with world := _ } (granting b.guard ++ rest) (List.append_assoc ..)
  rw [Block.arrive, ask_granted _ hm, hasks, ask_granted _ hw]
  refine ⟨_, _, rfl, ?_⟩
  split
  · rw [Script.world_enter]
  · rfl

/-- Every clause with a test or a guard is passed over for some answers. -/
theorem arrive_passes {b : Block} (hb : Script.anyLeaves b.bindings = false)
    (h : conjunction b.tests ≠ none ∨ b.guard ≠ none) :
    ∃ answers, ∀ (env : Env) (m : Machine (List Bool)) (rest : List Bool), m.world = answers ++ rest →
      ∃ m', b.arrive scripted env m = .passed m' ∧ m'.world = rest := by
  unfold Block.arrive
  cases htest : conjunction b.tests with
  | some test => exact ⟨[false], fun env m rest hm => ⟨_, ask_refused _ hm, rfl⟩⟩
  | none =>
    cases hguard : b.guard with
    | none => exact absurd hguard (h.resolve_left fun ht => ht htest)
    | some guard =>
      obtain ⟨answers, hbind⟩ := bind_asks hb
      refine ⟨answers ++ [false], fun env m rest hm => ?_⟩
      obtain ⟨inner, m', hw, hasks⟩ := hbind env m (false :: rest) (by simpa using hm)
      refine ⟨{ m' with world := rest }, ?_, rfl⟩
      rw [hguard] at hasks
      exact hasks.trans (ask_refused _ hw)

theorem conditions_eq_nil {position : Nat} {ps : List Tree.Pattern} (h : ps.any Tree.Pattern.checked = false) :
    conditions position ps = [] := by
  induction ps generalizing position with
  | nil => rfl
  | cons p ps ih =>
    cases p with
    | literal value => simp [Tree.Pattern.checked] at h
    | wildcard => exact ih (by simpa [Tree.Pattern.checked] using h)
    | binding name => exact ih (by simpa [Tree.Pattern.checked] using h)

theorem conjunction_conditions_ne_none {position : Nat} {ps : List Tree.Pattern}
    (h : ps.any Tree.Pattern.checked = true) : conjunction (conditions position ps) ≠ none := by
  induction ps generalizing position with
  | nil => simp at h
  | cons p ps ih =>
    cases p with
    | literal value => simp [conditions, conjunction]
    | wildcard => exact ih (by simpa [Tree.Pattern.checked] using h)
    | binding name => exact ih (by simpa [Tree.Pattern.checked] using h)

/-- Every clause up to the first that takes all arguments is the one entered, for some answers. -/
theorem arrival_enters (s : Scope) {c : Tree.Clause} {cs : List Tree.Clause} (h : c ∈ Tree.reachable cs) :
    ∃ answers, ∀ (env : Env) (m : Machine (List Bool)) (rest : List Bool), m.world = answers ++ rest →
      ∃ later inner m', arrival scripted env (cs.map (block s)) m = .entered (block s c) later inner m' ∧
        m'.world = rest := by
  induction cs with
  | nil => cases h
  | cons d ds ih =>
    have hd : Script.anyLeaves (block s d).bindings = false := anyLeaves_bindings 0 d.patterns
    have entered : ∃ answers, ∀ (env : Env) (m : Machine (List Bool)) (rest : List Bool), m.world = answers ++ rest →
        ∃ later inner m', arrival scripted env ((d :: ds).map (block s)) m = .entered (block s d) later inner m' ∧
          m'.world = rest := by
      obtain ⟨answers, harrive⟩ := arrive_enters hd
      refine ⟨answers, fun env m rest hm => ?_⟩
      obtain ⟨inner, m', ha, hw⟩ := harrive env m rest hm
      exact ⟨ds.map (block s), inner, m', by simp [arrival, ha], hw⟩
    rw [Tree.reachable] at h
    split at h
    · obtain rfl : c = d := by simpa using h
      exact entered
    · rename_i hall
      rcases List.mem_cons.1 h with rfl | h
      · exact entered
      · have hasks : conjunction (block s d).tests ≠ none ∨ (block s d).guard ≠ none := by
          by_cases hp : d.patterns.any Tree.Pattern.checked = true
          · exact .inl (conjunction_conditions_ne_none hp)
          · refine .inr fun hg => hall ?_
            have hg : d.guard = none := by simpa [block] using hg
            simpa [Tree.Clause.catchAll, hg] using hp
        obtain ⟨as, hpass⟩ := arrive_passes hd hasks
        obtain ⟨bs, hrest⟩ := ih h
        refine ⟨as ++ bs, fun env m rest hm => ?_⟩
        obtain ⟨m₁, hp, hw⟩ := hpass env m (bs ++ rest) (by simpa using hm)
        obtain ⟨later, inner, m', ha, hw'⟩ := hrest env m₁ rest hw
        exact ⟨later, inner, m', by simpa [arrival, hp] using ha, hw'⟩

/-- A clause that takes all arguments is never passed over. -/
theorem arrive_ne_passed (E : Engine σ) (s : Scope) {c : Tree.Clause} (h : c.catchAll = true) (env : Env)
    (m m' : Machine σ) : (block s c).arrive E env m ≠ .passed m' := by
  simp only [Tree.Clause.catchAll, Bool.and_eq_true, Option.isNone_iff_eq_none, Bool.not_eq_true'] at h
  have htests : conditions 0 c.patterns = [] := conditions_eq_nil h.2
  simp only [Block.arrive, block, htests, h.1, Option.map_none, conjunction, ask, Block.bind]
  split
  · intro heq
    cases heq
  · intro heq
    cases heq

/-- Only clauses up to the first that takes all arguments are entered. -/
theorem mem_reachable_of_entered (E : Engine σ) (s : Scope) {cs : List Tree.Clause} {env inner : Env}
    {m m' : Machine σ} {b : Block} {later : List Block}
    (h : arrival E env (cs.map (block s)) m = .entered b later inner m') : ∃ c ∈ Tree.reachable cs, b = block s c := by
  induction cs generalizing m with
  | nil => cases h
  | cons d ds ih =>
    simp only [List.map_cons, arrival] at h
    rw [Tree.reachable]
    rcases ha : (block s d).arrive E env m with m₁ | ⟨how, m₁⟩ | ⟨inner₁, m₁⟩
    · have hall : ¬d.catchAll = true := fun hall => arrive_ne_passed E s hall env m m₁ ha
      rw [ha] at h
      obtain ⟨c, hc, hb⟩ := ih h
      exact ⟨c, by rw [if_neg hall]; exact List.mem_cons_of_mem d hc, hb⟩
    · rw [ha] at h
      cases h
    · rw [ha] at h
      cases h
      refine ⟨d, ?_, rfl⟩
      split
      · exact List.mem_singleton_self d
      · exact List.mem_cons_self

/-! ## One clause at most -/

theorem anyLeaves_append (ts us : List Script.Stmt) :
    Script.anyLeaves (ts ++ us) = (Script.anyLeaves ts || Script.anyLeaves us) := by
  induction ts with
  | nil => rfl
  | cons t ts ih => simp only [List.cons_append, Script.anyLeaves, ih, Bool.or_assoc]

/-- The call of a dispatcher never ends normally: the last statement throws. -/
theorem call_ne_normal (E : Engine σ) (s : Scope) (name : String) (cs : List Tree.Clause) (args : List Value) (env : Env)
    (m : Machine σ) : (E.call (parameterNames cs) (dispatcherBody s name cs) args env m).1 ≠ .normal := by
  apply Script.execAll_ne_normal
  rw [dispatcherBody, anyLeaves_append]
  simp [Script.anyLeaves, Script.Stmt.leaves]

/-- Once a dispatcher has entered the body of a clause, the rest of the call is the run of that body, with no
later test, guard or body evaluated and no error for unmatched arguments, exactly if the bodies of its
clauses always leave: they return or throw, or end in an expression. Clauses after one that takes all
arguments do not matter.

This is for all engines. If the bodies leave, that is so for the language's own as for any other. The converse takes
an engine that answers expressions as it likes, the literal `true` with false among them (`scripted`): a body that
returns behind a test which never fails, or a clause which no arguments come to, does not leave by its form. -/
theorem runs_one_clause_iff {s : Scope} {name : String} {cs : List Tree.Clause} {f : Script.Stmt}
    (hf : stmt s (.dispatch name cs) = .ok f) :
    f = .function name (parameterNames cs) (dispatcherBody s name cs) ∧
      ((∀ (σ : Type) (E : Engine σ) (args : List Value) (env inner : Env) (m m' : Machine σ) (b : Block)
          (later : List Block), dispatched E s name cs args env m = .entered b later inner m' →
          E.call (parameterNames cs) (dispatcherBody s name cs) args env m = E.execAll inner b.body m') ↔
        ∀ c ∈ Tree.reachable cs, c.leaves = true) := by
  obtain ⟨rfl, hbodies⟩ := dispatch_eq_ok hf
  refine ⟨rfl, fun hone c hc => ?_, fun hleaves σ E args env inner m m' b later hentered => ?_⟩
  · cases hl : c.leaves with
    | true => rfl
    | false =>
      -- the body of this clause can end normally, and the whole call would end with it
      have hbody : Script.anyLeaves (block s c).body = false :=
        (anyLeaves_bodyStmts _ _ (hbodies c (Tree.mem_of_mem_reachable hc))).trans hl
      obtain ⟨as, harrive⟩ := arrival_enters s hc
      obtain ⟨bs, hrun⟩ := Script.execAll_completes _ hbody
      let m : Machine (List Bool) := ⟨[], 0, as ++ bs⟩
      obtain ⟨later, inner, m', hentered, hw⟩ :=
        harrive _ (Script.frame (parameterNames cs) (dispatcherBody s name cs) [] (fun _ => none) m).2 bs
          (Script.world_frame ..)
      have hcall := hone _ scripted [] (fun _ => none) inner m m' _ later hentered
      have hnormal := (hrun inner m' [] (by rw [hw, List.append_nil])).1
      exact absurd (hcall ▸ hnormal) (call_ne_normal scripted s name cs [] (fun _ => none) m)
  · obtain ⟨c, hc, rfl⟩ := mem_reachable_of_entered E s hentered
    have hbody : Script.anyLeaves (block s c).body = true :=
      (anyLeaves_bodyStmts _ _ (hbodies c (Tree.mem_of_mem_reachable hc))).trans (hleaves c hc)
    rw [call_dispatcher]
    simp only [hentered]
    exact Script.andThen_eq_self (Script.execAll_ne_normal E inner m' _ hbody)

/-- Clauses that leave by both branches of a test, by an expression after a declaration, and by a return; and,
after them, one that cannot be reached. -/
def leavingClauses : List Tree.Clause :=
  [⟨"f", [.literal .nil, .wildcard], none, [.branch (.identifier "t") [.ret .undefined] (some (.block [.ret .undefined]))]⟩,
    ⟨"f", [.binding "x"], some (.identifier "x"), [.declare .const "y" (.identifier "x"), .expr (.identifier "y")]⟩,
    ⟨"f", [.binding "x"], none, [.unless (.identifier "x") [], .ret (.identifier "x"), .block []]⟩,
    ⟨"f", [.literal (.boolean true)], none, []⟩]

theorem runs_one_clause_leavingClauses :
    stmt ⟨{}, []⟩ (.dispatch "f" leavingClauses) =
        .ok (.function "f" ["_arg0", "_arg1"] (dispatcherBody ⟨{}, []⟩ "f" leavingClauses)) ∧
      ∀ (σ : Type) (E : Engine σ) (args : List Value) (env inner : Env) (m m' : Machine σ) (b : Block)
        (later : List Block), dispatched E ⟨{}, []⟩ "f" leavingClauses args env m = .entered b later inner m' →
        E.call (parameterNames leavingClauses) (dispatcherBody ⟨{}, []⟩ "f" leavingClauses) args env m =
          E.execAll inner b.body m' :=
  ⟨rfl, (runs_one_clause_iff rfl).2.2 (by decide)⟩

/-- A clause for zero whose body is a declaration. -/
def declaringClauses : List Tree.Clause :=
  [⟨"f", [.literal (.number .zero)], none, [.declare .const "y" (.literal (.number (.ofNat 1)))]⟩]

/-- The clause is entered for zero, and yet the call ends in the error for arguments that no clause takes. -/
theorem declaration_falls_through :
    (∃ f, stmt ⟨{}, []⟩ (.dispatch "f" declaringClauses) = .ok f) ∧
      (∃ b later inner m, dispatched Script.Primitives.blank.standard ⟨{}, []⟩ "f" declaringClauses [.number .zero]
        (fun _ => none) ⟨[], 0, ()⟩ = .entered b later inner m) ∧
      (Script.Primitives.blank.standard.call (parameterNames declaringClauses)
        (dispatcherBody ⟨{}, []⟩ "f" declaringClauses) [.number .zero] (fun _ => none) ⟨[], 0, ()⟩).1 =
        .abrupt (.threw (.error "No pattern matched for f")) :=
  ⟨⟨_, rfl⟩, ⟨_, _, _, _, rfl⟩, rfl⟩

end Lowering

end TreeScript
