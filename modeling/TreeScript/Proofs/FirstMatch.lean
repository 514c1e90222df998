/-
  TreeScript.Proofs.FirstMatch — a dispatcher selects the first clause that matches.

  `choose` says on the clauses themselves which one is selected: the first whose literal
  patterns equal the arguments at their positions and whose guard holds, the guard being
  asked in the scope of the clause's bindings and only if the literals match. `dispatched`
  is what the script does. The two agree on every call unless the selected clause has no
  guard and its body declares the very parameter that one of its bindings reads: the
  declaration hides the parameter in the whole block, bindings included. A script in which
  a body declares a name that its clause binds is refused before it runs, guarded clauses
  and nested blocks apart; `legal_dispatcher_iff` says exactly when. And a body that declares
  with `var` one of the global names that literals are spelled with hides it in all clauses;
  `frame_eq_none_iff` says exactly when those names are left alone.
-/

import TreeScript.Proofs.Clauses
import TreeScript.Proofs.Scopes

namespace TreeScript

open TreeScript.Script (Value)

/-! ## Which clause is selected -/

namespace Tree

/-- What a literal denotes. -/
def Literal.value : Literal → Value
  | .number value => .number value
  | .boolean value => .boolean value
  | .nil => .null
  | .string value => .string value
  | .symbol name => .symbol name

/-- Whether a value is taken for a literal: nil also stands for what is not there. -/
def Literal.equals (l : Literal) (v : Value) : Bool := if l = .nil then v.isNullish else v.strictlyEquals l.value

def Pattern.admits : Pattern → Value → Bool
  | .literal l, v => l.equals v
  | _, _ => true

/-- The argument at a position. -/
def argumentAt (args : List Value) (position : Nat) : Value := args.getD position .undefined

/-- Whether all patterns admit the arguments from `position` on. -/
def admits (args : List Value) (position : Nat) : List Pattern → Bool
  | [] => true
  | p :: ps => p.admits (argumentAt args position) && admits args (position + 1) ps

/-- The names that patterns bind, with their positions. -/
def boundPositions (position : Nat) : List Pattern → List (String × Nat)
  | [] => []
  | .binding name :: ps => (name, position) :: boundPositions (position + 1) ps
  | _ :: ps => boundPositions (position + 1) ps

/-- The names that a clause's patterns bind, with the values of their positions. -/
def Clause.boundValues (c : Clause) (value : Nat → Value) : List (String × Value) :=
  (boundPositions 0 c.patterns).map fun b => (b.1, value b.2)

theorem map_fst_boundPositions (position : Nat) (ps : List Pattern) :
    (boundPositions position ps).map Prod.fst = ps.filterMap Pattern.bound? := by
  induction ps generalizing position with
  | nil => rfl
  | cons p ps ih => cases p <;> simp [boundPositions, Pattern.bound?, List.filterMap_cons, ih]

theorem Clause.map_fst_boundValues (c : Clause) (value : Nat → Value) : (c.boundValues value).map Prod.fst = c.bound := by
  rw [boundValues, List.map_map, bound, ← map_fst_boundPositions 0]
  rfl

theorem Clause.mem_bound {c : Clause} {b : String × Nat} (h : b ∈ boundPositions 0 c.patterns) : b.1 ∈ c.bound := by
  rw [bound, ← map_fst_boundPositions 0]
  exact List.mem_map_of_mem h

theorem lt_of_mem_boundPositions {position : Nat} {ps : List Pattern} {b : String × Nat}
    (h : b ∈ boundPositions position ps) : b.2 < position + ps.length := by
  induction ps generalizing position with
  | nil => cases h
  | cons p ps ih =>
    have tail (h : b ∈ boundPositions (position + 1) ps) : b.2 < position + (p :: ps).length := by
      have := ih h
      rw [List.length_cons]
      omega
    cases p with
    | literal l => exact tail h
    | wildcard => exact tail h
    | binding name =>
      rcases List.mem_cons.1 h with rfl | h
      · simp
      · exact tail h

/-- The global name that spells a literal, if one does. -/
def Literal.global? (l : Literal) : Option String := (Lowering.literal l).constant?.bind Prod.snd

def Pattern.global? : Pattern → Option String
  | .literal l => l.global?
  | _ => none

end Tree

namespace Lowering

open TreeScript.Script (Engine Env Exit Machine Primitives)

variable {σ : Type}

/-- What a clause does with arguments before its body. -/
def clauseEntry (E : Engine σ) (s : Scope) (args : List Value) (env : Env) (c : Tree.Clause) (m : Machine σ) : Entry σ :=
  if Tree.admits args 0 c.patterns then
    let scope := Script.allocate (c.boundValues (Tree.argumentAt args)) env m
    ask E (c.guard.map (expr (s.binding c.bound))) scope.1 scope.2 fun m => .entered scope.1 m
  else .passed m

/-- The clause that is selected, in the scope of its bindings; or none, or an end before one is. -/
inductive Choice (σ : Type) where
  | unmatched (m : Machine σ)
  | stopped (how : Exit) (m : Machine σ)
  | chosen (c : Tree.Clause) (later : List Tree.Clause) (env : Env) (m : Machine σ)

/-- The first clause that takes the arguments. -/
def choose (E : Engine σ) (s : Scope) (args : List Value) (env : Env) : List Tree.Clause → Machine σ → Choice σ
  | [], m => .unmatched m
  | c :: cs, m =>
    match clauseEntry E s args env c m with
    | .passed m => choose E s args env cs m
    | .stopped how m => .stopped how m
    | .entered inner m => .chosen c cs inner m

/-- Entering the body of the clause that is selected. -/
def Choice.arrival (E : Engine σ) (s : Scope) : Choice σ → Arrival σ
  | .unmatched m => .unmatched m
  | .stopped how m => .stopped how m
  | .chosen c later env m =>
    let inner := E.enter (clauseBody s c) env m
    .entered (block s c) (later.map (block s)) inner.1 inner.2

/-! ## The tests -/

theorem constant?_literal (l : Tree.Literal) : (literal l).constant? = some (l.value, l.global?) := by
  cases l <;> rfl

theorem eval_literal (P : Primitives σ) {l : Tree.Literal} {env : Env}
    (h : ∀ name, l.global? = some name → env name = none) (m : Machine σ) :
    P.eval env (literal l) m = (.value l.value, m) := by
  have heval : P.eval env (literal l) m = P.constant env (literal l) m := by cases l <;> rfl
  rw [heval, Primitives.constant, constant?_literal]
  cases hl : l.global? with
  | none => rfl
  | some name => simp [h name hl]

/-- The parameters hold the arguments, which were made before. -/
structure Loaded (args : List Value) (arity : Nat) (env : Env) (m : Machine σ) : Prop where
  read : ∀ i < arity, ∃ cell, env (argument i) = some cell ∧ m.read cell = some (Tree.argumentAt args i)
  made : ∀ i identity, Tree.argumentAt args i = .other identity → identity < m.objects

theorem Loaded.keeps {args : List Value} {arity : Nat} {env : Env} {m m' : Machine σ} (h : Loaded args arity env m)
    (hm : m.Keeps m') : Loaded args arity env m' := by
  refine ⟨fun i hi => ?_, fun i identity hv => Nat.lt_of_lt_of_le (h.made i identity hv) hm.objects⟩
  obtain ⟨cell, hcell, hread⟩ := h.read i hi
  exact ⟨cell, hcell, hm.read cell _ hread⟩

section Run

variable {P : Primitives σ} {s : Scope} {args : List Value} {arity : Nat} {env : Env} {m : Machine σ}

theorem eval_argument (h : Loaded args arity env m) {i : Nat} (hi : i < arity) :
    P.eval env (.name (argument i)) m = (.value (Tree.argumentAt args i), m) := by
  obtain ⟨cell, hcell, hread⟩ := h.read i hi
  simp [Primitives.eval, Primitives.lookup, hcell, hread]

theorem eval_condition (h : Loaded args arity env m) {i : Nat} (hi : i < arity) {l : Tree.Literal}
    (hfree : ∀ name, l.global? = some name → env name = none) :
    P.eval env (.binary (if l = .nil then .looseEq else .strictEq) (.name (argument i)) (literal l)) m =
      (.value (.boolean (l.equals (Tree.argumentAt args i))), m) := by
  by_cases hl : l = .nil
  · subst hl
    simp only [if_true, literal, Primitives.eval_looseEq_null, eval_argument h hi, Script.evalThen, Tree.Literal.equals]
  · simp only [if_neg hl, Primitives.eval_strictEq, eval_argument h hi, eval_literal P hfree, Script.evalThen,
      Tree.Literal.equals]

/-- No declaration takes the names that spell the literals of patterns. -/
def Spelled (env : Env) (ps : List Tree.Pattern) : Prop := ∀ p ∈ ps, ∀ name, p.global? = some name → env name = none

/-- Conditions after one that is evaluated to a boolean. -/
theorem eval_conditions (h : Loaded args arity env m) {position : Nat} {ps : List Tree.Pattern}
    (hlen : position + ps.length ≤ arity) (hfree : Spelled env ps) {e : Script.Expr} {b : Bool}
    (he : P.eval env e m = (.value (.boolean b), m)) :
    P.eval env ((conditions position ps).foldl (.binary .and) e) m =
      (.value (.boolean (b && Tree.admits args position ps)), m) := by
  induction ps generalizing position e b with
  | nil => simpa [conditions, Tree.admits] using he
  | cons p ps ih =>
    rw [List.length_cons] at hlen
    have hps : Spelled env ps := fun q hq => hfree q (List.mem_cons_of_mem p hq)
    cases p with
    | literal l =>
      rw [conditions, List.foldl_cons, Tree.admits, ← Bool.and_assoc]
      refine ih (by omega) hps ?_
      rw [Primitives.eval_and, he]
      cases b with
      | false => rfl
      | true => exact eval_condition h (by omega) (hfree _ List.mem_cons_self)
    | wildcard => exact ih (by omega) hps he
    | binding name => exact ih (by omega) hps he

theorem ask_conditions (h : Loaded args arity env m) {position : Nat} {ps : List Tree.Pattern}
    (hlen : position + ps.length ≤ arity) (hfree : Spelled env ps) (next : Machine σ → Entry σ) :
    ask P.standard (conjunction (conditions position ps)) env m next =
      if Tree.admits args position ps then next m else .passed m := by
  induction ps generalizing position with
  | nil => rfl
  | cons p ps ih =>
    rw [List.length_cons] at hlen
    have hps : Spelled env ps := fun q hq => hfree q (List.mem_cons_of_mem p hq)
    cases p with
    | literal l =>
      have hfirst := eval_condition (P := P) h (i := position) (by omega) (hfree _ List.mem_cons_self)
      have heval := eval_conditions h (show position + 1 + ps.length ≤ arity by omega) hps hfirst
      simp only [conditions, conjunction, ask, Primitives.standard, heval, Tree.admits, Tree.Pattern.admits, Value.isTruthy]
      rfl
    | wildcard => exact ih (by omega) hps
    | binding name => exact ih (by omega) hps

/-! ## The bindings -/

/-- The declaration of a name for an argument. -/
def bindingStmt (b : String × Nat) : Script.Stmt := .declare .const b.1 (.name (argument b.2))

theorem bindings_eq_map (position : Nat) (ps : List Tree.Pattern) :
    bindings position ps = (Tree.boundPositions position ps).map bindingStmt := by
  induction ps generalizing position with
  | nil => rfl
  | cons p ps ih => cases p <;> simp [bindings, Tree.boundPositions, bindingStmt, ih]

theorem lexicals_bindings (position : Nat) (ps : List Tree.Pattern) :
    Script.lexicals (bindings position ps) = ps.filterMap Tree.Pattern.bound? := by
  rw [bindings_eq_map, ← Tree.map_fst_boundPositions position, Script.lexicals, List.filterMap_map]
  exact congrFun (List.filterMap_eq_map' (f := Prod.fst)) _

theorem exec_bindingStmt {b : String × Nat} {cell : Nat} (hcell : env (argument b.2) = some cell) :
    P.standard.exec env (bindingStmt b) m =
      match m.read cell with
      | some v => (.normal, m.assign env b.1 v)
      | none => (.abrupt (.threw (.uninitialised (argument b.2))), m) := by
  simp only [bindingStmt, Engine.exec, Primitives.standard, Primitives.eval, Primitives.lookup, hcell]
  cases m.read cell <;> rfl

/-- Each binding reads a parameter that is in no binding's cell. -/
def Apart (env : Env) (bs : List (String × Nat)) : Prop :=
  ∀ b ∈ bs, ∃ cell, env (argument b.2) = some cell ∧ ∀ b' ∈ bs, env b'.1 ≠ some cell

theorem Apart.tail {b : String × Nat} {bs : List (String × Nat)} (h : Apart env (b :: bs)) : Apart env bs := by
  intro b' hb'
  obtain ⟨cell, hcell, hne⟩ := h b' (List.mem_cons_of_mem b hb')
  exact ⟨cell, hcell, fun b'' hb'' => hne b'' (List.mem_cons_of_mem b hb'')⟩

theorem Apart.read_assign {b b' : String × Nat} {bs : List (String × Nat)} (h : Apart env bs) (hb : b ∈ bs)
    (hb' : b' ∈ bs) {cell : Nat} (hcell : env (argument b.2) = some cell) (v : Value) :
    (m.assign env b'.1 v).read cell = m.read cell := by
  obtain ⟨cell', hcell', hne⟩ := h b hb
  rw [hcell, Option.some.injEq] at hcell'
  subst hcell'
  exact Machine.read_assign_of_ne (hne b' hb') v

/-- Bindings whose parameters have values take them. -/
theorem execAll_bindings {bs : List (String × Nat)} (h : Apart env bs) {value : Nat → Value}
    (hread : ∀ b ∈ bs, ∀ cell, env (argument b.2) = some cell → m.read cell = some (value b.2)) :
    P.standard.execAll env (bs.map bindingStmt) m = (.normal, m.fill env (bs.map fun b => (b.1, value b.2))) := by
  induction bs generalizing m with
  | nil => rfl
  | cons b bs ih =>
    obtain ⟨cell, hcell, _⟩ := h b List.mem_cons_self
    rw [List.map_cons, Engine.execAll, exec_bindingStmt hcell, hread b List.mem_cons_self cell hcell]
    refine ih h.tail fun b' hb' cell' hcell' => ?_
    rw [h.read_assign (List.mem_cons_of_mem b hb') List.mem_cons_self hcell']
    exact hread b' (List.mem_cons_of_mem b hb') cell' hcell'

/-- Bindings one of whose parameters has no value yet end in an error. -/
theorem execAll_bindings_abrupt {bs : List (String × Nat)} (h : Apart env bs) {b : String × Nat} (hb : b ∈ bs)
    {cell : Nat} (hcell : env (argument b.2) = some cell) (hread : m.read cell = none) :
    ∃ how m', P.standard.execAll env (bs.map bindingStmt) m = (.abrupt how, m') := by
  induction bs generalizing m with
  | nil => cases hb
  | cons d ds ih =>
    obtain ⟨cell', hcell', _⟩ := h d List.mem_cons_self
    rw [List.map_cons, Engine.execAll, exec_bindingStmt hcell']
    cases hd : m.read cell' with
    | none => exact ⟨_, _, rfl⟩
    | some v =>
      rcases List.mem_cons.1 hb with rfl | hb
      · rw [hcell, Option.some.injEq] at hcell'
        rw [← hcell', hread] at hd
        cases hd
      · refine ih h.tail hb ?_
        rw [h.read_assign (List.mem_cons_of_mem d hb) List.mem_cons_self hcell, hread]

/-! ## The scope of a clause -/

theorem lexicals_clause (c : Tree.Clause) (rest : List Script.Stmt) :
    Script.lexicals (bindings 0 c.patterns ++ rest) = c.bound ++ Script.lexicals rest := by
  rw [Script.lexicals, List.filterMap_append]
  exact congrArg (· ++ _) (lexicals_bindings 0 c.patterns)

theorem enter_clause (E : Engine σ) (c : Tree.Clause) (rest : List Script.Stmt) (env : Env) (m : Machine σ) :
    E.enter (bindings 0 c.patterns ++ rest) env m =
      let scope := Script.reserve (c.bound ++ Script.lexicals rest) env m
      (scope.1, E.hoist scope.1 rest scope.2) := by
  have hhoist (env : Env) (m : Machine σ) : E.hoist env (bindings 0 c.patterns) m = m := by
    rw [bindings_eq_map]
    induction Tree.boundPositions 0 c.patterns with
    | nil => rfl
    | cons b bs ih => exact ih
  simp only [Engine.enter, lexicals_clause, Engine.hoist_append, hhoist]

variable {c : Tree.Clause} {rest : List Script.Stmt}

theorem apart_clause (h : Loaded args arity env m) (hlen : c.patterns.length ≤ arity)
    (hargs : ∀ x ∈ c.bound, ∀ i, x ≠ argument i) (hn : (c.bound ++ Script.lexicals rest).Nodup) :
    Apart (Script.reserve (c.bound ++ Script.lexicals rest) env m).1 (Tree.boundPositions 0 c.patterns) := by
  intro b hb
  have hbound : ∀ b' ∈ Tree.boundPositions 0 c.patterns, b'.1 ∈ c.bound := fun b' hb' => Tree.Clause.mem_bound hb'
  by_cases hmem : argument b.2 ∈ c.bound ++ Script.lexicals rest
  · -- the parameter is hidden by a declaration of the body, whose cell is not a binding's
    obtain ⟨cell, hcell, _⟩ := Script.reserve_place hn hmem env m
    refine ⟨cell, hcell, fun b' hb' heq => hargs b'.1 (hbound b' hb') b.2 ?_⟩
    exact Script.reserve_injective hn (List.mem_append_left _ (hbound b' hb')) hmem (heq.trans hcell.symm)
  · obtain ⟨cell, hcell, hread⟩ := h.read b.2 (by have := Tree.lt_of_mem_boundPositions hb; omega)
    refine ⟨cell, (Script.reserve_fst_of_notMem hmem env m).trans hcell, fun b' hb' heq => ?_⟩
    have hle := Script.le_of_reserve (List.mem_append_left _ (hbound b' hb')) heq
    have hlt := Machine.lt_of_read hread
    omega

/-- Entering the rest of a clause's block around its bindings, and in it. -/
theorem enter_rest (E : Engine σ) (hn : (c.bound ++ Script.lexicals rest).Nodup) (value : Nat → Value) (env : Env)
    (m : Machine σ) :
    E.enter rest (Script.allocate (c.boundValues value) env m).1 (Script.allocate (c.boundValues value) env m).2 =
      let scope := E.enter (bindings 0 c.patterns ++ rest) env m
      (scope.1, scope.2.fill scope.1 (c.boundValues value)) := by
  have hbody : ∀ v ∈ c.boundValues value, v.1 ∉ Script.lexicals rest := by
    intro v hv hmem
    have hv : v.1 ∈ c.bound := c.map_fst_boundValues value ▸ List.mem_map_of_mem hv
    exact (List.nodup_append.1 hn).2.2 v.1 hv v.1 hmem rfl
  have hbound : ((c.boundValues value).map Prod.fst).Nodup := by
    rw [c.map_fst_boundValues]
    exact (List.nodup_append.1 hn).1
  rw [E.enter_allocate hbound hbody, c.map_fst_boundValues, enter_clause]

/-- Where no declaration hides a parameter that a binding reads, the bindings hold the arguments. -/
theorem execAll_clause_bindings (h : Loaded args arity env m) (hlen : c.patterns.length ≤ arity)
    (hargs : ∀ x ∈ c.bound, ∀ i, x ≠ argument i) (hn : (c.bound ++ Script.lexicals rest).Nodup)
    (hseen : ∀ b ∈ Tree.boundPositions 0 c.patterns, argument b.2 ∉ Script.lexicals rest) :
    let scope := P.standard.enter (bindings 0 c.patterns ++ rest) env m
    P.standard.execAll scope.1 (bindings 0 c.patterns) scope.2 =
      (.normal, scope.2.fill scope.1 (c.boundValues (Tree.argumentAt args))) := by
  rw [enter_clause, bindings_eq_map]
  refine execAll_bindings (apart_clause h hlen hargs hn) fun b hb cell hcell => ?_
  have hpos : b.2 < arity := by
    have := Tree.lt_of_mem_boundPositions hb
    omega
  have hmem : argument b.2 ∉ c.bound ++ Script.lexicals rest := by
    rw [List.mem_append]
    intro hx
    rcases hx with hx | hx
    · exact hargs _ hx b.2 rfl
    · exact hseen b hb hx
  obtain ⟨cell', hcell', hread⟩ := h.read b.2 hpos
  rw [Script.reserve_fst_of_notMem hmem, hcell', Option.some.injEq] at hcell
  subst hcell
  have hnew : ∀ name ∈ Script.lexicals rest,
      (Script.reserve (c.bound ++ Script.lexicals rest) env m).1 name ≠ some cell' := by
    intro name hname heq
    have hle := Script.le_of_reserve (List.mem_append_right _ hname) heq
    have hlt := Machine.lt_of_read hread
    omega
  rw [Engine.read_hoist_of_ne _ hnew, Script.read_reserve, hread]

/-- Where a declaration hides a parameter that a binding reads, the bindings do not come to hold the arguments. -/
theorem execAll_clause_bindings_ne (h : Loaded args arity env m) (hlen : c.patterns.length ≤ arity)
    (hargs : ∀ x ∈ c.bound, ∀ i, x ≠ argument i) (hn : (c.bound ++ Script.lexicals rest).Nodup) {b : String × Nat}
    (hb : b ∈ Tree.boundPositions 0 c.patterns) (hhidden : argument b.2 ∈ Script.lexicals rest) :
    let scope := P.standard.enter (bindings 0 c.patterns ++ rest) env m
    P.standard.execAll scope.1 (bindings 0 c.patterns) scope.2 ≠
      (.normal, scope.2.fill scope.1 (c.boundValues (Tree.argumentAt args))) := by
  simp only [enter_clause]
  rw [bindings_eq_map]
  have hapart := apart_clause h hlen hargs hn
  generalize hscope : Script.reserve (c.bound ++ Script.lexicals rest) env m = scope at hapart
  generalize hmade : P.standard.hoist scope.1 rest scope.2 = made
  intro hrun
  by_cases hreads : ∀ b ∈ Tree.boundPositions 0 c.patterns, ∀ cell, scope.1 (argument b.2) = some cell →
      made.read cell ≠ none
  · -- the binding takes the value of the declaration that hides the parameter: a function made just now
    let value (i : Nat) : Value := ((scope.1 (argument i)).bind made.read).getD .undefined
    have hvalue : ∀ b ∈ Tree.boundPositions 0 c.patterns, ∀ cell, scope.1 (argument b.2) = some cell →
        made.read cell = some (value b.2) := by
      intro b hb cell hcell
      obtain ⟨v, hv⟩ := Option.ne_none_iff_exists'.1 (hreads b hb cell hcell)
      simp [value, hcell, hv]
    rw [execAll_bindings hapart hvalue, Prod.mk.injEq] at hrun
    obtain ⟨place, hplace, hlt⟩ := Script.reserve_place hn (List.mem_append_left _ (Tree.Clause.mem_bound hb)) env m
    have hpairwise (value : Nat → Value) :
        (c.boundValues value).Pairwise fun v w => scope.1 v.1 ≠ scope.1 w.1 := by
      rw [← hscope]
      refine Script.pairwise_reserve hn ?_ env m
      rw [c.map_fst_boundValues]
      exact List.sublist_append_left ..
    rw [hscope] at hplace hlt
    rw [← P.standard.length_hoist scope.1 rest, hmade] at hlt
    have hleft := Machine.read_fill (hpairwise value) (List.mem_map_of_mem hb) hplace hlt
    have hright := Machine.read_fill (hpairwise (Tree.argumentAt args)) (List.mem_map_of_mem hb) hplace hlt
    have heq : value b.2 = Tree.argumentAt args b.2 :=
      Option.some.inj (hleft.symm.trans ((congrArg (Machine.read · place) hrun.2).trans hright))
    obtain ⟨cell, hcell, _⟩ := hapart b hb
    have hread := hvalue b hb cell hcell
    rw [← hmade] at hread
    have hnew : m.cells.length ≤ cell := Script.le_of_reserve (List.mem_append_right _ hhidden) (hscope ▸ hcell)
    rcases P.standard.read_hoist hread with hold | ⟨identity, hle, hother⟩
    · rw [← hscope, Script.read_reserve] at hold
      exact absurd hnew (Nat.not_le_of_lt (Machine.lt_of_read hold))
    · have hlt := h.made b.2 identity (heq ▸ hother)
      rw [← hscope, Script.reserve_snd] at hle
      exact absurd hle (Nat.not_le_of_lt hlt)
  · simp only [not_forall, not_not] at hreads
    obtain ⟨b', hb', cell, hcell, hread⟩ := hreads
    obtain ⟨how, m', habrupt⟩ := execAll_bindings_abrupt hapart hb' hcell hread
    rw [habrupt] at hrun
    cases hrun

/-! ## One clause -/

/-- Whether a clause's bindings and its body do not declare a name twice. -/
def Separate (s : Scope) (c : Tree.Clause) : Prop :=
  (Script.Stmt.block (clauseBody s c)).legal = true ∧
    ∀ x ∈ c.bound, x ∉ Script.vars (clauseBody s c) ∧ (c.guard = none → x ∉ Script.lexicals (clauseBody s c))

/-- Whether a clause's bindings see the parameters: without a guard, its body is in their block. -/
def Unhidden (s : Scope) (c : Tree.Clause) : Prop :=
  c.guard = none → ∀ b ∈ Tree.boundPositions 0 c.patterns, argument b.2 ∉ Script.lexicals (clauseBody s c)

/-- Goes on into the block of a body. -/
def Entry.intoBody (E : Engine σ) (body : List Script.Stmt) : Entry σ → Entry σ
  | .entered env m => .entered (E.enter body env m).1 (E.enter body env m).2
  | e => e

theorem intoBody_ask (E : Engine σ) (body : List Script.Stmt) (test : Option Script.Expr) (env : Env) (m : Machine σ)
    (next : Machine σ → Entry σ) :
    (ask E test env m next).intoBody E body = ask E test env m fun m => (next m).intoBody E body := by
  cases test with
  | none => rfl
  | some test =>
    simp only [ask]
    rcases E.eval env test m with ⟨v | fault, m'⟩
    · by_cases hv : v.isTruthy = true
      · simp [hv]
      · simp [hv, Entry.intoBody]
    · rfl

theorem lexicals_nodup {body : List Script.Stmt} (h : (Script.Stmt.block body).legal = true) :
    (Script.lexicals body).Nodup := by
  simp only [Script.Stmt.legal, Script.declaredOnce, Bool.and_eq_true, decide_eq_true_eq] at h
  exact h.1.1

/-- Up to its body, a clause does what its patterns and its guard say, unless a declaration of the body
hides a parameter from the bindings. -/
theorem arrive_eq_iff (h : Loaded args arity env m) (hlen : c.patterns.length ≤ arity)
    (hargs : ∀ x ∈ c.bound, ∀ i, x ≠ argument i) (hn : c.bound.Nodup) (hfree : Spelled env c.patterns)
    (hsep : Separate s c) :
    (block s c).arrive P.standard env m = (clauseEntry P.standard s args env c m).intoBody P.standard (clauseBody s c) ↔
      (Tree.admits args 0 c.patterns = true → Unhidden s c) := by
  rw [Block.arrive, block, ask_conditions h (by omega) hfree, clauseEntry]
  by_cases hadmits : Tree.admits args 0 c.patterns = true
  · simp only [hadmits, if_true, forall_const, intoBody_ask, Block.bind]
    cases hguard : c.guard with
    | some guard =>
      let rest : List Script.Stmt := afterGuard (some (expr (s.binding c.bound) guard)) (clauseBody s c)
      have hrest : Script.lexicals rest = [] := rfl
      have hnodup : (c.bound ++ Script.lexicals rest).Nodup := by rwa [hrest, List.append_nil]
      have hrun := execAll_clause_bindings (P := P) h hlen hargs hnodup (by simp [hrest])
      have hscope := enter_rest P.standard hnodup (Tree.argumentAt args) env m
      rw [Engine.enter_eq_self _ hrest] at hscope
      simp only [Prod.mk.injEq] at hscope
      simp only [Option.map_some]
      rw [hrun, ← hscope.2, ← hscope.1]
      exact iff_of_true rfl fun hnone => by simp [hguard] at hnone
    | none =>
      have hnodup : (c.bound ++ Script.lexicals (clauseBody s c)).Nodup := by
        refine List.nodup_append.2 ⟨hn, lexicals_nodup hsep.1, fun x hx y hy heq => ?_⟩
        exact (hsep.2 x hx).2 hguard (heq ▸ hy)
      have hscope := enter_rest P.standard hnodup (Tree.argumentAt args) env m
      simp only [Option.map_none, afterGuard, ask, Entry.intoBody, hscope]
      constructor
      · intro heq _ b hb hhidden
        refine execAll_clause_bindings_ne (P := P) h hlen hargs hnodup hb hhidden ?_
        generalize P.standard.enter (bindings 0 c.patterns ++ clauseBody s c) env m = scope at heq ⊢
        rcases hrun : P.standard.execAll scope.1 (bindings 0 c.patterns) scope.2 with ⟨_ | how, m'⟩
        · rw [hrun] at heq
          cases heq
          rfl
        · rw [hrun] at heq
          cases heq
      · intro hseen
        have hrun := execAll_clause_bindings (P := P) h hlen hargs hnodup (hseen hguard)
        rw [hrun]
        rfl
  · simp [hadmits, Entry.intoBody]

/-! ## All clauses -/

theorem keeps_ask (E : Engine σ) {test : Option Script.Expr} {m' : Machine σ}
    (h : ask E test env m (fun m => .entered env m) = .passed m') : m.Keeps m' := by
  cases test with
  | none => cases h
  | some test =>
    have hkeeps := E.keeps env test m
    simp only [ask] at h
    generalize E.eval env test m = r at h hkeeps
    obtain ⟨v | fault, m₁⟩ := r
    · by_cases hv : v.isTruthy = true
      · simp [hv] at h
      · simp only [hv, Bool.false_eq_true, if_false, Entry.passed.injEq] at h
        exact h ▸ hkeeps
    · cases h

theorem keeps_clauseEntry (E : Engine σ) {m' : Machine σ} (h : clauseEntry E s args env c m = .passed m') : m.Keeps m' := by
  unfold clauseEntry at h
  split at h
  · exact (Script.keeps_allocate ..).trans (keeps_ask E h)
  · cases h
    exact .refl m

/-- A clause without a guard whose patterns admit the arguments is entered. -/
theorem unhidden_of_not_entered (E : Engine σ) (h : ∀ inner m', clauseEntry E s args env c m ≠ .entered inner m')
    (hadmits : Tree.admits args 0 c.patterns = true) : Unhidden s c := by
  intro hguard
  have hentered : ∃ inner m', clauseEntry E s args env c m = .entered inner m' := by
    simp [clauseEntry, hadmits, hguard, ask]
  obtain ⟨inner, m', hentered⟩ := hentered
  exact absurd hentered (h inner m')

theorem length_later (E : Engine σ) {bs later : List Block} {b : Block} {inner : Env} {m' : Machine σ}
    (h : arrival E env bs m = .entered b later inner m') : later.length < bs.length := by
  induction bs generalizing m with
  | nil => cases h
  | cons d ds ih =>
    simp only [arrival] at h
    split at h
    · exact Nat.lt_succ_of_lt (ih h)
    · cases h
    · cases h
      exact Nat.lt_succ_self _

theorem mem_of_chosen (E : Engine σ) {cs later : List Tree.Clause} {inner : Env} {m' : Machine σ}
    (h : choose E s args env cs m = .chosen c later inner m') : c ∈ cs := by
  induction cs generalizing m with
  | nil => cases h
  | cons d ds ih =>
    simp only [choose] at h
    split at h
    · exact List.mem_cons_of_mem d (ih h)
    · cases h
    · cases h
      exact List.mem_cons_self

/-- What the script of a clause needs of the clause and of the scope it runs in. -/
structure Fit (s : Scope) (arity : Nat) (env : Env) (c : Tree.Clause) : Prop where
  length : c.patterns.length ≤ arity
  args : ∀ x ∈ c.bound, ∀ i, x ≠ argument i
  nodup : c.bound.Nodup
  spelled : Spelled env c.patterns
  separate : Separate s c

/-- The script enters the first clause that matches, exactly if no declaration of that clause's body hides a
parameter from its bindings. -/
theorem arrival_eq_iff {cs : List Tree.Clause} (hfit : ∀ c ∈ cs, Fit s arity env c) (h : Loaded args arity env m) :
    arrival P.standard env (cs.map (block s)) m = (choose P.standard s args env cs m).arrival P.standard s ↔
      ∀ c later inner m', choose P.standard s args env cs m = .chosen c later inner m' → Unhidden s c := by
  induction cs generalizing m with
  | nil => exact iff_of_true rfl fun c later inner m' hc => by cases hc
  | cons c cs ih =>
    obtain ⟨hc, hcs⟩ := List.forall_mem_cons.1 hfit
    have harrive := arrive_eq_iff (P := P) h hc.length hc.args hc.nodup hc.spelled hc.separate
    rw [List.map_cons, arrival, choose]
    rcases hentry : clauseEntry P.standard s args env c m with m' | ⟨how, m'⟩ | ⟨inner, m'⟩
    · have hseen := unhidden_of_not_entered P.standard fun inner m₁ heq => by cases hentry.symm.trans heq
      rw [harrive.2 hseen, hentry]
      exact ih hcs (h.keeps (keeps_clauseEntry P.standard hentry))
    · have hseen := unhidden_of_not_entered P.standard fun inner m₁ heq => by cases hentry.symm.trans heq
      rw [harrive.2 hseen, hentry]
      exact iff_of_true rfl fun c later inner m₁ hc => by cases hc
    · have hadmits : Tree.admits args 0 c.patterns = true := by
        by_contra hno
        simp [clauseEntry, hno] at hentry
      rw [hentry] at harrive
      constructor
      · intro heq _ _ _ _ hchosen
        cases hchosen
        refine harrive.1 ?_ hadmits
        rcases hrun : (block s c).arrive P.standard env m with m₁ | ⟨how, m₁⟩ | ⟨inner₁, m₁⟩
        · -- a later clause was entered instead, with fewer clauses after it
          rw [hrun] at heq
          have hlen := length_later P.standard heq
          simp at hlen
        · rw [hrun] at heq
          cases heq
        · rw [hrun] at heq
          simp only [Choice.arrival, Arrival.entered.injEq, true_and] at heq
          simp [Entry.intoBody, heq]
      · intro hseen
        rw [harrive.2 fun _ => hseen c cs inner m' rfl]
        rfl

end Run

/-! ## The parameters -/

theorem argument_injective {i j : Nat} (h : argument i = argument j) : i = j := by
  have hdigits : Nat.toDigits 10 i = Nat.toDigits 10 j := by
    have hlist := congrArg String.toList h
    simpa only [argument, String.toList_append, List.append_cancel_left_eq, Nat.toString_eq_repr,
      Nat.toList_repr] using hlist
  rw [← Nat.ofDigitChars_ten_toDigits (n := i), hdigits, Nat.ofDigitChars_ten_toDigits]

theorem ne_argument {x : String} (h : x.toList.head? ≠ some '_') (i : Nat) : x ≠ argument i := by
  intro heq
  subst heq
  exact h (by simp [argument])

theorem nodup_parameterNames (cs : List Tree.Clause) : (parameterNames cs).Nodup :=
  List.nodup_range.map fun _ _ => argument_injective

theorem map_fst_parameters (params : List String) (args : List Value) :
    (Script.parameters params args).map Prod.fst = params := by
  induction params generalizing args with
  | nil => rfl
  | cons param params ih => rw [Script.parameters, List.map_cons, ih]

theorem mem_parameters {params : List String} {args : List Value} {i : Nat} {param : String}
    (h : params[i]? = some param) : (param, Tree.argumentAt args i) ∈ Script.parameters params args := by
  induction params generalizing args i with
  | nil => cases h
  | cons first params ih =>
    rw [Script.parameters]
    cases i with
    | zero =>
      obtain rfl : first = param := by simpa using h
      cases args <;> exact List.mem_cons_self
    | succ i =>
      have hnext : Tree.argumentAt args (i + 1) = Tree.argumentAt args.tail i := by
        cases args <;> rfl
      rw [hnext]
      exact List.mem_cons_of_mem _ (ih (by simpa using h))

/-- A call puts the arguments into the parameters. -/
theorem read_frame (cs : List Tree.Clause) (body : List Script.Stmt) (args : List Value) (env : Env) (m : Machine σ)
    {i : Nat} (hi : i < Tree.arity cs) :
    ∃ cell, (Script.frame (parameterNames cs) body args env m).1 (argument i) = some cell ∧
      (Script.frame (parameterNames cs) body args env m).2.read cell = some (Tree.argumentAt args i) := by
  simp only [Script.frame]
  have hnodup : ((Script.parameters (parameterNames cs) args).map Prod.fst).Nodup := by
    rw [map_fst_parameters]
    exact nodup_parameterNames cs
  have hparam : (parameterNames cs)[i]? = some (argument i) := by simp [parameterNames, hi]
  obtain ⟨cell, hcell, hread⟩ := Script.read_allocate hnodup (mem_parameters hparam) env m
  refine ⟨cell, ?_, (Script.keeps_allocate ..).read cell _ hread⟩
  rw [Script.allocate_fst_of_notMem, hcell]
  simp [List.mem_of_getElem? hparam]

theorem loaded_frame (cs : List Tree.Clause) (body : List Script.Stmt) {args : List Value} (env : Env) {m : Machine σ}
    (hargs : ∀ identity, Value.other identity ∈ args → identity < m.objects) :
    Loaded args (Tree.arity cs) (Script.frame (parameterNames cs) body args env m).1
      (Script.frame (parameterNames cs) body args env m).2 := by
  refine ⟨fun i hi => read_frame cs body args env m hi, fun i identity hi => ?_⟩
  have hkeeps := Script.keeps_allocate (Script.parameters (parameterNames cs) args) env m
  have hmem : Value.other identity ∈ args := by
    rw [Tree.argumentAt, List.getD_eq_getElem?_getD] at hi
    cases hget : args[i]? with
    | none => simp [hget] at hi
    | some v =>
      rw [hget, Option.getD_some] at hi
      exact hi ▸ List.mem_of_getElem? hget
  exact Nat.lt_of_lt_of_le (hargs identity hmem) (hkeeps.trans (Script.keeps_allocate ..)).objects

theorem le_arity {c : Tree.Clause} {cs : List Tree.Clause} (h : c ∈ cs) : c.patterns.length ≤ Tree.arity cs := by
  have hfold (ns : List Nat) (k : Nat) : k ≤ ns.foldl max k ∧ ∀ n ∈ ns, n ≤ ns.foldl max k := by
    induction ns generalizing k with
    | nil => exact ⟨Nat.le_refl k, fun _ h => absurd h List.not_mem_nil⟩
    | cons n ns ih =>
      obtain ⟨hk, hns⟩ := ih (max k n)
      refine ⟨Nat.le_trans (Nat.le_max_left k n) hk, List.forall_mem_cons.2 ⟨?_, hns⟩⟩
      exact Nat.le_trans (Nat.le_max_right k n) hk
  exact (hfold _ 0).2 _ (List.mem_map_of_mem h)

/-- Whether the tests and bindings of a clause read nothing but these parameters. -/
def ReadsOnly (params : List String) (b : Block) : Prop :=
  (∀ e ∈ b.tests, ∃ op param l, param ∈ params ∧ e = .binary op (.name param) (literal l)) ∧
    ∀ t ∈ b.bindings, ∃ x param, param ∈ params ∧ t = .declare .const x (.name param)

theorem mem_conditions {position : Nat} {ps : List Tree.Pattern} {e : Script.Expr} (h : e ∈ conditions position ps) :
    ∃ op i l, i < position + ps.length ∧ e = .binary op (.name (argument i)) (literal l) := by
  induction ps generalizing position with
  | nil => cases h
  | cons p ps ih =>
    have tail (h : e ∈ conditions (position + 1) ps) :
        ∃ op i l, i < position + (p :: ps).length ∧ e = .binary op (.name (argument i)) (literal l) := by
      obtain ⟨op, i, l, hi, he⟩ := ih h
      exact ⟨op, i, l, by rw [List.length_cons]; omega, he⟩
    cases p with
    | literal l =>
      rcases List.mem_cons.1 h with rfl | h
      · exact ⟨_, position, l, by simp, rfl⟩
      · exact tail h
    | wildcard => exact tail h
    | binding name => exact tail h

theorem readsOnly_block (s : Scope) {c : Tree.Clause} {cs : List Tree.Clause} (h : c ∈ cs) :
    ReadsOnly (parameterNames cs) (block s c) := by
  have hlen := le_arity h
  have hparam (i : Nat) (hi : i < c.patterns.length) : argument i ∈ parameterNames cs :=
    List.mem_map_of_mem (List.mem_range.2 (by omega))
  refine ⟨fun e he => ?_, fun t ht => ?_⟩
  · obtain ⟨op, i, l, hi, rfl⟩ := mem_conditions he
    exact ⟨op, argument i, l, hparam i (by omega), rfl⟩
  · have ht : t ∈ (Tree.boundPositions 0 c.patterns).map bindingStmt := bindings_eq_map 0 c.patterns ▸ ht
    obtain ⟨b, hb, rfl⟩ := List.mem_map.1 ht
    have hlt := Tree.lt_of_mem_boundPositions hb
    exact ⟨b.1, argument b.2, hparam b.2 (by omega), rfl⟩

/-! ## Dispatchers that are accepted -/

theorem legalAll_iff (ts : List Script.Stmt) : Script.legalAll ts = true ↔ ∀ t ∈ ts, t.legal = true := by
  induction ts with
  | nil => simp [Script.legalAll]
  | cons t ts ih => simp [Script.legalAll, ih]

theorem vars_append (ts us : List Script.Stmt) :
    Script.vars (ts ++ us) = Script.vars ts ++ Script.vars us := by
  induction ts with
  | nil => rfl
  | cons t ts ih => simp only [List.cons_append, Script.vars, ih, List.append_assoc]

theorem vars_clause (c : Tree.Clause) (rest : List Script.Stmt) :
    Script.vars (bindings 0 c.patterns ++ rest) = Script.vars rest := by
  rw [vars_append, bindings_eq_map]
  induction Tree.boundPositions 0 c.patterns with
  | nil => rfl
  | cons b bs ih => exact ih

theorem vars_stmt (s : Scope) (c : Tree.Clause) : (block s c).stmt.vars = Script.vars (clauseBody s c) := by
  have hinner : Script.vars ((block s c).bindings ++ afterGuard (block s c).guard (block s c).body) =
      Script.vars (clauseBody s c) := by
    refine (vars_clause c _).trans ?_
    cases (block s c).guard with
    | none => rfl
    | some test => exact List.append_nil _
  rw [← hinner, Block.stmt, guarded]
  cases conjunction (block s c).tests <;> rfl

theorem mem_vars_dispatcherBody {s : Scope} {name x : String} {cs : List Tree.Clause} :
    x ∈ Script.vars (dispatcherBody s name cs) ↔ ∃ c ∈ cs, x ∈ Script.vars (clauseBody s c) := by
  induction cs with
  | nil => simp [dispatcherBody, Script.vars, Script.Stmt.vars]
  | cons c cs ih =>
    have hcons : Script.vars (dispatcherBody s name (c :: cs)) =
        (block s c).stmt.vars ++ Script.vars (dispatcherBody s name cs) := rfl
    rw [hcons, vars_stmt, List.mem_append, ih]
    simp

/-- A name that is no parameter is left alone in a call of a dispatcher just when nothing around the dispatcher declares
it, and no clause's body does with `var`. -/
theorem frame_eq_none_iff (s : Scope) (name : String) (cs : List Tree.Clause) (args : List Value) (env : Env)
    (m : Machine σ) {x : String} (hx : ∀ i, x ≠ argument i) :
    (Script.frame (parameterNames cs) (dispatcherBody s name cs) args env m).1 x = none ↔
      env x = none ∧ ∀ c ∈ cs, x ∉ Script.vars (clauseBody s c) := by
  have hparam : x ∉ parameterNames cs := by
    intro hmem
    obtain ⟨i, -, hi⟩ := List.mem_map.1 hmem
    exact hx i hi.symm
  simp only [Script.frame, Script.allocate, Script.reserve_fst_eq_none, map_fst_parameters]
  simp only [List.map_map, Function.comp_def, List.map_id', List.mem_filter, mem_vars_dispatcherBody, hparam,
    not_false_eq_true, decide_true, and_true, true_and, not_exists, not_and]
  exact and_comm

theorem legal_binding {c : Tree.Clause} {t : Script.Stmt} (h : t ∈ bindings 0 c.patterns) : t.legal = true := by
  rw [bindings_eq_map] at h
  obtain ⟨b, _, rfl⟩ := List.mem_map.1 h
  rfl

theorem legal_block_iff (body : List Script.Stmt) :
    (Script.Stmt.block body).legal = true ↔
      (Script.lexicals body).Nodup ∧ (∀ x ∈ Script.lexicals body, x ∉ Script.vars body) ∧
        ∀ t ∈ body, t.legal = true := by
  simp only [Script.Stmt.legal, Script.declaredOnce, Bool.and_eq_true, decide_eq_true_eq, legalAll_iff, and_assoc]

/-- The statement of a clause is accepted exactly if its bindings and its body do not declare a name twice. -/
theorem legal_stmt_iff (s : Scope) {c : Tree.Clause} (hn : c.bound.Nodup) : (block s c).stmt.legal = true ↔ Separate s c := by
  have hguarded : (block s c).stmt.legal =
      (Script.Stmt.block ((block s c).bindings ++ afterGuard (block s c).guard (block s c).body)).legal := by
    simp only [Block.stmt, guarded]
    cases conjunction (block s c).tests <;> rfl
  rw [hguarded, legal_block_iff]
  simp only [block, lexicals_clause, vars_clause, Separate]
  have hlegal (rest : List Script.Stmt) :
      (∀ t ∈ bindings 0 c.patterns ++ rest, t.legal = true) ↔ ∀ t ∈ rest, t.legal = true :=
    ⟨fun h t ht => h t (List.mem_append_right _ ht), fun h t ht => (List.mem_append.1 ht).elim legal_binding (h t)⟩
  rw [hlegal]
  cases hguard : c.guard with
  | none =>
    simp only [Option.map_none, afterGuard, legal_block_iff, List.nodup_append, List.mem_append]
    constructor
    · intro hlegal
      obtain ⟨⟨_, hbody, hapart⟩, hvars, hall⟩ := hlegal
      refine ⟨⟨hbody, fun x hx => hvars x (.inr hx), hall⟩, fun x hx => ⟨hvars x (.inl hx), fun _ hx' => ?_⟩⟩
      exact hapart x hx x hx' rfl
    · intro hsep
      obtain ⟨⟨hbody, hvars, hall⟩, hapart⟩ := hsep
      refine ⟨⟨hn, hbody, fun x hx y hy heq => (hapart x hx).2 trivial (heq ▸ hy)⟩, fun x hx => ?_, hall⟩
      exact hx.elim (fun hx => (hapart x hx).1) (hvars x)
  | some guard =>
    let rest : List Script.Stmt := afterGuard (some (expr (s.binding c.bound) guard)) (clauseBody s c)
    have hnames : c.bound ++ Script.lexicals rest = c.bound := List.append_nil _
    have hvars : Script.vars rest = Script.vars (clauseBody s c) := List.append_nil _
    have hbody : (∀ t ∈ rest, t.legal = true) ↔ (Script.Stmt.block (clauseBody s c)).legal = true :=
      List.forall_mem_singleton
    simp only [Option.map_some]
    rw [hnames, hvars, hbody]
    constructor
    · intro hblock
      obtain ⟨_, hvars, hlegal⟩ := hblock
      exact ⟨hlegal, fun x hx => ⟨hvars x hx, fun hnone => by cases hnone⟩⟩
    · intro hsep
      obtain ⟨hlegal, hapart⟩ := hsep
      exact ⟨hn, fun x hx => (hapart x hx).1, hlegal⟩

/-- A dispatcher is accepted exactly if no clause of it declares a name twice. -/
theorem legal_dispatcher_iff (s : Scope) (name : String) {cs : List Tree.Clause} (hn : ∀ c ∈ cs, c.bound.Nodup) :
    (Script.Stmt.function name (parameterNames cs) (dispatcherBody s name cs)).legal = true ↔
      ∀ c ∈ cs, Separate s c := by
  have hlets : (dispatcherBody s name cs).filterMap Script.Stmt.let? = [] := by
    rw [List.filterMap_eq_nil_iff]
    intro t ht
    have hlexical := List.filterMap_eq_nil_iff.1 (lexicals_dispatcherBody s name cs) t ht
    exact (Option.or_eq_none_iff.1 hlexical).1
  have hdeclared (others : List String) : Script.declaredOnce [] others = true := by simp [Script.declaredOnce]
  rw [Script.Stmt.legal, hlets, hdeclared, Bool.true_and, legalAll_iff]
  simp only [dispatcherBody, List.mem_append, List.mem_map, List.mem_singleton]
  constructor
  · intro h c hc
    exact (legal_stmt_iff s (hn c hc)).1 (h _ (.inl ⟨_, ⟨c, hc, rfl⟩, rfl⟩))
  · intro h t ht
    rcases ht with ⟨_, ⟨c, hc, rfl⟩, rfl⟩ | rfl
    · exact (legal_stmt_iff s (hn c hc)).2 (h c hc)
    · rfl

-- a body that declares the name which the literal of its own clause is spelled with
example : (Script.frame ["_arg0"] (dispatcherBody ⟨{}, []⟩ "f"
    [⟨"f", [.literal (.symbol "a")], none, [.block [.declare .var "Symbol" .undefined]]⟩]) [] (fun _ => none)
    (⟨[], 0, ()⟩ : Machine Unit)).1 "Symbol" ≠ none := by decide

-- a binding that the body declares again, without and with a guard between the two
example : (stmt ⟨{}, []⟩ (.dispatch "f" [⟨"f", [.binding "x"], none, [.declare .let_ "x" .undefined]⟩])).toOption.map
    Script.Stmt.legal = some false := by decide

example : (stmt ⟨{}, []⟩ (.dispatch "f" [⟨"f", [.binding "x"], some (.identifier "x"),
    [.declare .let_ "x" .undefined]⟩])).toOption.map Script.Stmt.legal = some true := by decide

/-! ## First match -/

/-- A dispatcher is a function of as many parameters as its clauses name, and reads no other. It is accepted
exactly if the bindings and the body of no clause declare a name twice. In every call of an accepted
dispatcher, with the global names that its script uses left alone, the body that is entered first is that
of the first clause whose literals equal the arguments and whose guard holds, in the scope of its
bindings, exactly if this clause has a guard or its body declares none of the parameters that its bindings
read; and where no clause matches, the error that names the dispatcher is thrown.

The global names are `NaN`, `Infinity` and `Symbol`, which literals are spelled with, and `Error`. They are not left
alone if something around the dispatcher declares them, or if a clause's body does so with `var`, at any depth
outside functions (`frame_eq_none_iff`): that is another way to fail, and what the literals are then is open. -/
theorem first_match_iff {s : Scope} {name : String} {cs : List Tree.Clause} {f : Script.Stmt}
    (hf : stmt s (.dispatch name cs) = .ok f)
    (hbound : ∀ c ∈ cs, c.bound.Nodup ∧ ∀ x ∈ c.bound, ∀ i, x ≠ argument i) :
    f = .function name (parameterNames cs) (dispatcherBody s name cs) ∧
      (∀ c ∈ cs, ReadsOnly (parameterNames cs) (block s c)) ∧
      (f.legal = true ↔ ∀ c ∈ cs, Separate s c) ∧
      (f.legal = true → ∀ (σ : Type) (P : Primitives σ) (args : List Value) (env : Env) (m : Machine σ),
        (∀ identity, Value.other identity ∈ args → identity < m.objects) →
        let scope := Script.frame (parameterNames cs) (dispatcherBody s name cs) args env m
        (∀ c ∈ cs, Spelled scope.1 c.patterns) →
        let choice := choose P.standard s args scope.1 cs scope.2
        (dispatched P.standard s name cs args env m = choice.arrival P.standard s ↔
          ∀ c later inner m', choice = .chosen c later inner m' → Unhidden s c) ∧
        ∀ m', choice = .unmatched m' → scope.1 "Error" = none →
          P.standard.call (parameterNames cs) (dispatcherBody s name cs) args env m =
            (.abrupt (.threw (.error ("No pattern matched for " ++ name))), m')) := by
  obtain ⟨rfl, _⟩ := dispatch_eq_ok hf
  have hlegal := legal_dispatcher_iff s name fun c hc => (hbound c hc).1
  refine ⟨rfl, fun c hc => readsOnly_block s hc, hlegal, fun hload σ P args env m hmade => ?_⟩
  intro scope hspelled choice
  have hfit : ∀ c ∈ cs, Fit s (Tree.arity cs) scope.1 c := fun c hc =>
    ⟨le_arity hc, (hbound c hc).2, (hbound c hc).1, hspelled c hc, hlegal.1 hload c hc⟩
  have hloaded := loaded_frame cs (dispatcherBody s name cs) env hmade
  have hiff := arrival_eq_iff (P := P) hfit hloaded
  refine ⟨hiff, fun m' hnone herror => ?_⟩
  have harrival : dispatched P.standard s name cs args env m = .unmatched m' := by
    have heq := hiff.2 fun c later inner m₁ hc => by cases hnone.symm.trans hc
    exact heq.trans (congrArg (Choice.arrival P.standard s) hnone)
  rw [call_dispatcher]
  simp only [harrival, Engine.exec]
  rw [herror]

/-- Clauses for a symbol with anything, for what is truthy, and for nil with a second argument. -/
def mixedClauses : List Tree.Clause :=
  [⟨"f", [.literal (.symbol "a"), .wildcard], none, [.ret .undefined]⟩,
    ⟨"f", [.binding "x"], some (.identifier "x"), [.declare .const "y" (.identifier "x"), .expr (.identifier "y")]⟩,
    ⟨"f", [.literal .nil, .binding "z"], none, [.expr (.identifier "z")]⟩]

/-- For `undefined` and one, the guard of the second clause is asked and refused, and the third is entered. -/
theorem first_match_mixedClauses :
    (∃ f, stmt ⟨{}, []⟩ (.dispatch "f" mixedClauses) = .ok f ∧ f.legal = true) ∧
      ∃ c inner m, dispatched Primitives.blank.standard ⟨{}, []⟩ "f" mixedClauses
          [.undefined, .number (.ofNat 1)] (fun _ => none) ⟨[], 0, ()⟩ = .entered (block ⟨{}, []⟩ c) [] inner m ∧
        mixedClauses[2]? = some c ∧ (inner "z").bind m.read = some (.number (.ofNat 1)) := by
  have hnames : ∀ c ∈ mixedClauses, c.bound.Nodup ∧ ∀ x ∈ c.bound, x.toList.head? ≠ some '_' := by decide
  have hseen : ∀ c ∈ mixedClauses, ∀ b ∈ Tree.boundPositions 0 c.patterns,
      argument b.2 ∉ Script.lexicals (clauseBody ⟨{}, []⟩ c) := by decide
  have hfirst := @first_match_iff ⟨{}, []⟩ "f" mixedClauses _ rfl fun c hc =>
    ⟨(hnames c hc).1, fun x hx => ne_argument ((hnames c hc).2 x hx)⟩
  have hrun := hfirst.2.2.2 (by decide) Unit .blank [.undefined, .number (.ofNat 1)] (fun _ => none) ⟨[], 0, ()⟩
    (by simp)
  have hglobals : ∀ c ∈ mixedClauses, ∀ p ∈ c.patterns, ∀ x ∈ p.global?, x.toList.head? ≠ some '_' ∧
      ∀ d ∈ mixedClauses, x ∉ Script.vars (clauseBody ⟨{}, []⟩ d) := by decide
  have hspelled : ∀ c ∈ mixedClauses, Spelled (Script.frame (parameterNames mixedClauses)
      (dispatcherBody ⟨{}, []⟩ "f" mixedClauses) [.undefined, .number (.ofNat 1)] (fun _ => none)
      (⟨[], 0, ()⟩ : Machine Unit)).1 c.patterns := by
    intro c hc p hp x hx
    obtain ⟨hhead, hvars⟩ := hglobals c hc p hp x hx
    exact (frame_eq_none_iff ⟨{}, []⟩ "f" mixedClauses _ _ _ (ne_argument hhead)).2 ⟨rfl, hvars⟩
  have hentered := (hrun hspelled).1.2 fun c later inner m' hc _ => hseen c (mem_of_chosen _ hc)
  exact ⟨⟨_, rfl, by decide⟩, _, _, _, hentered, rfl, rfl⟩

/-- A clause whose body declares the parameter that it binds. -/
def hidingClauses : List Tree.Clause :=
  [⟨"f", [.binding "x"], none,
    [.declare .const "_arg0" (.literal (.number (.ofNat 5))), .expr (.identifier "x")]⟩]

/-- The clause is the first that matches, and yet its body is not entered: the binding finds the parameter hidden. -/
theorem first_match_fails_for_a_hidden_parameter :
    (∃ f, stmt ⟨{}, []⟩ (.dispatch "f" hidingClauses) = .ok f ∧ f.legal = true) ∧
      (∃ c inner m,
        let scope := Script.frame (parameterNames hidingClauses) (dispatcherBody ⟨{}, []⟩ "f" hidingClauses) [.null]
          (fun _ => none) ⟨[], 0, ()⟩
        choose Primitives.blank.standard ⟨{}, []⟩ [.null] scope.1 hidingClauses scope.2 = .chosen c [] inner m) ∧
      (Primitives.blank.standard.call (parameterNames hidingClauses) (dispatcherBody ⟨{}, []⟩ "f" hidingClauses) [.null]
        (fun _ => none) ⟨[], 0, ()⟩).1 = .abrupt (.threw (.uninitialised "_arg0")) :=
  ⟨⟨_, rfl, by decide⟩, ⟨_, _, _, rfl⟩, rfl⟩

end Lowering

end TreeScript
