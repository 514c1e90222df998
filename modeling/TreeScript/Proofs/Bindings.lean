/-
  TreeScript.Proofs.Bindings — which argument a clause's binding holds.

  A clause binds the arguments with declarations of one block, each of which reads the
  parameter of its position. A pattern may have the name of such a parameter. Then the
  block has a variable of that name, and it is this one that the other declaration reads:
  too early, which is an error, or with the argument of another position in it. After a
  run that ends normally each binding holds what the variable it reads holds
  (`execAll_bindings_agree`), so this is the only way to a wrong argument, and it always is
  one (`bindings_hold_arguments_iff`). A parameter that no binding of the clause
  reads may be hidden.
-/

import TreeScript.Proofs.FirstMatch

namespace TreeScript

open TreeScript.Script (Value)

namespace Tree

theorem mem_boundPositions {position : Nat} {ps : List Pattern} {b : String × Nat} :
    b ∈ boundPositions position ps ↔ ∃ i, b.2 = position + i ∧ ps[i]? = some (.binding b.1) := by
  induction ps generalizing position with
  | nil => simp [boundPositions]
  | cons p ps ih =>
    have htail : b ∈ boundPositions (position + 1) ps ↔
        ∃ i, b.2 = position + (i + 1) ∧ (p :: ps)[i + 1]? = some (.binding b.1) := by
      rw [ih]
      simp only [List.getElem?_cons_succ, Nat.add_assoc, Nat.add_comm 1]
    rw [← Nat.or_exists_add_one, ← htail]
    cases p with
    | literal l => simp [boundPositions]
    | wildcard => simp [boundPositions]
    | binding name => simp [boundPositions, Prod.ext_iff, and_comm, eq_comm]

/-- The bound names of a clause with their positions. -/
theorem Clause.mem_boundPositions_iff {c : Clause} {x : String} {i : Nat} :
    (x, i) ∈ boundPositions 0 c.patterns ↔ c.patterns[i]? = some (.binding x) := by
  simp [mem_boundPositions]

theorem Clause.mem_bound_iff {c : Clause} {x : String} :
    x ∈ c.bound ↔ ∃ i : Nat, c.patterns[i]? = some (.binding x) := by
  rw [bound, ← map_fst_boundPositions 0]
  simp [← mem_boundPositions_iff]

end Tree

namespace Lowering

open TreeScript.Script (Engine Env Machine Primitives)

variable {σ : Type}

section Block

variable (P : Primitives σ) (cs : List Tree.Clause) (c : Tree.Clause) (body : List Script.Stmt) (args : List Value)
  (env : Env) (m : Machine σ)

/-- The scope of a block of a clause's bindings, in a call with some arguments. -/
def bindingScope : Env × Machine σ :=
  let frame := Script.frame (parameterNames cs) body args env m
  P.standard.enter (bindings 0 c.patterns) frame.1 frame.2

def bindingRun : Script.Completion × Machine σ :=
  let scope := bindingScope P cs c body args env m
  P.standard.execAll scope.1 (bindings 0 c.patterns) scope.2

/-- The bindings end normally and leave every name with the argument of its position. -/
def HoldsArguments : Prop :=
  (bindingRun P cs c body args env m).1 = .normal ∧ ∀ i x, c.patterns[i]? = some (.binding x) →
    ∃ cell, (bindingScope P cs c body args env m).1 x = some cell ∧
      (bindingRun P cs c body args env m).2.read cell = some (Tree.argumentAt args i)

end Block

section Run

variable {P : Primitives σ} {env : Env} {m m' : Machine σ}

/-- After bindings ended normally, each holds what the variable that it reads holds, and that is another one. -/
theorem execAll_bindings_agree {bs : List (String × Nat)} (hcells : bs.Pairwise fun b b' => env b.1 ≠ env b'.1)
    (hunset : ∀ b ∈ bs, ∃ cell, env b.1 = some cell ∧ cell < m.cells.length ∧ m.read cell = none)
    (hread : ∀ b ∈ bs, ∃ cell, env (argument b.2) = some cell)
    (hrun : P.standard.execAll env (bs.map bindingStmt) m = (.normal, m')) :
    m.Keeps m' ∧ ∀ b ∈ bs, ∃ source cell v, env (argument b.2) = some source ∧ env b.1 = some cell ∧
      source ≠ cell ∧ m'.read source = some v ∧ m'.read cell = some v := by
  induction bs generalizing m with
  | nil =>
    cases hrun
    exact ⟨.refl _, fun b hb => absurd hb List.not_mem_nil⟩
  | cons b bs ih =>
    rw [List.pairwise_cons] at hcells
    obtain ⟨cell, hcell, hlt, hnone⟩ := hunset b List.mem_cons_self
    obtain ⟨source, hsource⟩ := hread b List.mem_cons_self
    rw [List.map_cons, Engine.execAll, exec_bindingStmt hsource] at hrun
    cases hv : m.read source with
    | none =>
      rw [hv] at hrun
      cases hrun
    | some v =>
      rw [hv] at hrun
      have hother {other : Nat} (hne : cell ≠ other) : (m.assign env b.1 v).read other = m.read other :=
        Machine.read_assign_of_ne (by rwa [hcell, ne_eq, Option.some.injEq]) v
      -- no variable with a value is in the cell, which had none
      have hset {other : Nat} {w : Value} (hw : m.read other = some w) : cell ≠ other := by
        rintro rfl
        cases hnone.symm.trans hw
      have hkeeps : m.Keeps (m.assign env b.1 v) :=
        ⟨fun other w hw => (hother (hset hw)).trans hw, Nat.le_of_eq (Machine.objects_assign b.1 v).symm⟩
      have hunset' : ∀ b' ∈ bs, ∃ cell, env b'.1 = some cell ∧ cell < (m.assign env b.1 v).cells.length ∧
          (m.assign env b.1 v).read cell = none := by
        intro b' hb'
        obtain ⟨cell', hcell', hlt', hnone'⟩ := hunset b' (List.mem_cons_of_mem b hb')
        refine ⟨cell', hcell', by rwa [Machine.length_assign], (hother fun heq => ?_).trans hnone'⟩
        exact hcells.1 b' hb' (by rw [hcell, hcell', heq])
      obtain ⟨hrest, hagree⟩ := ih hcells.2 hunset' (fun b' hb' => hread b' (List.mem_cons_of_mem b hb')) hrun
      refine ⟨hkeeps.trans hrest, List.forall_mem_cons.2 ⟨?_, hagree⟩⟩
      exact ⟨source, cell, v, hsource, hcell, (hset hv).symm, hrest.read _ _ (hkeeps.read _ _ hv),
        hrest.read _ _ (Machine.read_assign_self hcell hlt v)⟩

end Run

/-! ## The block of the bindings -/

section Clause

variable {cs : List Tree.Clause} {c : Tree.Clause}

theorem enter_bindings (E : Engine σ) (c : Tree.Clause) (env : Env) (m : Machine σ) :
    E.enter (bindings 0 c.patterns) env m = Script.reserve c.bound env m := by
  have henter := enter_clause E c [] env m
  simpa [Script.lexicals, Engine.hoist] using henter

theorem pairwise_bound (hn : c.bound.Nodup) (env : Env) (m : Machine σ) :
    (Tree.boundPositions 0 c.patterns).Pairwise fun b b' =>
      (Script.reserve c.bound env m).1 b.1 ≠ (Script.reserve c.bound env m).1 b'.1 := by
  have hpairwise : (c.boundValues fun _ => .undefined).Pairwise fun v w =>
      (Script.reserve c.bound env m).1 v.1 ≠ (Script.reserve c.bound env m).1 w.1 :=
    Script.pairwise_reserve hn (by rw [c.map_fst_boundValues]) env m
  rw [Tree.Clause.boundValues, List.pairwise_map] at hpairwise
  exact hpairwise

/-- The variables of the block have no values at first. -/
theorem unset_bound (hn : c.bound.Nodup) (env : Env) (m : Machine σ) :
    ∀ b ∈ Tree.boundPositions 0 c.patterns, ∃ cell, (Script.reserve c.bound env m).1 b.1 = some cell ∧
      cell < (Script.reserve c.bound env m).2.cells.length ∧ (Script.reserve c.bound env m).2.read cell = none := by
  intro b hb
  obtain ⟨cell, hcell, hlt⟩ := Script.reserve_place hn (Tree.Clause.mem_bound hb) env m
  have hle := Script.le_of_reserve (Tree.Clause.mem_bound hb) hcell
  refine ⟨cell, hcell, hlt, ?_⟩
  rw [Script.read_reserve, Machine.read, List.getElem?_eq_none hle]
  rfl

/-- A binding that reads no variable of the block reads the parameter. -/
theorem holdsArguments_of_notMem (hc : c ∈ cs) (hn : c.bound.Nodup)
    (hfree : ∀ i x, c.patterns[i]? = some (.binding x) → argument i ∉ c.bound) (P : Primitives σ)
    (body : List Script.Stmt) (args : List Value) (env : Env) (m : Machine σ) :
    HoldsArguments P cs c body args env m := by
  have hread {i : Nat} (hi : i < Tree.arity cs) := read_frame cs body args env m hi
  simp only [HoldsArguments, bindingRun, bindingScope, enter_bindings]
  rw [bindings_eq_map]
  generalize Script.frame (parameterNames cs) body args env m = frame at hread
  have hsource : ∀ b ∈ Tree.boundPositions 0 c.patterns, ∃ cell,
      (Script.reserve c.bound frame.1 frame.2).1 (argument b.2) = some cell ∧
        frame.2.read cell = some (Tree.argumentAt args b.2) := by
    intro b hb
    have hlt := Tree.lt_of_mem_boundPositions hb
    have harity := le_arity hc
    obtain ⟨cell, hcell, hvalue⟩ := hread (i := b.2) (by omega)
    refine ⟨cell, ?_, hvalue⟩
    rw [Script.reserve_fst_of_notMem (hfree b.2 b.1 (Tree.Clause.mem_boundPositions_iff.1 hb)), hcell]
  have hapart : Apart (Script.reserve c.bound frame.1 frame.2).1 (Tree.boundPositions 0 c.patterns) := by
    intro b hb
    obtain ⟨cell, hcell, hvalue⟩ := hsource b hb
    refine ⟨cell, hcell, fun b' hb' heq => ?_⟩
    have hle := Script.le_of_reserve (Tree.Clause.mem_bound hb') heq
    have hlt := Machine.lt_of_read hvalue
    omega
  have hvalues : ∀ b ∈ Tree.boundPositions 0 c.patterns, ∀ cell,
      (Script.reserve c.bound frame.1 frame.2).1 (argument b.2) = some cell →
        (Script.reserve c.bound frame.1 frame.2).2.read cell = some (Tree.argumentAt args b.2) := by
    intro b hb cell hcell
    obtain ⟨cell', hcell', hvalue⟩ := hsource b hb
    cases hcell.symm.trans hcell'
    rw [Script.read_reserve, hvalue]
  rw [execAll_bindings hapart hvalues]
  refine ⟨rfl, fun i x hx => ?_⟩
  have hb := Tree.Clause.mem_boundPositions_iff.2 hx
  obtain ⟨cell, hcell, hlt⟩ := Script.reserve_place hn (Tree.Clause.mem_bound hb) frame.1 frame.2
  refine ⟨cell, hcell, Machine.read_fill ?_ (List.mem_map_of_mem hb) hcell hlt⟩
  exact List.pairwise_map.2 (pairwise_bound hn frame.1 frame.2)

/-- A binding that reads a variable of the block holds another argument, or none. -/
theorem not_holdsArguments_of_mem (hc : c ∈ cs) (hn : c.bound.Nodup) {i : Nat} {x : String}
    (hx : c.patterns[i]? = some (.binding x)) (hmem : argument i ∈ c.bound) (P : Primitives σ)
    (body : List Script.Stmt) (env : Env) (m : Machine σ) :
    ∃ args, ¬HoldsArguments P cs c body args env m := by
  -- arguments that are all different
  refine ⟨(List.range (Tree.arity cs)).map fun k => .string (argument k), fun hholds => ?_⟩
  have hargument {k : Nat} (hk : k < Tree.arity cs) :
      Tree.argumentAt ((List.range (Tree.arity cs)).map fun k => .string (argument k)) k = .string (argument k) := by
    simp [Tree.argumentAt, hk]
  have hread {i : Nat} (hi : i < Tree.arity cs) := read_frame cs body
    ((List.range (Tree.arity cs)).map fun k => .string (argument k)) env m hi
  have hbelow {k : Nat} {y : String} (hy : c.patterns[k]? = some (.binding y)) : k < Tree.arity cs := by
    have hlt := (List.getElem?_eq_some_iff.1 hy).1
    have harity := le_arity hc
    omega
  simp only [HoldsArguments, bindingRun, bindingScope, enter_bindings] at hholds
  rw [bindings_eq_map] at hholds
  generalize Script.frame (parameterNames cs) body _ env m = frame at hread hholds
  obtain ⟨hnormal, hholds⟩ := hholds
  generalize hrun : P.standard.execAll (Script.reserve c.bound frame.1 frame.2).1
    ((Tree.boundPositions 0 c.patterns).map bindingStmt) (Script.reserve c.bound frame.1 frame.2).2 = run
    at hnormal hholds
  obtain ⟨completion, m'⟩ := run
  subst hnormal
  have hsources : ∀ b ∈ Tree.boundPositions 0 c.patterns, ∃ cell,
      (Script.reserve c.bound frame.1 frame.2).1 (argument b.2) = some cell := by
    intro b hb
    by_cases hbound : argument b.2 ∈ c.bound
    · exact ⟨_, Script.reserve_fst hn hbound frame.1 frame.2⟩
    · obtain ⟨cell, hcell, -⟩ := hread (hbelow (Tree.Clause.mem_boundPositions_iff.1 hb))
      exact ⟨cell, (Script.reserve_fst_of_notMem hbound frame.1 frame.2).trans hcell⟩
  obtain ⟨-, hagree⟩ := execAll_bindings_agree (pairwise_bound hn frame.1 frame.2)
    (unset_bound hn frame.1 frame.2) hsources hrun
  obtain ⟨source, cell, v, hsource, hcell, hne, hv, hv'⟩ := hagree _ (Tree.Clause.mem_boundPositions_iff.2 hx)
  obtain ⟨j, hj⟩ := Tree.Clause.mem_bound_iff.1 hmem
  -- what is read is the variable of another pattern, and so holds the argument of that pattern's position
  obtain ⟨cell', hcell', hheld⟩ := hholds i x hx
  obtain ⟨source', hsource', hheld'⟩ := hholds j (argument i) hj
  cases hcell.symm.trans hcell'
  cases hsource.symm.trans hsource'
  rw [hv', hargument (hbelow hx)] at hheld
  rw [hv, hargument (hbelow hj)] at hheld'
  have hij : i = j := argument_injective (Value.string.inj (Option.some.inj (hheld.symm.trans hheld')))
  subst hij
  cases hx.symm.trans hj
  exact hne (Option.some.inj (hsource.symm.trans hcell))

/-- A clause's bindings, in a block of their own, hold their arguments whatever these are, just when the clause binds no
name that is the parameter of a position it binds. What the body of a clause without a guard declares beside them is
not in the block (see `Unhidden`). -/
theorem bindings_hold_arguments_iff (cs : List Tree.Clause) (c : Tree.Clause) (hc : c ∈ cs) (hn : c.bound.Nodup)
    (P : Primitives σ) (body : List Script.Stmt) (env : Env) (m : Machine σ) :
    (∀ args, HoldsArguments P cs c body args env m) ↔
      ∀ i x, c.patterns[i]? = some (.binding x) → argument i ∉ c.bound := by
  constructor
  · intro hholds i x hx hmem
    obtain ⟨args, hnot⟩ := not_holdsArguments_of_mem hc hn hx hmem P body env m
    exact hnot (hholds args)
  · intro hfree args
    exact holdsArguments_of_notMem hc hn hfree P body args env m

/-- A parameter may be hidden that no binding reads: here those of the literal and of the wildcard. -/
theorem bindings_hold_arguments_mixed :
    let c : Tree.Clause := ⟨"f", [.binding "_arg1", .literal .nil, .binding "_arg3", .wildcard], none, []⟩
    (c ∈ [c] ∧ c.bound.Nodup ∧ ∀ i x, c.patterns[i]? = some (.binding x) → argument i ∉ c.bound) ∧
      ∀ args, HoldsArguments .blank [c] c [] args (fun _ => none) ⟨[], 0, ()⟩ := by
  intro c
  have hn : c.bound.Nodup := by decide
  have hfree : ∀ i x, c.patterns[i]? = some (.binding x) → argument i ∉ c.bound := by
    intro i x hx
    have hall : ∀ b ∈ Tree.boundPositions 0 c.patterns, argument b.2 ∉ c.bound := by decide +kernel
    exact hall (x, i) (Tree.Clause.mem_boundPositions_iff.2 hx)
  refine ⟨⟨List.mem_cons_self, hn, hfree⟩, ?_⟩
  exact (bindings_hold_arguments_iff [c] c List.mem_cons_self hn .blank [] (fun _ => none) ⟨[], 0, ()⟩).2 hfree

/-- Two patterns with different names. The first is named like the parameter of the second, which takes the first
argument; a pattern that is named like its own parameter takes none. -/
theorem binding_holds_another_argument :
    let c : Tree.Clause := ⟨"f", [.binding "_arg1", .binding "x"], none, [.expr (.identifier "x")]⟩
    let d : Tree.Clause := ⟨"f", [.binding "_arg0"], none, [.expr (.identifier "_arg0")]⟩
    let args : List Value := [.string "first", .string "second"]
    (c.bound.Nodup ∧ (bindingRun .blank [c] c [] args (fun _ => none) ⟨[], 0, ()⟩).1 = .normal ∧
        ((bindingScope .blank [c] c [] args (fun _ => none) ⟨[], 0, ()⟩).1 "x").bind
          (bindingRun .blank [c] c [] args (fun _ => none) ⟨[], 0, ()⟩).2.read = some (.string "first") ∧
        ¬HoldsArguments .blank [c] c [] args (fun _ => none) ⟨[], 0, ()⟩) ∧
      (d.bound.Nodup ∧ (bindingRun .blank [d] d [] args (fun _ => none) ⟨[], 0, ()⟩).1 =
        .abrupt (.threw (.uninitialised "_arg0"))) := by
  intro c d args
  have hread : ((bindingScope .blank [c] c [] args (fun _ => none) ⟨[], 0, ()⟩).1 "x").bind
      (bindingRun .blank [c] c [] args (fun _ => none) ⟨[], 0, ()⟩).2.read = some (.string "first") := by decide +kernel
  refine ⟨⟨by decide, by decide +kernel, hread, fun hholds => ?_⟩, by decide, by decide +kernel⟩
  obtain ⟨cell, hcell, hheld⟩ := hholds.2 1 "x" rfl
  rw [hcell, Option.bind_some, hheld] at hread
  exact absurd hread (by decide)

end Clause

end Lowering

end TreeScript
