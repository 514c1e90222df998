/-
  TreeScript.Proofs.Scopes — cells, and the scopes that are laid out in them.

  New cells come after all others, in the order of their names, so a name of a new scope
  and a name from around it never share a cell, and neither do two names of one scope.
  Variables outside a scope keep their values while it is set up (`keeps_allocate`), and
  giving values to the variables of one scope and making the functions of another may
  change places (`hoist_fill`, `reserve_fill`).
-/

import Mathlib.Data.List.Nodup
import TreeScript.Proofs.Execution

namespace TreeScript.Script

variable {σ : Type}

/-! ## Reading what was written -/

namespace Machine

variable {m : Machine σ} {env : Env} {cell : Nat}

theorem lt_of_read {v : Value} (h : m.read cell = some v) : cell < m.cells.length := by
  by_contra hge
  rw [read, List.getElem?_eq_none (Nat.le_of_not_lt hge)] at h
  cases h

theorem read_write_self (h : cell < m.cells.length) (v : Value) : (m.write cell v).read cell = some v := by
  simp [read, write, h]

theorem read_write_of_ne {other : Nat} (h : other ≠ cell) (v : Value) : (m.write other v).read cell = m.read cell := by
  simp [read, write, List.getElem?_set_ne h]

@[simp] theorem length_assign (name : String) (v : Value) : (m.assign env name v).cells.length = m.cells.length := by
  unfold assign
  split
  · exact List.length_set
  · rfl

@[simp] theorem objects_assign (name : String) (v : Value) : (m.assign env name v).objects = m.objects := by
  unfold assign
  split <;> rfl

@[simp] theorem world_assign (name : String) (v : Value) : (m.assign env name v).world = m.world := by
  unfold assign
  split <;> rfl

theorem read_assign_of_ne {name : String} (h : env name ≠ some cell) (v : Value) :
    (m.assign env name v).read cell = m.read cell := by
  unfold assign
  split
  · rename_i other hn
    exact read_write_of_ne (fun heq => h (by rw [hn, heq])) v
  · rfl

theorem read_assign_self {name : String} (h : env name = some cell) (hlt : cell < m.cells.length) (v : Value) :
    (m.assign env name v).read cell = some v := by
  simp only [assign, h]
  exact read_write_self hlt v

theorem fill_cons (v : String × Value) (vs : List (String × Value)) :
    m.fill env (v :: vs) = (m.assign env v.1 v.2).fill env vs := rfl

@[simp] theorem length_fill (vs : List (String × Value)) : (m.fill env vs).cells.length = m.cells.length := by
  induction vs generalizing m with
  | nil => rfl
  | cons v vs ih => rw [fill_cons, ih, length_assign]

@[simp] theorem objects_fill (vs : List (String × Value)) : (m.fill env vs).objects = m.objects := by
  induction vs generalizing m with
  | nil => rfl
  | cons v vs ih => rw [fill_cons, ih, objects_assign]

@[simp] theorem world_fill (vs : List (String × Value)) : (m.fill env vs).world = m.world := by
  induction vs generalizing m with
  | nil => rfl
  | cons v vs ih => rw [fill_cons, ih, world_assign]

theorem read_fill_of_ne {vs : List (String × Value)} (h : ∀ v ∈ vs, env v.1 ≠ some cell) :
    (m.fill env vs).read cell = m.read cell := by
  induction vs generalizing m with
  | nil => rfl
  | cons v vs ih =>
    rw [fill_cons, ih fun w hw => h w (List.mem_cons_of_mem v hw)]
    exact read_assign_of_ne (h v List.mem_cons_self) v.2

/-- A variable that is given a value has it, if no other one is in its cell. -/
theorem read_fill {vs : List (String × Value)} {name : String} {v : Value}
    (hinj : vs.Pairwise fun v w => env v.1 ≠ env w.1) (hmem : (name, v) ∈ vs) (hcell : env name = some cell)
    (hlt : cell < m.cells.length) : (m.fill env vs).read cell = some v := by
  induction vs generalizing m with
  | nil => cases hmem
  | cons w ws ih =>
    rw [List.pairwise_cons] at hinj
    rcases List.mem_cons.1 hmem with rfl | hmem
    · rw [fill_cons, read_fill_of_ne fun w hw => hcell ▸ (hinj.1 w hw).symm]
      exact read_assign_self hcell hlt v
    · exact ih hinj.2 hmem (by rwa [length_assign])

theorem fill_congr {env' : Env} {vs : List (String × Value)} (h : ∀ v ∈ vs, env v.1 = env' v.1) :
    m.fill env vs = m.fill env' vs := by
  induction vs generalizing m with
  | nil => rfl
  | cons v vs ih =>
    rw [fill_cons, fill_cons, ih fun w hw => h w (List.mem_cons_of_mem v hw)]
    simp only [assign, h v List.mem_cons_self]

theorem fill_with (vs : List (String × Value)) (objects : Nat) (world : σ) :
    ({ m with objects := objects, world := world } : Machine σ).fill env vs =
      { m.fill env vs with objects := objects, world := world } := by
  induction vs generalizing m with
  | nil => rfl
  | cons v vs ih =>
    simp only [fill_cons]
    rw [← ih]
    congr 1
    unfold assign
    split <;> rfl

theorem assign_comm {env' : Env} {x y : String} (h : env x ≠ env' y) (v w : Value) :
    (m.assign env' y w).assign env x v = (m.assign env x v).assign env' y w := by
  unfold assign
  cases hx : env x with
  | none => rfl
  | some cell =>
    cases hy : env' y with
    | none => rfl
    | some other =>
      have hne : cell ≠ other := fun heq => h (by rw [hx, hy, heq])
      simp only [write, List.set_comm _ _ hne]

theorem assign_fill {env' : Env} {x : String} {vs : List (String × Value)} (h : ∀ v ∈ vs, env x ≠ env' v.1) (w : Value) :
    (m.fill env' vs).assign env x w = (m.assign env x w).fill env' vs := by
  induction vs generalizing m with
  | nil => rfl
  | cons v vs ih =>
    rw [fill_cons, fill_cons, ih fun u hu => h u (List.mem_cons_of_mem v hu), assign_comm (h v List.mem_cons_self)]

/-- Cells may be added before or after others get their values. -/
theorem fill_append {vs : List (String × Value)} (h : ∀ v ∈ vs, ∀ cell, env v.1 = some cell → cell < m.cells.length)
    (new : List (Option Value)) :
    ({ m with cells := m.cells ++ new } : Machine σ).fill env vs =
      { m.fill env vs with cells := (m.fill env vs).cells ++ new } := by
  induction vs generalizing m with
  | nil => rfl
  | cons v vs ih =>
    have hassign : ({ m with cells := m.cells ++ new } : Machine σ).assign env v.1 v.2 =
        { m.assign env v.1 v.2 with cells := (m.assign env v.1 v.2).cells ++ new } := by
      unfold assign
      split
      · rename_i cell hcell
        simp only [write, List.set_append_left _ _ (h v List.mem_cons_self cell hcell)]
      · rfl
    rw [fill_cons, fill_cons, hassign]
    exact ih fun u hu cell hcell => by simpa using h u (List.mem_cons_of_mem v hu) cell hcell

end Machine

/-! ## New scopes -/

theorem reserve_append (xs ys : List String) (env : Env) (m : Machine σ) :
    reserve (xs ++ ys) env m = reserve ys (reserve xs env m).1 (reserve xs env m).2 := by
  induction xs generalizing env m with
  | nil => rfl
  | cons x xs ih => exact ih _ _

theorem reserve_snd (names : List String) (env : Env) (m : Machine σ) :
    (reserve names env m).2 = { m with cells := m.cells ++ List.replicate names.length none } := by
  induction names generalizing env m with
  | nil => simp [reserve]
  | cons name names ih => simp [reserve, ih, List.replicate_succ]

theorem reserve_fst_of_notMem {names : List String} {x : String} (h : x ∉ names) (env : Env) (m : Machine σ) :
    (reserve names env m).1 x = env x := by
  induction names generalizing env m with
  | nil => rfl
  | cons name names ih =>
    rw [List.mem_cons, not_or] at h
    rw [reserve, ih h.2]
    exact if_neg h.1

theorem reserve_fst_eq_none {names : List String} {x : String} (env : Env) (m : Machine σ) :
    (reserve names env m).1 x = none ↔ x ∉ names ∧ env x = none := by
  induction names generalizing env m with
  | nil => exact (and_iff_right List.not_mem_nil).symm
  | cons name names ih =>
    rw [reserve, ih, List.mem_cons, not_or, and_assoc, and_left_comm]
    refine and_congr_right fun _ => ?_
    by_cases hx : x = name
    · simp [Env.bind, hx]
    · simp [Env.bind, hx]

theorem le_of_reserve {names : List String} {x : String} (h : x ∈ names) {env : Env} {m : Machine σ} {cell : Nat}
    (hcell : (reserve names env m).1 x = some cell) : m.cells.length ≤ cell := by
  induction names generalizing env m with
  | nil => cases h
  | cons name names ih =>
    by_cases hx : x ∈ names
    · have hle := ih hx hcell
      simp only [List.length_append, List.length_singleton] at hle
      omega
    · obtain rfl : x = name := (List.mem_cons.1 h).resolve_right hx
      rw [reserve, reserve_fst_of_notMem hx] at hcell
      simp only [Env.bind, if_true, Option.some.injEq] at hcell
      omega

/-- The cells of distinct names follow each other. -/
theorem reserve_fst {names : List String} (hn : names.Nodup) {x : String} (h : x ∈ names) (env : Env) (m : Machine σ) :
    (reserve names env m).1 x = some (m.cells.length + names.idxOf x) := by
  induction names generalizing env m with
  | nil => cases h
  | cons name names ih =>
    rw [List.nodup_cons] at hn
    rw [reserve]
    by_cases hx : x = name
    · subst hx
      rw [reserve_fst_of_notMem hn.1]
      simp [Env.bind]
    · have hmem : x ∈ names := (List.mem_cons.1 h).resolve_left hx
      rw [ih hn.2 hmem, List.idxOf_cons_ne names (Ne.symm hx)]
      simp only [List.length_append, List.length_singleton, Option.some.injEq]
      omega

theorem reserve_place {names : List String} (hn : names.Nodup) {x : String} (h : x ∈ names) (env : Env) (m : Machine σ) :
    ∃ cell, (reserve names env m).1 x = some cell ∧ cell < (reserve names env m).2.cells.length := by
  refine ⟨_, reserve_fst hn h env m, ?_⟩
  rw [reserve_snd, List.length_append, List.length_replicate]
  exact Nat.add_lt_add_left (List.idxOf_lt_length_of_mem h) _

theorem reserve_injective {names : List String} (hn : names.Nodup) {x y : String} (hx : x ∈ names) (hy : y ∈ names)
    {env : Env} {m : Machine σ} (h : (reserve names env m).1 x = (reserve names env m).1 y) : x = y := by
  rw [reserve_fst hn hx, reserve_fst hn hy, Option.some.injEq] at h
  exact (List.idxOf_inj hx).1 (by omega)

theorem reserve_fst_congr {m m' : Machine σ} (h : m.cells.length = m'.cells.length) (names : List String) (env : Env) :
    (reserve names env m).1 = (reserve names env m').1 := by
  induction names generalizing env m m' with
  | nil => rfl
  | cons name names ih =>
    rw [reserve, reserve, h]
    exact ih (by simp [h]) _

/-- Cells may be reserved before or after others get their values. -/
theorem reserve_fill {m : Machine σ} {env' : Env} {vs : List (String × Value)}
    (h : ∀ v ∈ vs, ∀ cell, env' v.1 = some cell → cell < m.cells.length) (names : List String) (env : Env) :
    reserve names env (m.fill env' vs) = ((reserve names env m).1, (reserve names env m).2.fill env' vs) := by
  apply Prod.ext
  · exact reserve_fst_congr (Machine.length_fill vs) names env
  · rw [reserve_snd, reserve_snd]
    exact (Machine.fill_append h _).symm

theorem read_reserve (names : List String) (env : Env) (m : Machine σ) (cell : Nat) :
    (reserve names env m).2.read cell = m.read cell := by
  rw [reserve_snd]
  simp only [Machine.read]
  by_cases h : cell < m.cells.length
  · rw [List.getElem?_append_left h]
  · have hge : m.cells.length ≤ cell := Nat.le_of_not_lt h
    rw [List.getElem?_append_right hge, List.getElem?_eq_none hge, List.getElem?_replicate]
    split <;> rfl

theorem keeps_allocate (vs : List (String × Value)) (env : Env) (m : Machine σ) : m.Keeps (allocate vs env m).2 := by
  refine ⟨fun cell v h => ?_, by simp [allocate, reserve_snd]⟩
  rw [allocate, Machine.read_fill_of_ne, read_reserve, h]
  intro w hw hcell
  exact absurd (le_of_reserve (List.mem_map_of_mem hw) hcell) (Nat.not_le_of_lt (Machine.lt_of_read h))

theorem allocate_fst_of_notMem {vs : List (String × Value)} {x : String} (h : x ∉ vs.map Prod.fst) (env : Env)
    (m : Machine σ) : (allocate vs env m).1 x = env x := reserve_fst_of_notMem h env m

theorem pairwise_reserve {vs : List (String × Value)} {names : List String} (hn : names.Nodup)
    (hsub : (vs.map Prod.fst).Sublist names) (env : Env) (m : Machine σ) :
    vs.Pairwise fun v w => (reserve names env m).1 v.1 ≠ (reserve names env m).1 w.1 := by
  have hnames : (vs.map Prod.fst).Pairwise fun x y => (reserve names env m).1 x ≠ (reserve names env m).1 y :=
    (hn.sublist hsub).imp_of_mem fun hx hy hne heq =>
      hne (reserve_injective hn (hsub.subset hx) (hsub.subset hy) heq)
  rw [List.pairwise_map] at hnames
  exact hnames

/-- A new variable has its value. -/
theorem read_allocate {vs : List (String × Value)} (hn : (vs.map Prod.fst).Nodup) {name : String} {v : Value}
    (h : (name, v) ∈ vs) (env : Env) (m : Machine σ) :
    ∃ cell, (allocate vs env m).1 name = some cell ∧ (allocate vs env m).2.read cell = some v := by
  obtain ⟨cell, hcell, hlt⟩ := reserve_place hn (List.mem_map_of_mem h) env m
  exact ⟨cell, hcell, Machine.read_fill (pairwise_reserve hn (List.Sublist.refl _) env m) h hcell hlt⟩

/-! ## Functions of a scope -/

theorem mem_lexicals_cons {name : String} {ts : List Stmt} (h : name ∈ lexicals ts) (t : Stmt) :
    name ∈ lexicals (t :: ts) := by
  rw [lexicals, List.filterMap_cons]
  split
  · exact h
  · exact List.mem_cons_of_mem _ h

namespace Engine

variable (E : Engine σ)

theorem hoist_append (env : Env) (ts us : List Stmt) (m : Machine σ) :
    E.hoist env (ts ++ us) m = E.hoist env us (E.hoist env ts m) := by
  induction ts generalizing m with
  | nil => rfl
  | cons t ts ih => cases t <;> simp only [List.cons_append, hoist, ih]

theorem length_hoist (env : Env) (body : List Stmt) (m : Machine σ) :
    (E.hoist env body m).cells.length = m.cells.length := by
  induction body generalizing m with
  | nil => rfl
  | cons t ts ih =>
    cases t with
    | function name params body => rw [hoist, ih, Machine.length_assign]
    | _ => exact ih m

theorem read_hoist_of_ne {env : Env} {body : List Stmt} {cell : Nat} (h : ∀ name ∈ lexicals body, env name ≠ some cell)
    (m : Machine σ) : (E.hoist env body m).read cell = m.read cell := by
  induction body generalizing m with
  | nil => rfl
  | cons t ts ih =>
    have htail : ∀ name ∈ lexicals ts, env name ≠ some cell := fun name hname => h name (mem_lexicals_cons hname t)
    cases t with
    | function name params body =>
      have hname : env name ≠ some cell := h name (by simp [lexicals, Stmt.lexical?, Stmt.let?, Stmt.function?])
      rw [hoist, ih htail, Machine.read_assign_of_ne hname]
      rfl
    | _ => exact ih htail m

/-- What a cell holds after functions were made was there before, or is a new function. -/
theorem read_hoist {env : Env} {body : List Stmt} {m : Machine σ} {cell : Nat} {v : Value}
    (h : (E.hoist env body m).read cell = some v) :
    m.read cell = some v ∨ ∃ identity, m.objects ≤ identity ∧ v = .other identity := by
  induction body generalizing m with
  | nil => exact .inl h
  | cons t ts ih =>
    cases t with
    | function name params body =>
      rcases ih h with h | ⟨identity, hle, hv⟩
      · by_cases hcell : env name = some cell
        · rw [Machine.read_assign_self hcell (by simpa using Machine.lt_of_read h)] at h
          exact .inr ⟨m.objects, Nat.le_refl _, (Option.some.inj h).symm⟩
        · rw [Machine.read_assign_of_ne hcell] at h
          exact .inl h
      · simp only [Machine.objects_assign] at hle
        exact .inr ⟨identity, by omega, hv⟩
    | _ => exact ih h

/-- Functions may be made before or after other variables get their values. -/
theorem hoist_fill {env env' : Env} {body : List Stmt} {vs : List (String × Value)}
    (h : ∀ name ∈ lexicals body, ∀ v ∈ vs, env name ≠ env' v.1) (m : Machine σ) :
    E.hoist env body (m.fill env' vs) = (E.hoist env body m).fill env' vs := by
  induction body generalizing m with
  | nil => rfl
  | cons t ts ih =>
    have htail : ∀ name ∈ lexicals ts, ∀ v ∈ vs, env name ≠ env' v.1 := fun name hname =>
      h name (mem_lexicals_cons hname t)
    cases t with
    | function name params body =>
      have hname : ∀ v ∈ vs, env name ≠ env' v.1 := h name (by simp [lexicals, Stmt.lexical?, Stmt.let?, Stmt.function?])
      simp only [hoist, Machine.objects_fill, Machine.world_fill]
      rw [← ih htail, ← Machine.assign_fill hname]
      congr 2
      exact (Machine.fill_with ..).symm
    | _ => exact ih htail m

/-- Variables with values around a block, and variables of the block itself that get their values once it is
entered, come to the same if no name is declared twice. -/
theorem enter_allocate {vs : List (String × Value)} (hn : (vs.map Prod.fst).Nodup) {body : List Stmt}
    (hbody : ∀ v ∈ vs, v.1 ∉ lexicals body) (env : Env) (m : Machine σ) :
    E.enter body (allocate vs env m).1 (allocate vs env m).2 =
      let scope := reserve (vs.map Prod.fst ++ lexicals body) env m
      (scope.1, (E.hoist scope.1 body scope.2).fill scope.1 vs) := by
  have hplace : ∀ v ∈ vs, ∃ cell, (reserve (vs.map Prod.fst) env m).1 v.1 = some cell ∧
      cell < (reserve (vs.map Prod.fst) env m).2.cells.length := fun v hv =>
    reserve_place hn (List.mem_map_of_mem hv) env m
  simp only [enter, allocate, reserve_append]
  generalize reserve (vs.map Prod.fst) env m = outer at hplace
  have hlt : ∀ v ∈ vs, ∀ cell, outer.1 v.1 = some cell → cell < outer.2.cells.length := by
    intro v hv cell hcell
    obtain ⟨cell', hcell', hlt⟩ := hplace v hv
    rw [hcell, Option.some.injEq] at hcell'
    omega
  have hcells : ∀ name ∈ lexicals body, ∀ v ∈ vs, (reserve (lexicals body) outer.1 outer.2).1 name ≠ outer.1 v.1 := by
    intro name hname v hv heq
    obtain ⟨cell, hcell, hlt⟩ := hplace v hv
    have hle := le_of_reserve hname (heq.trans hcell)
    omega
  rw [reserve_fill hlt]
  rw [E.hoist_fill hcells]
  refine Prod.ext rfl (Machine.fill_congr fun v hv => ?_)
  exact (reserve_fst_of_notMem (hbody v hv) outer.1 outer.2).symm

end Engine

end TreeScript.Script
