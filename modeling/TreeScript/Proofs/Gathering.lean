/-
  TreeScript.Proofs.Gathering — gathering loses, repeats and reorders nothing.

  Gathering walks a statement list with a run of clauses that may still grow. `Traced` is
  the same walk with a mark on every statement that it gives out: a statement of the list
  that was kept, or a dispatcher that was built from a run. `Traced.Step` says once what a
  statement can do to the walk, and all that is proved here is read off its four cases.

  With every built dispatcher replaced by its clauses, the list is back as it was, only
  that a function right after a clause of its name is now a clause too (`settle`). So a
  walk that takes a dispatcher for its clauses, and a function for the clause that takes
  all arguments, cannot tell a gathered list from the list itself (`flatMap_gather`).
  Two lists that do not join at their ends can be gathered one after the other
  (`gather_append`), and gathering declares the names that the list does
  (`mem_declared_gather`).
-/

import Mathlib.Data.List.Basic
import TreeScript.Tree.Dispatch

namespace TreeScript.Tree

/-! ## Marks -/

/-- A statement that gathering gives out: one of the list, or a dispatcher built from a run. -/
inductive Piece where
  | kept (s : Stmt)
  | built (r : Run)

namespace Piece

def stmt : Piece → Stmt
  | .kept s => s
  | .built r => r.stmt

/-- What a piece is made of: a built dispatcher's clauses, or the statement itself. -/
def sources : Piece → List Stmt
  | .kept s => [s]
  | .built r => r.clauses.map .clause

def kept? : Piece → Option Stmt
  | .kept s => some s
  | .built _ => none

end Piece

/-- The pieces given out so far, and the run at their end. -/
structure Traced where
  done : List Piece
  run : Option Run

namespace Traced

def closed (g : Traced) : List Piece := g.done ++ (g.run.map Piece.built).toList

def add (g : Traced) : Stmt → Traced
  | .clause c =>
    match g.run with
    | some r => if c.name = r.name then ⟨g.done, some (r.push c)⟩ else ⟨g.closed, some ⟨c.name, [c]⟩⟩
    | none => ⟨g.closed, some ⟨c.name, [c]⟩⟩
  | .function name params body =>
    match g.run with
    | some r =>
      if name = r.name then ⟨g.done ++ [.built (r.push (catchAllClause name params body))], none⟩
      else ⟨g.closed ++ [.kept (.function name params body)], none⟩
    | none => ⟨g.closed ++ [.kept (.function name params body)], none⟩
  | s => ⟨g.closed ++ [.kept s], none⟩

/-- The walk without its marks. -/
def erased (g : Traced) : Gathered := ⟨g.done.map Piece.stmt, g.run⟩

theorem map_stmt_closed (g : Traced) : g.closed.map Piece.stmt = g.erased.closed := by
  unfold closed erased Gathered.closed
  cases g.run <;> simp [Piece.stmt]

@[simp] theorem erased_mk (done : List Piece) (run : Option Run) :
    erased ⟨done, run⟩ = ⟨done.map Piece.stmt, run⟩ := rfl

theorem erased_add (g : Traced) (s : Stmt) : (g.add s).erased = g.erased.add s := by
  have hrun : g.erased.run = g.run := rfl
  have hdone : g.erased.done = g.done.map Piece.stmt := rfl
  have hclosed := map_stmt_closed g
  cases s with
  | clause c =>
    cases hr : g.run with
    | none => simp [add, Gathered.add, hrun, hr, hclosed]
    | some r => by_cases hn : c.name = r.name <;> simp [add, Gathered.add, hrun, hr, hn, hdone, hclosed]
  | function name params body =>
    cases hr : g.run with
    | none => simp [add, Gathered.add, hrun, hr, hclosed, Piece.stmt]
    | some r =>
      by_cases hn : name = r.name <;> simp [add, Gathered.add, hrun, hr, hn, hdone, hclosed, Piece.stmt]
  | _ => simp [add, Gathered.add, hclosed, Piece.stmt]

theorem erased_foldl (body : List Stmt) (g : Traced) :
    (body.foldl add g).erased = body.foldl Gathered.add g.erased := by
  induction body generalizing g with
  | nil => rfl
  | cons s body ih => rw [List.foldl_cons, List.foldl_cons, ih, erased_add]

end Traced

/-- The pieces of a gathered list. -/
def pieces (body : List Stmt) : List Piece := (body.foldl Traced.add ⟨[], none⟩).closed

theorem map_stmt_pieces (body : List Stmt) : (pieces body).map Piece.stmt = gather body := by
  unfold pieces gather
  rw [Traced.map_stmt_closed, Traced.erased_foldl]
  rfl

/-! ## One step -/

namespace Traced

/-- What a statement does to the walk: a clause of the run's name joins the run, any other clause starts
one; a function of the run's name ends the run as its last clause, and all else is kept. -/
inductive Step (g : Traced) : Stmt → Traced → Prop
  | join {r : Run} {c : Clause} : g.run = some r → c.name = r.name →
      Step g (.clause c) ⟨g.done, some (r.push c)⟩
  | start {c : Clause} : (∀ r, g.run = some r → c.name ≠ r.name) →
      Step g (.clause c) ⟨g.closed, some ⟨c.name, [c]⟩⟩
  | finish {r : Run} {name : String} {params : List String} {body : List Stmt} : g.run = some r → name = r.name →
      Step g (.function name params body) ⟨g.done ++ [.built (r.push (catchAllClause name params body))], none⟩
  | keep {s : Stmt} : (∀ c, s ≠ .clause c) → (∀ r params body, g.run = some r → s ≠ .function r.name params body) →
      Step g s ⟨g.closed ++ [.kept s], none⟩

theorem step_add (g : Traced) (s : Stmt) : Step g s (g.add s) := by
  cases s with
  | clause c =>
    cases hr : g.run with
    | none =>
      simp only [add, hr]
      exact .start (by simp [hr])
    | some r =>
      simp only [add, hr]
      split
      · exact .join hr ‹_›
      · exact .start (by simpa [hr])
  | function name params body =>
    cases hr : g.run with
    | none =>
      simp only [add, hr]
      exact .keep (by simp) (by simp [hr])
    | some r =>
      simp only [add, hr]
      split
      · exact .finish hr ‹_›
      · refine .keep (by simp) fun r' _ _ hr' h => ?_
        cases hr.symm.trans hr'
        simp_all
  | _ => exact .keep (by simp) (by simp)

theorem closed_of_run {g : Traced} {r : Run} (h : g.run = some r) : g.closed = g.done ++ [.built r] := by
  simp [closed, h]

theorem closed_of_none {g : Traced} (h : g.run = none) : g.closed = g.done := by
  simp [closed, h]

end Traced

/-- A kept statement is no clause, and a built dispatcher has a clause. -/
def Piece.Sound : Piece → Prop
  | .kept s => ∀ c, s ≠ .clause c
  | .built r => r.clauses ≠ []

theorem Traced.Step.sound {g g' : Traced} {s : Stmt} (hs : Step g s g') (h : ∀ p ∈ g.closed, p.Sound) :
    ∀ p ∈ g'.closed, p.Sound := by
  have hpush (r : Run) (c : Clause) : Piece.Sound (.built (r.push c)) := by simp [Piece.Sound, Run.push]
  cases hs with
  | join hr hn =>
    rw [closed_of_run hr, List.forall_mem_append] at h
    rw [closed_of_run rfl, List.forall_mem_append]
    exact ⟨h.1, by simpa using hpush _ _⟩
  | start hn =>
    rw [closed_of_run rfl, List.forall_mem_append]
    exact ⟨h, by simp [Piece.Sound]⟩
  | finish hr hn =>
    rw [closed_of_run hr, List.forall_mem_append] at h
    rw [closed_of_none rfl, List.forall_mem_append]
    exact ⟨h.1, by simpa using hpush _ _⟩
  | keep hc hf =>
    rw [closed_of_none rfl, List.forall_mem_append]
    exact ⟨h, by simpa [Piece.Sound] using hc⟩

theorem Traced.sound_foldl (body : List Stmt) {g : Traced} (h : ∀ p ∈ g.closed, p.Sound) :
    ∀ p ∈ (body.foldl add g).closed, p.Sound := by
  induction body generalizing g with
  | nil => exact h
  | cons s body ih => exact ih ((step_add g s).sound h)

theorem sound_of_mem_pieces {body : List Stmt} {p : Piece} (h : p ∈ pieces body) : p.Sound :=
  Traced.sound_foldl body (by simp [Traced.closed]) p h

/-- Gathering leaves no clause. -/
theorem clause_notMem_gather (c : Clause) (body : List Stmt) : .clause c ∉ gather body := by
  rw [← map_stmt_pieces]
  intro h
  obtain ⟨p, hp, hs⟩ := List.mem_map.1 h
  cases p with
  | kept s => exact sound_of_mem_pieces hp c hs
  | built r => cases hs

/-! ## What the pieces are made of -/

/-- A statement as it stands among the clauses: a function right after a clause of its name is the clause
that binds each parameter and has no guard. -/
def settle : Option Stmt → Stmt → Stmt
  | some (.clause c), .function name params body =>
    if name = c.name then .clause ⟨name, params.map .binding, none, body⟩ else .function name params body
  | _, s => s

/-- Every statement of a list settled by the one before it. -/
def settleAll (before : Option Stmt) : List Stmt → List Stmt
  | [] => []
  | s :: ss => settle before s :: settleAll (some s) ss

/-- The statement before a position. -/
def before? (body : List Stmt) : Nat → Option Stmt
  | 0 => none
  | i + 1 => body[i]?

theorem settle_of_ne {s : Stmt} (h : ∀ name params body, s ≠ .function name params body) (before : Option Stmt) :
    settle before s = s := by
  unfold settle
  split
  · exact absurd rfl (h _ _ _)
  · rfl

theorem getElem?_settleAll (before : Option Stmt) (body : List Stmt) (i : Nat) :
    (settleAll before body)[i]? = body[i]?.map (settle (if i = 0 then before else before? body i)) := by
  induction body generalizing before i with
  | nil => simp [settleAll]
  | cons s body ih =>
    cases i with
    | zero => simp [settleAll]
    | succ i =>
      simp only [settleAll, List.getElem?_cons_succ, ih]
      cases i <;> simp [before?]

namespace Traced

/-- What the walk knows of the statement before: it has a run exactly after a clause, of the clause's name. -/
def After (g : Traced) : Option Stmt → Prop
  | some (.clause c) => ∃ r, g.run = some r ∧ r.name = c.name
  | _ => g.run = none

theorem After.of_run {g : Traced} {before : Option Stmt} {r : Run} (h : g.After before) (hr : g.run = some r) :
    ∃ c, before = some (.clause c) ∧ r.name = c.name := by
  unfold After at h
  split at h
  · obtain ⟨r', hr', hn⟩ := h
    cases hr.symm.trans hr'
    exact ⟨_, rfl, hn⟩
  · rw [hr] at h
    cases h

/-- A statement that is kept stands as it was. -/
theorem After.settle_eq {g : Traced} {before : Option Stmt} {s : Stmt} (h : g.After before)
    (hf : ∀ r params body, g.run = some r → s ≠ .function r.name params body) : settle before s = s := by
  unfold settle
  split
  · rename_i c name params body
    obtain ⟨r, hr, hn⟩ := h
    split
    · rename_i hc
      exact absurd (by rw [hn, hc]) (hf r params body hr)
    · rfl
  · rfl

/-- One statement: the pieces are made of what they were made of, and of the settled statement. -/
theorem Step.sources {g g' : Traced} {s : Stmt} {before : Option Stmt} (hs : Step g s g') (h : g.After before) :
    g'.closed.flatMap Piece.sources = g.closed.flatMap Piece.sources ++ [settle before s] := by
  cases hs with
  | join hr hn =>
    rw [settle_of_ne (by simp), closed_of_run rfl, closed_of_run hr]
    simp [Piece.sources, Run.push]
  | start hn =>
    rw [settle_of_ne (by simp), closed_of_run rfl]
    simp [Piece.sources]
  | @finish r name params body hr hn =>
    obtain ⟨c, rfl, hc⟩ := h.of_run hr
    have hsettle : settle (some (.clause c)) (.function name params body) = .clause (catchAllClause name params body) := by
      simp [settle, hn, hc, catchAllClause]
    rw [hsettle, closed_of_none rfl, closed_of_run hr]
    simp [Piece.sources, Run.push]
  | keep hc hf =>
    rw [h.settle_eq hf, closed_of_none rfl]
    simp [Piece.sources]

theorem Step.after {g g' : Traced} {s : Stmt} (hs : Step g s g') : g'.After (some s) := by
  cases hs with
  | join hr hn => exact ⟨_, rfl, hn.symm⟩
  | start hn => exact ⟨_, rfl, rfl⟩
  | finish hr hn => exact rfl
  | keep hc hf =>
    cases s with
    | clause c => exact absurd rfl (hc c)
    | _ => exact rfl

theorem sources_foldl (body : List Stmt) {g : Traced} {before : Option Stmt} (h : g.After before) :
    (body.foldl add g).closed.flatMap Piece.sources = g.closed.flatMap Piece.sources ++ settleAll before body := by
  induction body generalizing g before with
  | nil => simp [settleAll]
  | cons s body ih =>
    have hs := step_add g s
    rw [List.foldl_cons, ih hs.after, hs.sources h]
    simp [settleAll]

end Traced

theorem sources_pieces (body : List Stmt) : (pieces body).flatMap Piece.sources = settleAll none body :=
  Traced.sources_foldl body (g := ⟨[], none⟩) rfl

/-! ## Dispatchers of the list -/

def Stmt.isDispatch : Stmt → Bool
  | .dispatch _ _ => true
  | _ => false

theorem filter_isDispatch_settleAll (before : Option Stmt) (body : List Stmt) :
    (settleAll before body).filter Stmt.isDispatch = body.filter Stmt.isDispatch := by
  induction body generalizing before with
  | nil => rfl
  | cons s body ih =>
    simp only [settleAll, List.filter_cons, ih]
    cases s with
    | function name params body =>
      have hsettle : (settle before (.function name params body)).isDispatch = false := by
        unfold settle
        split
        · split <;> rfl
        · rfl
      rw [hsettle]
      rfl
    | _ => rw [settle_of_ne (by simp)]

theorem filter_isDispatch_sources (ps : List Piece) :
    (ps.flatMap Piece.sources).filter Stmt.isDispatch = (ps.filterMap Piece.kept?).filter Stmt.isDispatch := by
  induction ps with
  | nil => rfl
  | cons p ps ih =>
    cases p with
    | kept s => simp [Piece.sources, Piece.kept?, List.filter_cons, ih]
    | built r =>
      have hclauses : (r.clauses.map Stmt.clause).filter Stmt.isDispatch = [] := by
        simp [List.filter_eq_nil_iff, Stmt.isDispatch]
      rw [List.flatMap_cons, List.filter_append, Piece.sources, hclauses, ih]
      rfl

/-! ## The marks are no choice -/

theorem Run.stmt_injective {r r' : Run} (h : r.stmt = r'.stmt) : r = r' := by
  obtain ⟨name, clauses⟩ := r
  obtain ⟨name', clauses'⟩ := r'
  simpa [stmt] using h

/-- A kept dispatcher and a built one differ in what they are made of. -/
theorem Piece.sources_kept_ne_built {r : Run} (h : r.clauses ≠ []) (rest rest' : List Stmt) :
    (kept r.stmt).sources ++ rest ≠ (built r).sources ++ rest' := by
  obtain ⟨c, cs, hc⟩ := List.exists_cons_of_ne_nil h
  simp [sources, hc, Run.stmt]

theorem pieces_ext {ps qs : List Piece} (hp : ∀ r, .built r ∈ ps → r.clauses ≠ [])
    (hq : ∀ r, .built r ∈ qs → r.clauses ≠ []) (hstmt : ps.map Piece.stmt = qs.map Piece.stmt)
    (hsources : ps.flatMap Piece.sources = qs.flatMap Piece.sources) : ps = qs := by
  induction ps generalizing qs with
  | nil => exact (List.map_eq_nil_iff.1 hstmt.symm).symm
  | cons p ps ih =>
    obtain _ | ⟨q, qs⟩ := qs
    · cases hstmt
    · rw [List.map_cons, List.map_cons, List.cons_eq_cons] at hstmt
      rw [List.flatMap_cons, List.flatMap_cons] at hsources
      have hpq : p = q := by
        cases p with
        | kept s =>
          cases q with
          | kept s' => exact congrArg Piece.kept hstmt.1
          | built r =>
            obtain rfl : s = r.stmt := hstmt.1
            exact absurd hsources (Piece.sources_kept_ne_built (hq r (by simp)) _ _)
        | built r =>
          cases q with
          | kept s' =>
            obtain rfl : r.stmt = s' := hstmt.1
            exact absurd hsources.symm (Piece.sources_kept_ne_built (hp r (by simp)) _ _)
          | built r' => exact congrArg Piece.built (Run.stmt_injective hstmt.1)
      subst hpq
      have hrest := ih (fun r hr => hp r (List.mem_cons_of_mem _ hr)) (fun r hr => hq r (List.mem_cons_of_mem _ hr))
        hstmt.2 (List.append_cancel_left hsources)
      rw [hrest]

/-- Gathering loses, repeats and reorders nothing: with each built dispatcher replaced by its clauses, every
statement is at its place, a function right after a clause of its name as the clause that it became; the
dispatchers that were in the list are kept as they are; and no other way to tell built dispatchers from kept
ones gives the statements back. -/
theorem gather_keeps_everything (body : List Stmt) :
    (pieces body).map Piece.stmt = gather body ∧
      (∀ i, ((pieces body).flatMap Piece.sources)[i]? = body[i]?.map (settle (before? body i))) ∧
      ((pieces body).filterMap Piece.kept?).filter Stmt.isDispatch = body.filter Stmt.isDispatch ∧
      ∀ ps : List Piece, ps.map Piece.stmt = gather body → (∀ r, .built r ∈ ps → r.clauses ≠ []) →
        ps.flatMap Piece.sources = (pieces body).flatMap Piece.sources → ps = pieces body := by
  refine ⟨map_stmt_pieces body, ?_, ?_, ?_⟩
  · intro i
    rw [sources_pieces, getElem?_settleAll]
    cases i <;> rfl
  · rw [← filter_isDispatch_sources, sources_pieces, filter_isDispatch_settleAll]
  · intro ps hstmt hbuilt hsources
    exact pieces_ext hbuilt (fun r hr => sound_of_mem_pieces hr) (hstmt.trans (map_stmt_pieces body).symm) hsources

/-! ## Walks over a gathered list -/

theorem flatMap_settleAll {α : Type} (f : Stmt → List α)
    (hfunction : ∀ name params body, f (.function name params body) = f (.clause (catchAllClause name params body)))
    (before : Option Stmt) (body : List Stmt) : (settleAll before body).flatMap f = body.flatMap f := by
  induction body generalizing before with
  | nil => rfl
  | cons s body ih =>
    have hsettle : f (settle before s) = f s := by
      unfold settle
      split
      · split
        · exact (hfunction ..).symm
        · rfl
      · rfl
    rw [settleAll, List.flatMap_cons, List.flatMap_cons, hsettle, ih]

/-- What is collected from each statement, in order, is the same on a gathered list, if a dispatcher counts as
its clauses and a function as the clause that takes all arguments. -/
theorem flatMap_gather {α : Type} (f : Stmt → List α)
    (hdispatch : ∀ name c cs, f (.dispatch name (c :: cs)) = (c :: cs).flatMap fun c => f (.clause c))
    (hfunction : ∀ name params body, f (.function name params body) = f (.clause (catchAllClause name params body)))
    (body : List Stmt) : (gather body).flatMap f = body.flatMap f := by
  have hpiece : ∀ p ∈ pieces body, f p.stmt = p.sources.flatMap f := by
    intro p hp
    have hsound := sound_of_mem_pieces hp
    cases p with
    | kept s => simp [Piece.stmt, Piece.sources]
    | built r =>
      obtain ⟨name, clauses⟩ := r
      obtain ⟨c, cs, rfl⟩ := List.exists_cons_of_ne_nil hsound
      rw [Piece.sources, List.flatMap_map]
      exact hdispatch name c cs
  calc (gather body).flatMap f
      = (pieces body).flatMap (fun p => f p.stmt) := by rw [← map_stmt_pieces, List.flatMap_map]
    _ = (pieces body).flatMap (fun p => p.sources.flatMap f) := List.flatMap_congr hpiece
    _ = (settleAll none body).flatMap f := by rw [← List.flatMap_assoc, sources_pieces]
    _ = body.flatMap f := flatMap_settleAll f hfunction none body

/-! ## One list after another -/

/-- A list goes on with the run of clauses that the list before it ends in. -/
def Joins (a b : List Stmt) : Prop :=
  ∃ c, a.getLast? = some (.clause c) ∧
    ((∃ c', b.head? = some (.clause c') ∧ c'.name = c.name) ∨ ∃ params body, b.head? = some (.function c.name params body))

namespace Traced

/-- The walk with pieces before all that it has given out. -/
def later (g : Traced) (ps : List Piece) : Traced := ⟨ps ++ g.done, g.run⟩

theorem closed_later (g : Traced) (ps : List Piece) : (g.later ps).closed = ps ++ g.closed := by
  simp [later, closed]

@[simp] theorem later_mk (done : List Piece) (run : Option Run) (ps : List Piece) :
    later ⟨done, run⟩ ps = ⟨ps ++ done, run⟩ := rfl

theorem add_later (g : Traced) (ps : List Piece) (s : Stmt) : (g.later ps).add s = (g.add s).later ps := by
  have hrun : (g.later ps).run = g.run := rfl
  have hdone : (g.later ps).done = ps ++ g.done := rfl
  have hclosed := closed_later g ps
  cases s with
  | clause c =>
    cases hr : g.run with
    | none => simp [add, hrun, hr, hclosed]
    | some r => by_cases hn : c.name = r.name <;> simp [add, hrun, hr, hn, hdone, hclosed]
  | function name params body =>
    cases hr : g.run with
    | none => simp [add, hrun, hr, hclosed]
    | some r => by_cases hn : name = r.name <;> simp [add, hrun, hr, hn, hdone, hclosed]
  | _ => simp [add, hclosed]

theorem foldl_later (body : List Stmt) (g : Traced) (ps : List Piece) :
    body.foldl add (g.later ps) = (body.foldl add g).later ps := by
  induction body generalizing g with
  | nil => rfl
  | cons s body ih => rw [List.foldl_cons, List.foldl_cons, add_later, ih]

/-- A statement that does not go on with the run finds the walk as if it had just begun. -/
theorem Step.fresh {g g' : Traced} {s : Stmt} (hs : Step g s g')
    (hclause : ∀ r c, g.run = some r → s = .clause c → c.name ≠ r.name)
    (hfunction : ∀ r params body, g.run = some r → s ≠ .function r.name params body) :
    g' = (add ⟨[], none⟩ s).later g.closed := by
  cases hs with
  | join hr hn => exact absurd hn (hclause _ _ hr rfl)
  | start hn => simp [add, closed]
  | finish hr hn =>
    subst hn
    exact absurd rfl (hfunction _ _ _ hr)
  | keep hc hf =>
    cases s with
    | clause c => exact absurd rfl (hc c)
    | _ => simp [add, closed]

theorem after_foldl (body : List Stmt) : (body.foldl add ⟨[], none⟩).After body.getLast? := by
  rcases List.eq_nil_or_concat body with rfl | ⟨init, s, rfl⟩
  · exact rfl
  · rw [List.concat_eq_append, List.foldl_append, List.getLast?_concat]
    exact (step_add _ s).after

end Traced

theorem pieces_append {a b : List Stmt} (h : ¬ Joins a b) : pieces (a ++ b) = pieces a ++ pieces b := by
  cases b with
  | nil => simp [pieces, Traced.closed]
  | cons s b =>
    unfold pieces
    rw [List.foldl_append, List.foldl_cons, List.foldl_cons]
    have hafter := Traced.after_foldl a
    generalize a.foldl Traced.add ⟨[], none⟩ = g at hafter
    have hfresh := (Traced.step_add g s).fresh
      (fun r c hr hs hn => by
        obtain ⟨c', hlast, hc⟩ := hafter.of_run hr
        exact h ⟨c', hlast, .inl ⟨c, by rw [hs, List.head?_cons], hn.trans hc⟩⟩)
      (fun r params body hr hs => by
        obtain ⟨c', hlast, hc⟩ := hafter.of_run hr
        exact h ⟨c', hlast, .inr ⟨params, body, by rw [hs, List.head?_cons, hc]⟩⟩)
    rw [hfresh, Traced.foldl_later, Traced.closed_later]

/-- Lists are gathered each by itself, unless the second goes on with the last run of the first. -/
theorem gather_append {a b : List Stmt} (h : ¬ Joins a b) : gather (a ++ b) = gather a ++ gather b := by
  rw [← map_stmt_pieces, ← map_stmt_pieces, ← map_stmt_pieces, pieces_append h, List.map_append]

/-! ## Declared names -/

def Piece.name? (p : Piece) : Option String := p.stmt.declared?

@[simp] theorem Piece.name?_kept (s : Stmt) : (Piece.kept s).name? = s.declared? := rfl

@[simp] theorem Piece.name?_built (r : Run) : (Piece.built r).name? = some r.name := rfl

namespace Traced

/-- The names declared by what the walk has given out. -/
def names (g : Traced) : List String := g.closed.filterMap Piece.name?

theorem Step.mem_names {g g' : Traced} {s : Stmt} {x : String} (hs : Step g s g') :
    x ∈ g'.names ↔ x ∈ g.names ∨ s.declared? = some x := by
  unfold names
  cases hs with
  | @join r c hr hn =>
    -- the run keeps its name, and the clause has no other one
    have hname : Stmt.declared? (.clause c) = some r.name := congrArg some hn
    rw [closed_of_run hr, closed_of_run rfl]
    simp [Run.push, hname, eq_comm]
  | @start c hn =>
    have hname : Stmt.declared? (.clause c) = some c.name := rfl
    rw [closed_of_run rfl]
    simp [hname, eq_comm]
  | @finish r name params body hr hn =>
    have hname : Stmt.declared? (.function name params body) = some r.name := congrArg some hn
    rw [closed_of_run hr, closed_of_none rfl]
    simp [Run.push, hname, eq_comm]
  | keep hc hf =>
    rw [closed_of_none rfl]
    simp

theorem mem_names_foldl (body : List Stmt) (g : Traced) (x : String) :
    x ∈ (body.foldl add g).names ↔ x ∈ g.names ∨ x ∈ body.filterMap Stmt.declared? := by
  induction body generalizing g with
  | nil => simp
  | cons s body ih =>
    rw [List.foldl_cons, ih, (step_add g s).mem_names, or_assoc]
    simp

end Traced

/-- A gathered list declares the same names. -/
theorem mem_declared_gather {body : List Stmt} {x : String} :
    x ∈ (gather body).filterMap Stmt.declared? ↔ x ∈ body.filterMap Stmt.declared? := by
  have hwalk := Traced.mem_names_foldl body ⟨[], none⟩ x
  have hnames : (gather body).filterMap Stmt.declared? = (body.foldl Traced.add ⟨[], none⟩).names := by
    rw [← map_stmt_pieces, List.filterMap_map]
    rfl
  rw [hnames, hwalk]
  simp [Traced.names, Traced.closed]

end TreeScript.Tree
