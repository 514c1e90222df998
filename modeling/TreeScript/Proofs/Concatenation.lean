/-
  TreeScript.Proofs.Concatenation — programs that are compiled one after another.

  Three things reach across the statements of a program: a run of clauses that may go on,
  the names that the top level binds everywhere, and the modules that are needed. Where the
  second program does not go on with the first one's last run, both are gathered each by
  itself. Where no top-level name has an alias, binding it changes no spelling
  (`stmts_of_plain`), so neither program sees what the other one declares. And the keys
  that are reached from two lists are those reached from one of them (`mem_needed_append`).
-/

import TreeScript.Compile
import TreeScript.Proofs.Closure
import TreeScript.Proofs.FreeNames

namespace TreeScript

namespace Tree.Program

/-- A program followed by another one. -/
def append (p q : Program) : Program := ⟨p.body ++ q.body⟩

theorem gathered_append {p q : Program} (h : ¬ Joins p.body q.body) : (p.append q).gathered = p.gathered.append q.gathered := by
  unfold gathered append
  rw [gather_append h]

end Tree.Program

namespace Library

open TreeScript.Lowering (declared)

/-- No name that a program declares at its top level has an alias. -/
def Plain (lib : Library) (p : Tree.Program) : Prop := ∀ name ∈ declared p.body, lib.spelling name = name

instance (lib : Library) (p : Tree.Program) : Decidable (lib.Plain p) :=
  inferInstanceAs (Decidable (∀ name ∈ declared p.body, lib.spelling name = name))

theorem Plain.gathered {lib : Library} {p : Tree.Program} (h : lib.Plain p) : lib.Plain p.gathered := by
  intro name hname
  exact h name (Tree.mem_declared_gather.1 hname)

theorem Plain.append {lib : Library} {p q : Tree.Program} (hp : lib.Plain p) (hq : lib.Plain q) :
    lib.Plain (p.append q) := by
  intro name hname
  rw [Tree.Program.append, declared, List.filterMap_append, List.mem_append] at hname
  rcases hname with hname | hname
  · exact hp name hname
  · exact hq name hname

/-- Two programs need together what one of them needs. -/
theorem mem_needed_append {lib : Library} {p q : Tree.Program} {k : String} :
    k ∈ lib.needed (p.append q) ↔ k ∈ lib.needed p ∨ k ∈ lib.needed q := by
  have hused (u : String) : u ∈ lib.used (p.append q) ↔ u ∈ lib.used p ++ lib.used q := by
    rw [List.mem_append, mem_used, mem_used, mem_used, Tree.Program.append, Tree.Stmt.nodesAll_eq_flatMap,
      List.flatMap_append, ← Tree.Stmt.nodesAll_eq_flatMap, ← Tree.Stmt.nodesAll_eq_flatMap]
    simp only [List.mem_append, or_and_right, exists_or]
  rw [needed, needed, needed, mem_closure, mem_closure, mem_closure, ← reaches_append]
  simp only [Reaches, hused]

end Library

namespace Lowering

open TreeScript.Scope (Agree)

theorem stmts_append (s : Scope) (ts ts' : List Tree.Stmt) :
    stmts s (ts ++ ts') = do
      let a ← stmts s ts
      let b ← stmts s ts'
      return a ++ b := by
  simp only [stmts_eq_mapM, List.mapM_append]

/-- Binding names that have no alias changes no spelling. -/
theorem spelled_of_plain {lib : Library} {bound : List String} (h : ∀ name ∈ bound, lib.spelling name = name)
    (x : String) : (Scope.mk lib bound).spelled x = lib.spelling x := by
  unfold Scope.spelled
  by_cases hx : x ∈ bound
  · rw [if_pos hx, h x hx]
  · rw [if_neg hx]

theorem stmts_of_plain {lib : Library} {p : Tree.Program} (h : lib.Plain p) (ts : List Tree.Stmt) :
    stmts ⟨lib, declared p.body⟩ ts = stmts ⟨lib, []⟩ ts := by
  have hagree : Agree (Tree.Stmt.freeAll ts) ⟨lib, declared p.body⟩ ⟨lib, []⟩ := by
    refine ⟨rfl, fun x _ => ?_⟩
    rw [spelled_of_plain h, spelled_of_plain (by simp)]
  exact stmts_congr ts hagree

/-- A program as a script, where its top level binds nothing that has an alias. -/
theorem program_of_plain {lib : Library} {p : Tree.Program} (h : lib.Plain p) :
    program lib p = do
      let body ← stmts ⟨lib, []⟩ p.body
      return ⟨⟨(lib.needed p).filterMap fun key => (lib.module? key).map Library.Module.binding, body⟩, lib.needed p⟩ := by
  rw [program, stmts_of_plain h]

/-- How two programs come out one after another: with both their statements and with the modules that one of
them needs, or with the first of their failures. -/
def Joined {ε : Type} (x y z : Except ε Output) : Prop :=
  match x, y with
  | .error f, _ => z = .error f
  | .ok _, .error f => z = .error f
  | .ok a, .ok b => ∃ out, z = .ok out ∧ out.script.body = a.script.body ++ b.script.body ∧
      ∀ k, k ∈ out.modules ↔ k ∈ a.modules ∨ k ∈ b.modules

theorem Joined.mapError {ε ε' : Type} {x y z : Except ε Output} (h : Joined x y z) (g : ε → ε') :
    Joined (x.mapError g) (y.mapError g) (z.mapError g) := by
  cases x with
  | error f =>
    obtain rfl : z = .error f := h
    exact rfl
  | ok a =>
    cases y with
    | error f =>
      obtain rfl : z = .error f := h
      exact rfl
    | ok b =>
      obtain ⟨out, rfl, hbody, hmodules⟩ := h
      exact ⟨out, rfl, hbody, hmodules⟩

theorem joined_program {lib : Library} {p q : Tree.Program} (hp : lib.Plain p) (hq : lib.Plain q) :
    Joined (program lib p) (program lib q) (program lib (p.append q)) := by
  have hbody := stmts_append ⟨lib, []⟩ p.body q.body
  rw [program_of_plain hp, program_of_plain hq, program_of_plain (hp.append hq), Tree.Program.append, hbody]
  cases stmts ⟨lib, []⟩ p.body with
  | error f => exact rfl
  | ok a =>
    cases stmts ⟨lib, []⟩ q.body with
    | error f => exact rfl
    | ok b => exact ⟨_, rfl, rfl, fun k => Library.mem_needed_append⟩

theorem joined_compile {lib : Library} {p q : Tree.Program} (hp : lib.Plain p) (hq : lib.Plain q)
    (h : ¬ Tree.Joins p.body q.body) :
    Joined (compile lib p) (compile lib q) (compile lib (p.append q)) := by
  rw [compile, compile, compile, Tree.Program.gathered_append h]
  exact joined_program hp.gathered hq.gathered

end Lowering

/-- Two programs are compiled one after another as each is by itself, if no top-level name of theirs has an alias
and the second does not go on with the first one's last run of clauses: both must succeed, the statements of the
second follow those of the first, the modules are those of both, and of two failures the first is reported. -/
theorem compileWith_append (lib : Library) (p q : Tree.Program) (hp : lib.Plain p) (hq : lib.Plain q)
    (h : ¬ Tree.Joins p.body q.body) :
    ((∃ out, compileWith lib (p.append q) = .ok out) ↔
        (∃ a, compileWith lib p = .ok a) ∧ ∃ b, compileWith lib q = .ok b) ∧
      (∀ a b out, compileWith lib p = .ok a → compileWith lib q = .ok b → compileWith lib (p.append q) = .ok out →
        out.script.body.map (Script.Stmt.text 0) =
            a.script.body.map (Script.Stmt.text 0) ++ b.script.body.map (Script.Stmt.text 0) ∧
          ∀ k, k ∈ out.modules ↔ k ∈ a.modules ∨ k ∈ b.modules) ∧
      ∀ d, compileWith lib (p.append q) = .error d ↔
        compileWith lib p = .error d ∨ (∃ a, compileWith lib p = .ok a) ∧ compileWith lib q = .error d := by
  have hjoined : Lowering.Joined (compileWith lib p) (compileWith lib q) (compileWith lib (p.append q)) :=
    (Lowering.joined_compile hp hq h).mapError _
  cases hx : compileWith lib p with
  | error f =>
    rw [hx] at hjoined
    have hz : compileWith lib (p.append q) = .error f := hjoined
    simp [hz]
  | ok a =>
    cases hy : compileWith lib q with
    | error f =>
      rw [hx, hy] at hjoined
      have hz : compileWith lib (p.append q) = .error f := hjoined
      simp [hz]
    | ok b =>
      rw [hx, hy] at hjoined
      obtain ⟨out, hz, hbody, hmodules⟩ := hjoined
      have htexts : out.script.body.map (Script.Stmt.text 0) =
          a.script.body.map (Script.Stmt.text 0) ++ b.script.body.map (Script.Stmt.text 0) := by
        rw [hbody, List.map_append]
      simp [hz, htexts, hmodules]

/-- A function in two clauses. -/
def doubling : Tree.Program := ⟨[
  .clause ⟨"twice", [.literal .nil], none, [.ret .undefined]⟩,
  .clause ⟨"twice", [.binding "n"], none, [.expr (.call (.identifier "print") [.identifier "n"])]⟩]⟩

/-- A clause of another function, which calls the first one, and a block that declares a name with an alias. -/
def tripling : Tree.Program := ⟨[
  .clause ⟨"thrice", [.binding "n"], some (.call (.identifier "is_even") [.identifier "n"]),
    [.expr (.call (.identifier "twice") [.identifier "String"])]⟩,
  .block [.declare .let_ "String" (.range (.identifier "String") .undefined none)]]⟩

theorem compileWith_append_doubling_tripling :
    Library.standard.Plain doubling ∧ Library.standard.Plain tripling ∧ ¬ Tree.Joins doubling.body tripling.body ∧
      ∃ a b out, compileWith .standard doubling = .ok a ∧ compileWith .standard tripling = .ok b ∧
        compileWith .standard (doubling.append tripling) = .ok out ∧
        out.script.body.map (Script.Stmt.text 0) =
          a.script.body.map (Script.Stmt.text 0) ++ b.script.body.map (Script.Stmt.text 0) ∧
        ∀ k, k ∈ out.modules ↔ k ∈ a.modules ∨ k ∈ b.modules := by
  have hjoins : ¬ Tree.Joins doubling.body tripling.body := by
    rintro ⟨c, hlast, ⟨c', hhead, hname⟩ | ⟨params, body, hhead⟩⟩
    · cases hlast
      cases hhead
      exact absurd hname (by decide)
    · cases hhead
  obtain ⟨hsucceeds, hparts, -⟩ := compileWith_append .standard doubling tripling (by decide) (by decide) hjoins
  obtain ⟨out, hout⟩ := hsucceeds.2 ⟨⟨_, rfl⟩, _, rfl⟩
  exact ⟨by decide, by decide, hjoins, _, _, out, rfl, rfl, hout, hparts _ _ out rfl rfl hout⟩

end TreeScript
