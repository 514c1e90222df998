/-
  TreeScript.Tree.Dispatch — clauses of one function, gathered into a dispatcher.

  A run of adjacent clauses with one name is one function. A plain function of that name
  right after the run is its last clause, the one that takes all arguments, and ends the
  run. Other statements end a run and stay where they are.
-/

import TreeScript.Tree.Basic

namespace TreeScript.Tree

/-- A run of clauses that may still grow. -/
structure Run where
  name : String
  clauses : List Clause

namespace Run

def stmt (r : Run) : Stmt := .dispatch r.name r.clauses

def push (r : Run) (c : Clause) : Run := ⟨r.name, r.clauses ++ [c]⟩

end Run

/-- A function as a clause: every parameter is bound, and all arguments are taken. -/
def catchAllClause (name : String) (params : List String) (body : List Stmt) : Clause :=
  ⟨name, params.map .binding, none, body⟩

/-- The statements gathered so far, and the run at their end. -/
structure Gathered where
  done : List Stmt
  run : Option Run

namespace Gathered

def closed (g : Gathered) : List Stmt := g.done ++ (g.run.map Run.stmt).toList

def add (g : Gathered) : Stmt → Gathered
  | .clause c =>
    match g.run with
    | some r => if c.name = r.name then ⟨g.done, some (r.push c)⟩ else ⟨g.closed, some ⟨c.name, [c]⟩⟩
    | none => ⟨g.closed, some ⟨c.name, [c]⟩⟩
  | .function name params body =>
    match g.run with
    | some r =>
      if name = r.name then ⟨g.done ++ [(r.push (catchAllClause name params body)).stmt], none⟩
      else ⟨g.closed ++ [.function name params body], none⟩
    | none => ⟨g.closed ++ [.function name params body], none⟩
  | s => ⟨g.closed ++ [s], none⟩

end Gathered

/-- A statement list with its runs of clauses gathered. -/
def gather (body : List Stmt) : List Stmt := (body.foldl Gathered.add ⟨[], none⟩).closed

/-- A program with the runs of clauses at its top level gathered. -/
def Program.gathered (p : Program) : Program := ⟨gather p.body⟩

end TreeScript.Tree
