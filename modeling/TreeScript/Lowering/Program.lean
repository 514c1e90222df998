/-
  TreeScript.Lowering.Program — whole programs as scripts.

  A script imports the modules that its program needs and goes on with the program's
  statements. A program declares names at its top level like any statement list.
-/

import TreeScript.Library.Usage
import TreeScript.Lowering.Stmt
import TreeScript.Script.Text
import TreeScript.Tree.Dispatch

namespace TreeScript.Lowering

/-- A compiled program, and the modules of the library that it imports. -/
structure Output where
  script : Script.Program
  modules : List String

def Output.source (o : Output) : String := o.script.text

/-- A program whose clauses are gathered, as a script. -/
def program (lib : Library) (p : Tree.Program) : Except Failure Output := do
  let modules := lib.needed p
  let imports := modules.filterMap fun key => (lib.module? key).map Library.Module.binding
  let body ← stmts ⟨lib, declared p.body⟩ p.body
  return ⟨⟨imports, body⟩, modules⟩

/-- A program as it was read, as a script. -/
def compile (lib : Library) (p : Tree.Program) : Except Failure Output := program lib p.gathered

end TreeScript.Lowering
