/-
  TreeScript.Compile — from the text of a syntax tree to a script.
-/

import TreeScript.Library.Standard
import TreeScript.Lowering.Program
import TreeScript.Reading.Document

namespace TreeScript

/-- The program that a text spells, or what is wrong with the text. -/
def readProgram (text : String) : Except Diagnostic Tree.Program :=
  (Reading.parse text).mapError Reading.Refusal.diagnostic

/-- A program as a script. -/
def compileWith (lib : Library) (p : Tree.Program) : Except Diagnostic Lowering.Output :=
  (Lowering.compile lib p).mapError Lowering.Failure.diagnostic

/-- The script of the program that a text spells. -/
def compileText (text : String) : Except Diagnostic Lowering.Output := do
  let p ← readProgram text
  compileWith .standard p

end TreeScript
