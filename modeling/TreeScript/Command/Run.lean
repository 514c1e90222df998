/-
  TreeScript.Command.Run — the commands of the compiler.

  `compile` reads a tree, writes its script, and stages the library files that the script
  imports beside it when it is told where they are. `modules` lists the library. The
  commands work on any `Disk`.
-/

import TreeScript.Command.Disk
import TreeScript.Command.Path
import TreeScript.Compile

namespace TreeScript.Command

/-- What to compile, where to write it, and where the library files are. -/
structure Request where
  input : String
  output : Option String := none
  runtime : Option String := none
  deriving DecidableEq, Repr

inductive Action where
  | compile (request : Request)
  | modules
  deriving DecidableEq, Repr

/-- What a command leaves behind besides files. -/
structure Outcome where
  status : Nat
  out : String := ""
  err : String := ""
  deriving DecidableEq, Repr

/-- Why a command failed. -/
inductive Problem where
  | missingInput (path : String)
  | missingRuntime (path : String)
  | missingModule (key : String)
  | system (error : SystemError)
  | program (diagnostic : Diagnostic)
  deriving DecidableEq, Repr

def Problem.message : Problem → String
  | .missingInput path => errorMark ++ ": input file " ++ path ++ " does not exist"
  | .missingRuntime path => errorMark ++ ": runtime file " ++ path ++ " does not exist"
  | .missingModule key => errorMark ++ ": no runtime module named " ++ key
  | .system error => error.message
  | .program diagnostic => diagnostic.text

/-! ## Arguments -/

def runtimeFlag : String := "--runtime"

/-- The value in an argument of the form `--runtime=DIR`. -/
def runtimeValue? (arg : String) : Option String :=
  let mark := (runtimeFlag ++ "=").toList
  if mark.isPrefixOf arg.toList then some (String.ofList (arg.toList.drop mark.length)) else none

/-- Sort the arguments of `compile`: the paths, last first, and the runtime directory. -/
def sortArgs (paths : List String) (runtime : Option String) : List String → Option (List String × Option String)
  | [] => some (paths.reverse, runtime)
  | [arg] =>
    if arg = runtimeFlag then none
    else
      match runtimeValue? arg with
      | some dir => if runtime.isSome then none else some (paths.reverse, some dir)
      | none => if arg.startsWith "-" then none else some ((arg :: paths).reverse, runtime)
  | arg :: next :: rest =>
    if arg = runtimeFlag then
      if runtime.isSome then none else sortArgs paths (some next) rest
    else
      match runtimeValue? arg with
      | some dir => if runtime.isSome then none else sortArgs paths (some dir) (next :: rest)
      | none => if arg.startsWith "-" then none else sortArgs (arg :: paths) runtime (next :: rest)

def parseArgs : List String → Option Action
  | ["modules"] => some .modules
  | "compile" :: args =>
    match sortArgs [] none args with
    | some ([input], runtime) => some (.compile ⟨input, none, runtime⟩)
    | some ([input, output], runtime) => some (.compile ⟨input, some output, runtime⟩)
    | _ => none
  | _ => none

/-! ## Commands -/

section

variable {m : Type → Type} [Monad m]

def fails {α : Type} (p : Problem) : ExceptT Problem m α := throw p

def asking {α : Type} (answer : m (Except SystemError α)) : ExceptT Problem m α := do
  match ← (liftM answer : ExceptT Problem m (Except SystemError α)) with
  | .ok a => return a
  | .error e => fails (.system e)

/-- Copy the files of modules, in order, until one of them fails. -/
def stageFiles (disk : Disk m) (lib : Library) (runtime directory : String) :
    List String → ExceptT Problem m Unit
  | [] => return
  | key :: keys => do
    match lib.module? key with
    | none => fails (.missingModule key)
    | some entry =>
      let file := entry.file ++ ".js"
      let source := joinPath runtime file
      if ← (liftM (disk.isThere source) : ExceptT Problem m Bool) then
        asking (disk.copy source (joinPath directory file))
        stageFiles disk lib runtime directory keys
      else fails (.missingRuntime source)

def stage (disk : Disk m) (lib : Library) (runtime output : String) (modules : List String) :
    ExceptT Problem m Unit := do
  if modules.isEmpty then return
  else
    let directory := joinPath (parentPath output) Library.directory
    asking (disk.makeDirectory directory)
    stageFiles disk lib runtime directory modules

def successLine (input output : String) : String :=
  magenta "✨ Dazzling..." ++ " " ++ displayName input ++ " -> " ++ bold (displayName output) ++ "\n"

/-- Compile a file; the answer is the line that reports it. -/
def compile (disk : Disk m) (r : Request) : ExceptT Problem m String := do
  if ← (liftM (disk.isThere r.input) : ExceptT Problem m Bool) then
    let output := r.output.getD (withExtension r.input "js")
    let text ← asking (disk.read r.input)
    match compileText text with
    | .error d => fails (.program d)
    | .ok compiled =>
      asking (disk.write output (compiled.source ++ "\n"))
      match r.runtime with
      | some runtime => stage disk .standard runtime output compiled.modules
      | none => pure ()
      return successLine r.input output
  else fails (.missingInput r.input)

/-- The lines that describe a module. -/
def moduleLines (entry : Library.Module) : List String :=
  [bold entry.key ++ " " ++ Library.directory ++ "/" ++ entry.file ++ ".js",
    "  exports: " ++ String.intercalate ", " entry.exports] ++
  if entry.dependencies.isEmpty then []
  else ["  depends on: " ++ String.intercalate ", " entry.dependencies]

def listing (lib : Library) : String :=
  String.join ((lib.modules.flatMap fun e => moduleLines e.2).map (· ++ "\n"))

def usage : String :=
  "usage: compile INPUT [OUTPUT] [--runtime DIR]\n       modules\n"

def perform (disk : Disk m) : Action → m Outcome
  | .modules => return { status := 0, out := listing .standard }
  | .compile r => do
    match ← (compile disk r).run with
    | .ok line => return { status := 0, out := line }
    | .error p => return { status := 1, err := p.message ++ "\n" }

/-- Run a command line. -/
def run (disk : Disk m) (args : List String) : m Outcome :=
  match parseArgs args with
  | some command => perform disk command
  | none => return { status := 2, err := usage }

end

end TreeScript.Command
