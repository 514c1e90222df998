/-
  TreeScript.Library.Basic — the runtime library that scripts call into.

  Every module of the library is a file with exports and perhaps dependencies. Beside the
  modules stand three tables: facilities are names that stand for a module, built-ins are
  bare function names that belong to a module, and aliases are names that are spelled
  otherwise in a script. All tables keep the order in which their keys were first entered.
-/

import TreeScript.Diagnostic
import TreeScript.Script.Basic
import TreeScript.Table

namespace TreeScript

namespace Library

/-- The directory, beside a script, that library files are staged into. -/
def directory : String := ".dazzl_modules"

/-- A file of the library. -/
structure Module where
  key : String
  file : String
  exports : List String
  dependencies : List String
  deriving DecidableEq, Repr

/-- The statement that binds a module's exports. -/
def Module.binding (m : Module) : Script.Import :=
  ⟨m.exports, "./" ++ directory ++ "/" ++ m.file⟩

end Library

structure Library where
  modules : Table String Library.Module := []
  facilities : Table String String := []
  builtins : Table String String := []
  aliases : Table String String := []
  deriving DecidableEq, Repr

namespace Library

def module? (lib : Library) (key : String) : Option Module := lib.modules.lookup key

/-- The module that a kind of node calls for. -/
def nodeModule? (lib : Library) (kind : String) : Option String := (lib.module? kind).map fun _ => kind

def builtinOwner? (lib : Library) (name : String) : Option String := lib.builtins.lookup name

def facility? (lib : Library) (name : String) : Option String := lib.facilities.lookup name

/-- A name as scripts spell it. -/
def spelling (lib : Library) (name : String) : String := (lib.aliases.lookup name).getD name

def dependencies (lib : Library) (key : String) : List String :=
  ((lib.module? key).map Module.dependencies).getD []

/-! ## Building a library -/

inductive Step where
  | module (m : Module)
  | facility (name key : String)
  | builtins (key : String) (names : List String)
  | spelling (name target : String)
  deriving DecidableEq, Repr

def add (lib : Library) : Step → Library
  | .module m => { lib with modules := Table.enter m.key m lib.modules }
  | .facility name key => { lib with facilities := Table.enter name key lib.facilities }
  | .builtins key names =>
    { lib with builtins := names.foldl (fun t name => Table.enter name key t) lib.builtins }
  | .spelling name target => { lib with aliases := Table.enter name target lib.aliases }

/-- Why a library does not hold together. -/
inductive Gap where
  | dependency (key missing : String)
  | target (name missing : String)
  deriving DecidableEq, Repr

def Gap.diagnostic : Gap → Diagnostic
  | .dependency key missing =>
    { header := "module " ++ key ++ " depends on unknown module " ++ missing,
      footer := "Help: register every module before it is named as a dependency." }
  | .target name missing =>
    { header := "name " ++ name ++ " refers to unknown module " ++ missing, footer := "" }

/-- The first reference to a module that is not there: modules first, then facilities, then built-ins. -/
def gap? (lib : Library) : Option Gap :=
  let unknown (key : String) : Bool := (lib.module? key).isNone
  (lib.modules.findSome? fun (_, m) => (m.dependencies.find? unknown).map (Gap.dependency m.key)) <|>
    ((lib.facilities ++ lib.builtins).find? fun (_, key) => unknown key).map fun (name, key) =>
      Gap.target name key

def build (steps : List Step) : Except Gap Library :=
  let lib := steps.foldl add {}
  match lib.gap? with
  | some gap => .error gap
  | none => .ok lib

end Library

end TreeScript
