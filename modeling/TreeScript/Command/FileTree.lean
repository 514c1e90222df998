/-
  TreeScript.Command.FileTree — a file system as a value.

  A location is the list of names that leads to it from the root; what stands at a location
  is a file with its content, or a directory. The root is always a directory. A path is
  followed component by component, and every component has to start from a directory.
-/

import TreeScript.Command.Disk
import TreeScript.Command.Path
import TreeScript.Table

namespace TreeScript.Command

abbrev Location := List String

inductive Entry where
  | file (content : String)
  | directory
  deriving DecidableEq, Repr

structure FileTree where
  entries : Table Location Entry := []
  deriving DecidableEq, Repr

namespace FileTree

def get? (t : FileTree) (loc : Location) : Option Entry :=
  if loc = [] then some .directory else t.entries.lookup loc

def set (t : FileTree) (loc : Location) (e : Entry) : FileTree := ⟨Table.enter loc e t.entries⟩

@[simp] theorem get?_root (t : FileTree) : t.get? [] = some .directory := rfl

theorem get?_set (t : FileTree) (loc other : Location) (e : Entry) :
    (t.set loc e).get? other = if other ≠ [] ∧ other = loc then some e else t.get? other := by
  by_cases hr : other = []
  · simp [get?, hr]
  · simp [get?, set, hr, Table.lookup_enter]

theorem get?_set_self (t : FileTree) {loc : Location} (e : Entry) (h : loc ≠ []) :
    (t.set loc e).get? loc = some e := by
  simp [get?_set, h]

theorem get?_set_of_ne (t : FileTree) {loc other : Location} (e : Entry) (h : other ≠ loc) :
    (t.set loc e).get? other = t.get? other := by
  simp [get?_set, h]

/-! ## Following paths -/

def stepTo (loc : Location) (component : String) : Location :=
  if component = "" || component = "." then loc
  else if component = ".." then loc.dropLast
  else loc ++ [component]

/-- Where components lead from a location. -/
def follow (t : FileTree) (loc : Location) : List String → Except SystemError Location
  | [] => .ok loc
  | c :: cs =>
    match t.get? loc with
    | none => .error .notFound
    | some (.file _) => .error .notDirectory
    | some .directory => follow t (stepTo loc c) cs

/-- What a path leads to. -/
def find (t : FileTree) (path : String) : Except SystemError (Location × Entry) := do
  if path.isEmpty then .error .notFound
  else
    let loc ← t.follow [] (components path)
    match t.get? loc with
    | none => .error .notFound
    | some e => return (loc, e)

/-- Where a file can be written under a path: its directory has to be there, and it must not be one itself. -/
def place (t : FileTree) (path : String) : Except SystemError Location := do
  if path.isEmpty then .error .notFound
  else
    let bare := trimSlashes path
    let dir ← t.follow [] ((components bare).dropLast ++ [""])
    let name := lastComponent bare
    if bare ≠ path || name = "" || name = "." || name = ".." then .error .isDirectory
    else
      match t.get? (dir ++ [name]) with
      | some .directory => .error .isDirectory
      | _ => return dir ++ [name]

/-! ## Files -/

def read (t : FileTree) (path : String) : Except SystemError String := do
  match ← t.find path with
  | (_, .file content) => return content
  | (_, .directory) => .error .isDirectory

def write (t : FileTree) (path content : String) : Except SystemError FileTree := do
  let loc ← t.place path
  return t.set loc (.file content)

def makeDirectory (t : FileTree) (path : String) : Except SystemError FileTree := do
  let loc ← t.follow [] (components path)
  match t.get? loc with
  | some .directory => return t
  | some (.file _) => .error .alreadyThere
  | none => return t.set loc .directory

/-- Copy a file: the destination is emptied first, so a file copied onto itself ends up empty. -/
def copy (t : FileTree) (source destination : String) : Except SystemError FileTree := do
  match ← t.find source with
  | (_, .directory) => .error .notRegular
  | (src, .file _) =>
    let dst ← t.place destination
    let emptied := t.set dst (.file "")
    match emptied.get? src with
    | some (.file content) => return emptied.set dst (.file content)
    | _ => return emptied

/-- A file, with the directories that lead to it. -/
def addFile (t : FileTree) (path content : String) : FileTree :=
  let names := components path
  let dirs := (List.range names.length).map fun n => names.take n
  (dirs.foldl (fun t dir => if dir = [] then t else t.set dir .directory) t).set names (.file content)

/-- The files that are new or changed since `old`. -/
def changes (old new : FileTree) : List (String × String) :=
  new.entries.filterMap fun (loc, e) =>
    match e with
    | .file content => if old.get? loc = some e then none else some (String.intercalate "/" loc, content)
    | .directory => none

/-- The tree as the files that a command works on. -/
def disk : Disk (StateM FileTree) :=
  let update (change : FileTree → Except SystemError FileTree) : StateM FileTree (Except SystemError Unit) :=
    fun t =>
      match change t with
      | .ok t' => (.ok (), t')
      | .error e => (.error e, t)
  { isThere := fun path t => (match t.find path with | .ok _ => true | .error _ => false, t)
    read := fun path t => (t.read path, t)
    write := fun path content => update (·.write path content)
    makeDirectory := fun path => update (·.makeDirectory path)
    copy := fun source destination => update (·.copy source destination) }

end FileTree

end TreeScript.Command
