/-
  TreeScript.Command.Path — paths as a command line gives them.

  A path is a text whose components are divided by slashes. An empty component and a dot
  stand for the directory they are in, two dots for the one around it.
-/

import TreeScript.Text.Cut

namespace TreeScript.Command

/-- The components of a path. -/
def components (path : String) : List String := (Text.cut '/' path.toList).map String.ofList

/-- A path without the slashes at its end. -/
def trimSlashes (path : String) : String :=
  String.ofList (path.toList.reverse.dropWhile (· = '/')).reverse

/-- What stands in a path after its last slash. -/
def lastComponent (path : String) : String := ((components path).getLast?).getD ""

/-- What stands in a path before its last slash. -/
def parentPath (path : String) : String :=
  let dir := (components path).dropLast
  if dir = [""] then "/" else String.intercalate "/" dir

/-- A path inside a directory. -/
def joinPath (dir path : String) : String :=
  if dir.isEmpty then path else if dir.toList.getLast? = some '/' then dir ++ path else dir ++ "/" ++ path

/-- The name that a path ends in, or the whole path if it ends in none. -/
def displayName (path : String) : String :=
  match ((components path).filter fun c => c ≠ "" && c ≠ ".").getLast? with
  | some name => if name = ".." then path else name
  | none => path

/-- A file name without its extension. A dot at the start of a name begins no extension. -/
def stem (name : String) : String :=
  match Text.cut '.' name.toList with
  | [_] => name
  | pieces =>
    match List.intercalate ['.'] pieces.dropLast with
    | [] => name
    | chars => String.ofList chars

/-- A path with the extension of its file name replaced. -/
def withExtension (path extension : String) : String :=
  let dir := (components path).dropLast
  String.intercalate "/" (dir ++ [stem (lastComponent path) ++ "." ++ extension])

end TreeScript.Command
