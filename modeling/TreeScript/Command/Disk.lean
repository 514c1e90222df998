/-
  TreeScript.Command.Disk — what a command may ask of the files around it.
-/

namespace TreeScript.Command

/-- Why the system refused. -/
inductive SystemError where
  | notFound
  | alreadyThere
  | notDirectory
  | isDirectory
  | notRegular
  | other (text : String)
  deriving DecidableEq, Repr

def SystemError.message : SystemError → String
  | .notFound => "No such file or directory (os error 2)"
  | .alreadyThere => "File exists (os error 17)"
  | .notDirectory => "Not a directory (os error 20)"
  | .isDirectory => "Is a directory (os error 21)"
  | .notRegular => "the source path is neither a regular file nor a symlink to a regular file"
  | .other text => text

/-- Access to files, in a monad `m`. -/
structure Disk (m : Type → Type) where
  isThere : String → m Bool
  read : String → m (Except SystemError String)
  write : String → String → m (Except SystemError Unit)
  makeDirectory : String → m (Except SystemError Unit)
  /-- Copy a file; the destination is emptied before the source is read. -/
  copy : String → String → m (Except SystemError Unit)

end TreeScript.Command
