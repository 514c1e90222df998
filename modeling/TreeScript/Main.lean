/-
  TreeScript.Main — the command line of the compiler, on the files of the system.
-/

import TreeScript.Command.Run

namespace TreeScript.Command

def ofIOError : IO.Error → SystemError
  | .noFileOrDirectory _ _ _ => .notFound
  | .alreadyExists _ _ _ => .alreadyThere
  | .inappropriateType _ _ _ => .isDirectory
  | e => .other (toString e)

def caught {α : Type} (action : IO α) : IO (Except SystemError α) := do
  try return .ok (← action) catch e => return .error (ofIOError e)

/-- The files of the system. -/
def systemDisk : Disk IO where
  isThere path := do
    match ← caught (IO.FS.Handle.mk path .read) with
    | .ok _ => return true
    | .error _ => return false
  read path := caught (IO.FS.readFile path)
  write path content := caught (IO.FS.writeFile path content)
  makeDirectory path := caught (IO.FS.createDirAll path)
  copy source destination := caught do
    let src ← IO.FS.Handle.mk source .read
    let dst ← IO.FS.Handle.mk destination .write
    dst.write (← src.readBinToEnd)

end TreeScript.Command

def main (args : List String) : IO UInt32 := do
  let outcome ← TreeScript.Command.run TreeScript.Command.systemDisk args
  IO.print outcome.out
  IO.eprint outcome.err
  return outcome.status.toUInt32
