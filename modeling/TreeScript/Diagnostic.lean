/-
  TreeScript.Diagnostic — what the user is told when something fails.

  A diagnostic has a header, a footer that may be empty, and perhaps the name of the
  function in which the failure lies. A diagnostic that names a function keeps it when it
  passes out of an enclosing one.
-/

namespace TreeScript

/-- Escape sequences of terminals. -/
def bold (s : String) : String := "\x1b[1m" ++ s ++ "\x1b[0m"

def red (s : String) : String := "\x1b[31m" ++ s ++ "\x1b[39m"

def magenta (s : String) : String := "\x1b[35m" ++ s ++ "\x1b[39m"

/-- The mark at the start of every failure's text. -/
def errorMark : String := bold (red "Error")

structure Diagnostic where
  header : String
  footer : String
  function : Option String := none
  deriving DecidableEq, Repr

namespace Diagnostic

def within (d : Diagnostic) (name : String) : Diagnostic := { d with function := some (d.function.getD name) }

def text (d : Diagnostic) : String :=
  errorMark ++ ": " ++ bold d.header ++ "." ++
    (match d.function with
    | some name => "\n  in function " ++ bold name
    | none => "") ++
    (if d.footer.isEmpty then "" else "\n" ++ d.footer)

@[simp] theorem within_within (d : Diagnostic) (inner outer : String) :
    (d.within inner).within outer = d.within inner := by
  simp [within]

end Diagnostic

end TreeScript
