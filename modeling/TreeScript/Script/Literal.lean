/-
  TreeScript.Script.Literal — string and template literals of JavaScript.

  A string literal is written in double quotes; the quote, the backslash and the three
  characters that would end or bend a line are escaped. In a template the back-tick is
  escaped too, and a dollar sign only where a brace after it would open a substitution.
-/

namespace TreeScript.Script

/-- A character inside a string literal. -/
def quotedChar (c : Char) : List Char :=
  if c = '\\' then ['\\', '\\']
  else if c = '"' then ['\\', '"']
  else if c = '\n' then ['\\', 'n']
  else if c = '\r' then ['\\', 'r']
  else if c = '\t' then ['\\', 't']
  else [c]

/-- The string literal of a text. -/
def quotedChars (s : List Char) : List Char := '"' :: (s.flatMap quotedChar ++ ['"'])

def quoted (s : String) : String := String.ofList (quotedChars s.toList)

/-- The characters of a text between the back-ticks of a template. -/
def templateChars : List Char → List Char
  | [] => []
  | c :: rest =>
    (if c = '\\' then ['\\', '\\']
    else if c = '\x60' then ['\\', '\x60']
    else if c = '$' && rest.head? = some '\x7b' then ['\\', '$']
    else if c = '\n' then ['\\', 'n']
    else if c = '\r' then ['\\', 'r']
    else if c = '\t' then ['\\', 't']
    else [c]) ++ templateChars rest

def templateText (s : String) : String := String.ofList (templateChars s.toList)

end TreeScript.Script
