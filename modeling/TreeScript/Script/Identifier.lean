/-
  TreeScript.Script.Identifier — names that can stand without quotes.

  A bare property key starts with an alphabetic character, an underscore or a dollar sign,
  and goes on with those and with numeric characters.
-/

import TreeScript.Text.Alphabetic
import TreeScript.Text.Numeric

namespace TreeScript.Script

def startsName (c : Char) : Bool := c = '_' || c = '$' || Text.alphabetic.contains c

def continuesName (c : Char) : Bool := startsName c || Text.numeric.contains c

def isNameChars : List Char → Bool
  | [] => false
  | c :: rest => startsName c && rest.all continuesName

def isName (s : String) : Bool := isNameChars s.toList

end TreeScript.Script
