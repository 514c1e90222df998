/-
  TreeScript.Text.Escaped — text quoted so that every character of it can be seen.

  Messages that show a piece of the input write it in double quotes, with an escape for
  the quote, the backslash, and every character that has no glyph of its own or joins the
  character before it.
-/

import TreeScript.Text.GraphemeExtend
import TreeScript.Text.Unprintable

namespace TreeScript.Text

/-- One character as it stands in a quoted text: as it is, or as an escape. -/
def escapedChar (c : Char) : List Char :=
  if c = '\x00' then ['\\', '0']
  else if c = '\t' then ['\\', 't']
  else if c = '\r' then ['\\', 'r']
  else if c = '\n' then ['\\', 'n']
  else if c = '\\' then ['\\', '\\']
  else if c = '"' then ['\\', '"']
  else if graphemeExtend.contains c || unprintable.contains c then
    '\\' :: 'u' :: '\x7b' :: (Nat.toDigits 16 c.toNat ++ ['\x7d'])
  else [c]

/-- `s` in double quotes, escaped. -/
def escaped (s : String) : String :=
  String.ofList ('"' :: (s.toList.flatMap escapedChar ++ ['"']))

end TreeScript.Text
