/-
  TreeScript.Reading.Mismatch — why a JSON text is not a syntax tree.

  Either the text is not JSON, or its value does not have the shape of a tree. Each cause
  has one message; the diagnostic is made from the message. A message that begins by
  naming an unknown variant is reported under the variant's name when the names that were
  expected there begin with a capital: those are tags of nodes, while operators and
  declaration keywords are not. Names are taken out of the message at its back-ticks.
-/

import TreeScript.Binary64.Shortest
import TreeScript.Diagnostic
import TreeScript.Json.Draft
import TreeScript.Text.Cut
import TreeScript.Text.Escaped
import TreeScript.Text.Uppercase

namespace TreeScript.Reading

/-- What stands where something else was expected. -/
inductive Found where
  | null
  | boolean (value : Bool)
  | integer (value : Int)
  | double (value : Binary64)
  | text (value : String)
  | sequence
  | map
  | unitVariant
  deriving DecidableEq, Repr

inductive Mismatch where
  | missingField (name : String)
  | duplicateField (name : String)
  | unknownVariant (name : String) (expected : List String)
  | wrongType (found : Found) (wanted : String)
  | severalKeys
  | positionTooLarge (position count : Nat)
  | tooShort (length : Nat) (shape : String) (fields : Nat)
  | tooLong (length : Nat) (fields : Nat)
  deriving DecidableEq, Repr

inductive Refusal where
  | notJson (fault : Json.Fault)
  | mismatch (cause : Mismatch)
  deriving DecidableEq, Repr

/-! ## Messages -/

/-- A double in a message: the shortest digits, with an exponent outside of `1e-5` to `1e16`, and
otherwise always with a fraction. -/
def doubleChars (x : Binary64) : List Char :=
  let d := x.shortest
  let ds := Nat.toDigits 10 d.digits
  let point : Int := ds.length + d.exponent
  (if x.negative then ['-'] else []) ++
    if -5 < point ∧ point ≤ 16 then
      d.positional ++ (if 0 ≤ d.exponent then ['.', '0'] else [])
    else
      ds.take 1 ++ (if ds.length = 1 then [] else '.' :: ds.drop 1) ++
        'e' :: ((if 0 < point then ['+'] else []) ++ (toString (point - 1)).toList)

def Found.message : Found → String
  | .null => "null"
  | .boolean value => "boolean `" ++ (if value then "true" else "false") ++ "`"
  | .integer value => "integer `" ++ toString value ++ "`"
  | .double value => "floating point `" ++ String.ofList (doubleChars value) ++ "`"
  | .text value => "string " ++ Text.escaped value
  | .sequence => "sequence"
  | .map => "map"
  | .unitVariant => "unit variant"

def elements (n : Nat) : String := toString n ++ (if n = 1 then " element" else " elements")

def ticked (name : String) : String := "`" ++ name ++ "`"

def alternatives : List String → String
  | [a] => ticked a
  | [a, b] => ticked a ++ " or " ++ ticked b
  | names => "one of " ++ String.intercalate ", " (names.map ticked)

def Mismatch.message : Mismatch → String
  | .missingField name => "missing field " ++ ticked name
  | .duplicateField name => "duplicate field " ++ ticked name
  | .unknownVariant name expected => "unknown variant " ++ ticked name ++ ", expected " ++ alternatives expected
  | .wrongType found wanted => "invalid type: " ++ found.message ++ ", expected " ++ wanted
  | .severalKeys => "invalid value: map, expected map with a single key"
  | .positionTooLarge position count =>
    "invalid value: integer `" ++ toString position ++ "`, expected variant index 0 <= i < " ++ toString count
  | .tooShort length shape fields =>
    "invalid length " ++ toString length ++ ", expected " ++ shape ++ " with " ++ elements fields
  | .tooLong length fields =>
    "invalid length " ++ toString length ++ ", expected " ++ elements fields ++ " in sequence"

def Refusal.message : Refusal → String
  | .notJson fault => fault.message
  | .mismatch cause => cause.message

/-! ## The diagnostic of a message -/

/-- The text after the first `mark`. -/
def after? (mark : List Char) : List Char → Option (List Char)
  | [] => if mark.isEmpty then some [] else none
  | c :: cs => if mark.isPrefixOf (c :: cs) then some ((c :: cs).drop mark.length) else after? mark cs

/-- The text before the first `mark`, or all of it. -/
def before (mark : List Char) : List Char → List Char
  | [] => []
  | c :: cs => if mark.isPrefixOf (c :: cs) then [] else c :: before mark cs

def startsUpper : List Char → Bool
  | [] => false
  | c :: _ => Text.uppercase.contains c

/-- The name of an unknown node, if that is what a message reports. -/
def unknownNode? (message : List Char) : Option (List Char) :=
  let mark := "unknown variant `".toList
  match (after? mark message).map fun rest => Text.cut '\x60' (before mark rest) with
  | some (name :: _ :: expected :: _) => if startsUpper expected then some name else none
  | _ => none

def Refusal.diagnostic (r : Refusal) : Diagnostic :=
  match unknownNode? r.message.toList with
  | some name =>
    { header := "unrecognized node variant `" ++ String.ofList name ++ "`",
      footer := "Help: the tree does not match this compiler's node set (" ++ r.message ++ ")." }
  | none => { header := "malformed syntax tree", footer := r.message }

end TreeScript.Reading
