/-
  TreeScript.Json.Quoted — strings as JSON writes them.

  A string is read one character at a time, from after its opening quote. Halves of a
  surrogate pair must be escaped one after the other; a string with a half on its own is
  written well but has no value, so reading goes on to its end and remembers the fault.
-/

import TreeScript.Json.Fault

namespace TreeScript.Json

/-- Where in a string the next character stands. -/
inductive Quoted.Place where
  | plain
  | escape
  /-- Inside a `\u` escape: the digits still to come, and the number so far. -/
  | hex (left : Nat) (code : Nat)
  deriving DecidableEq, Repr

/-- A string that is being read. -/
structure Quoted where
  place : Quoted.Place := .plain
  /-- The characters read, last first. -/
  chars : List Char := []
  /-- The first half of a pair, if that is what was read last. -/
  half : Option Nat := none
  fault : Option Fault := none
  deriving DecidableEq, Repr

namespace Quoted

/-- What the next character is to a string. -/
inductive Move where
  | goes (q : Quoted)
  | closes
  | fails (f : Fault)

/-- Remember a fault, unless there is one already. -/
def spoil (q : Quoted) (f : Fault) : Quoted := { q with half := none, fault := q.fault <|> some f }

/-- A first half must be followed by an escape; if it is not, the string is spoiled. -/
def unpaired (q : Quoted) : Quoted := if q.half.isSome then q.spoil .brokenPair else q

def push (q : Quoted) (c : Char) : Quoted := { q with place := .plain, chars := c :: q.chars }

def hexDigit? (c : Char) : Option Nat :=
  if c.isDigit then some (c.toNat - '0'.toNat)
  else if 'a' ≤ c ∧ c ≤ 'f' then some (c.toNat - 'a'.toNat + 10)
  else if 'A' ≤ c ∧ c ≤ 'F' then some (c.toNat - 'A'.toNat + 10)
  else none

def simpleEscape? (c : Char) : Option Char :=
  if c = '"' || c = '\\' || c = '/' then some c
  else if c = 'b' then some '\x08'
  else if c = 'f' then some '\x0c'
  else if c = 'n' then some '\n'
  else if c = 'r' then some '\r'
  else if c = 't' then some '\t'
  else none

def isFirstHalf (code : Nat) : Bool := decide (0xD800 ≤ code ∧ code ≤ 0xDBFF)

def isSecondHalf (code : Nat) : Bool := decide (0xDC00 ≤ code ∧ code ≤ 0xDFFF)

/-- The character that a pair of halves stands for. -/
def joined (first second : Nat) : Char := Char.ofNat (0x10000 + (first - 0xD800) * 0x400 + (second - 0xDC00))

/-- Take the number of a complete `\u` escape. -/
def code (q : Quoted) (code : Nat) : Quoted :=
  match q.half with
  | some first =>
    if isSecondHalf code then { q.push (joined first code) with half := none }
    else { q.spoil .loneSurrogate with place := .plain }
  | none =>
    if isFirstHalf code then { q with place := .plain, half := some code }
    else if isSecondHalf code then { q.spoil .loneSurrogate with place := .plain }
    else q.push (Char.ofNat code)

def step (q : Quoted) (c : Char) : Move :=
  match q.place with
  | .plain =>
    if c = '"' then .closes
    else if c = '\\' then .goes { q with place := .escape }
    else if c.toNat < 0x20 then .fails .controlCharacter
    else .goes (q.unpaired.push c)
  | .escape =>
    if c = 'u' then .goes { q with place := .hex 4 0 }
    else
      match simpleEscape? c with
      | some c => .goes (q.unpaired.push c)
      | none => .fails .invalidEscape
  | .hex left n =>
    match hexDigit? c with
    | some d =>
      let n := n * 16 + d
      if left ≤ 1 then .goes (q.code n) else .goes { q with place := .hex (left - 1) n }
    | none => .fails .invalidEscape

/-- The string that has been read. -/
def value (q : Quoted) : Except Fault String :=
  match q.unpaired.fault with
  | some f => .error f
  | none => .ok (String.ofList q.chars.reverse)

end Quoted

end TreeScript.Json
