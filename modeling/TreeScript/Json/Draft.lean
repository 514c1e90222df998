/-
  TreeScript.Json.Draft — a text as far as it is JSON.

  A draft is what can be read of a text from the left: a value in which a `fault` stands
  where the text stops being JSON, at the end of every list and object that is open there.
  A `void` stands for a number or a string that is written well but has no value. So a
  reader of drafts can stop, or pass over a part, before a fault further right matters.
-/

import TreeScript.Json.Fault
import TreeScript.Json.Value

namespace TreeScript.Json

/-- A key, or why there is none. -/
abbrev Key := Except Fault String

inductive Draft where
  | null
  | boolean (value : Bool)
  | number (value : Number)
  | text (value : String)
  | items (items : List Draft)
  | entries (entries : List (Key × Draft))
  | void (fault : Fault)
  | fault (fault : Fault)

namespace Draft

mutual

/-- The value of a draft that has one. -/
def value : Draft → Except Fault Value
  | .null => .ok .null
  | .boolean b => .ok (.boolean b)
  | .number n => .ok (.number n)
  | .text s => .ok (.text s)
  | .items ds => (values ds).map .items
  | .entries es => (entryValues es).map .entries
  | .void f => .error f
  | .fault f => .error f

def values : List Draft → Except Fault (List Value)
  | [] => .ok []
  | d :: ds => do
    let v ← d.value
    let vs ← values ds
    return v :: vs

def entryValues : List (Key × Draft) → Except Fault (List (String × Value))
  | [] => .ok []
  | (.error f, _) :: _ => .error f
  | (.ok key, d) :: es => do
    let v ← d.value
    let vs ← entryValues es
    return (key, v) :: vs

end

mutual

/-- Pass over a draft whose value does not matter: it only has to be written well. -/
def skip : Draft → Except Fault Unit
  | .items ds => skipAll ds
  | .entries es => skipEntries es
  | .fault f => .error f
  | .null | .boolean _ | .number _ | .text _ | .void _ => .ok ()

def skipAll : List Draft → Except Fault Unit
  | [] => .ok ()
  | d :: ds => do
    d.skip
    skipAll ds

def skipEntries : List (Key × Draft) → Except Fault Unit
  | [] => .ok ()
  | (_, d) :: es => do
    d.skip
    skipEntries es

end

end Draft

/-- A whole text: what stands first in it, and whether anything but blanks follows. -/
structure Document where
  root : Draft
  surplus : Bool

end TreeScript.Json
