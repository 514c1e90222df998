/-
  TreeScript.Json.Reader — reading a text as JSON.

  The reader takes one character at a time, so that reading a text is a fold over its
  characters. Its state says what may come next, and holds the lists and objects that are
  open as a stack of frames; nesting is not limited. At a fault the state becomes the draft
  of all that was read.
-/

import TreeScript.Json.Draft
import TreeScript.Json.Numeral
import TreeScript.Json.Quoted

namespace TreeScript.Json

/-- A list or an object around a value that is being read. What came before stands last first. -/
inductive Frame where
  | item (before : List Draft)
  | entry (before : List (Key × Draft)) (key : Key)

/-- What may come next. -/
inductive Mode where
  /-- A value. -/
  | value
  /-- An item of a list; the list may also end here, but not after a comma. -/
  | item (before : List Draft) (first : Bool)
  /-- A key of an object; the object may also end here, but not after a comma. -/
  | key (before : List (Key × Draft)) (first : Bool)
  | keyText (before : List (Key × Draft)) (read : Quoted)
  | colon (before : List (Key × Draft)) (key : Key)
  | text (read : Quoted)
  | number (read : Numeral.Scan)
  /-- The rest of a word that stands for a value. -/
  | word (rest : List Char) (value : Draft)
  /-- What follows a value. -/
  | after (value : Draft)

inductive State where
  | reading (mode : Mode) (stack : List Frame)
  | stopped (document : Document)

namespace Frame

/-- The list or object, ending with the value that it was waiting for. -/
def close : Frame → Draft → Draft
  | .item before, v => .items (before.reverse ++ [v])
  | .entry before key, v => .entries (before.reverse ++ [(key, v)])

end Frame

def enclose (stack : List Frame) (d : Draft) : Draft := stack.foldl (fun d f => f.close d) d

/-! ## Faults -/

/-- What was being read, up to a fault. -/
def Mode.broken (fault : Fault) : Mode → Draft
  | .item before _ => .items (before.reverse ++ [.fault fault])
  | .key before _ => .entries (before.reverse ++ [(.error fault, .fault fault)])
  | .keyText before _ => .entries (before.reverse ++ [(.error fault, .fault fault)])
  | .colon before k => .entries (before.reverse ++ [(k, .fault fault)])
  | .value | .text _ | .number _ | .word _ _ | .after _ => .fault fault

/-- What was open around a complete value, up to a fault after the value. -/
def brokenAfter (fault : Fault) (v : Draft) : List Frame → Document
  | [] => ⟨v, true⟩
  | .item before :: stack => ⟨enclose stack ((Mode.item (v :: before) false).broken fault), false⟩
  | .entry before key :: stack => ⟨enclose stack ((Mode.key ((key, v) :: before) false).broken fault), false⟩

def stop (fault : Fault) (mode : Mode) (stack : List Frame) : State :=
  match mode with
  | .after v => .stopped (brokenAfter fault v stack)
  | mode => .stopped ⟨enclose stack (mode.broken fault), false⟩

/-! ## Steps -/

def isBlank (c : Char) : Bool := c = ' ' || c = '\n' || c = '\t' || c = '\r'

def draftOf (r : Except Fault Number) : Draft :=
  match r with
  | .ok n => .number n
  | .error f => .void f

def textOf (r : Except Fault String) : Draft :=
  match r with
  | .ok s => .text s
  | .error f => .void f

/-- The character that a value begins with; `mode` and `stack` are where it stands. -/
def begin (mode : Mode) (stack : List Frame) (c : Char) : State :=
  let inside : List Frame :=
    match mode with
    | .item before _ => .item before :: stack
    | _ => stack
  if c = '"' then .reading (.text {}) inside
  else if c = '[' then .reading (.item [] true) inside
  else if c = '\x7b' then .reading (.key [] true) inside
  else if c = 't' then .reading (.word ['r', 'u', 'e'] (.boolean true)) inside
  else if c = 'f' then .reading (.word ['a', 'l', 's', 'e'] (.boolean false)) inside
  else if c = 'n' then .reading (.word ['u', 'l', 'l'] .null) inside
  else
    match Numeral.start? c with
    | some s => .reading (.number s) inside
    | none => stop .expectedValue mode stack

/-- A character after a complete value. -/
def stepAfter (v : Draft) (stack : List Frame) (c : Char) : State :=
  if isBlank c then .reading (.after v) stack
  else
    match stack with
    | [] => .stopped ⟨v, true⟩
    | .item before :: outer =>
      if c = ',' then .reading (.item (v :: before) false) outer
      else if c = ']' then .reading (.after (.items (v :: before).reverse)) outer
      else stop .expectedListEnd (.after v) stack
    | .entry before key :: outer =>
      if c = ',' then .reading (.key ((key, v) :: before) false) outer
      else if c = '\x7d' then .reading (.after (.entries ((key, v) :: before).reverse)) outer
      else stop .expectedObjectEnd (.after v) stack

def stepMode (mode : Mode) (stack : List Frame) (c : Char) : State :=
  match mode with
  | .value => if isBlank c then .reading mode stack else begin mode stack c
  | .item before first =>
    if isBlank c then .reading mode stack
    else if c = ']' then
      if first then .reading (.after (.items before.reverse)) stack else stop .trailingComma mode stack
    else begin mode stack c
  | .key before first =>
    if isBlank c then .reading mode stack
    else if c = '"' then .reading (.keyText before {}) stack
    else if c = '\x7d' then
      if first then .reading (.after (.entries before.reverse)) stack else stop .trailingComma mode stack
    else stop .expectedKey mode stack
  | .keyText before read =>
    match read.step c with
    | .goes read => .reading (.keyText before read) stack
    | .closes => .reading (.colon before read.value) stack
    | .fails fault => stop fault mode stack
  | .colon before key =>
    if isBlank c then .reading mode stack
    else if c = ':' then .reading .value (.entry before key :: stack)
    else stop .expectedColon mode stack
  | .text read =>
    match read.step c with
    | .goes read => .reading (.text read) stack
    | .closes => .reading (.after (textOf read.value)) stack
    | .fails fault => stop fault mode stack
  | .number read =>
    match read.step c with
    | .goes read => .reading (.number read) stack
    | .ends => stepAfter (draftOf read.numeral.value) stack c
    | .fails => stop .invalidNumber mode stack
  | .word rest v =>
    match rest with
    | [] => stepAfter v stack c
    | [w] => if c = w then .reading (.after v) stack else stop .expectedWord mode stack
    | w :: rest => if c = w then .reading (.word rest v) stack else stop .expectedWord mode stack
  | .after v => stepAfter v stack c

def State.step : State → Char → State
  | .reading mode stack, c => stepMode mode stack c
  | .stopped document, _ => .stopped document

/-- Nothing after a fault matters. -/
@[simp] theorem foldl_step_stopped (document : Document) (cs : List Char) :
    cs.foldl State.step (.stopped document) = .stopped document := by
  induction cs with
  | nil => rfl
  | cons c cs ih => simpa [State.step] using ih

/-! ## The end of the text -/

def endAfter (v : Draft) (stack : List Frame) : Document :=
  match stack with
  | [] => ⟨v, false⟩
  | .item _ :: _ => brokenAfter .endInList v stack
  | .entry _ _ :: _ => brokenAfter .endInObject v stack

def State.finish : State → Document
  | .stopped document => document
  | .reading mode stack =>
    match mode with
    | .after v => endAfter v stack
    | .number read =>
      if read.phase.complete then endAfter (draftOf read.numeral.value) stack
      else ⟨enclose stack (.fault .endInValue), false⟩
    | .item _ first => ⟨enclose stack (mode.broken (if first then .endInList else .endInValue)), false⟩
    | .key _ first => ⟨enclose stack (mode.broken (if first then .endInObject else .endInValue)), false⟩
    | .keyText _ _ => ⟨enclose stack (mode.broken .endInString), false⟩
    | .colon _ _ => ⟨enclose stack (mode.broken .endInObject), false⟩
    | .text _ => ⟨enclose stack (.fault .endInString), false⟩
    | .value | .word _ _ => ⟨enclose stack (.fault .endInValue), false⟩

def start : State := .reading .value []

def readChars (text : List Char) : Document := (text.foldl State.step start).finish

/-- A text as JSON. -/
def read (text : String) : Document := readChars text.toList

end TreeScript.Json
