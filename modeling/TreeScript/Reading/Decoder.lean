/-
  TreeScript.Reading.Decoder — syntax trees from JSON values.

  A `Meaning` of a value answers, for every kind of place, what the value means there. It is
  made from the meanings of the value's parts by `interpret`, so no part is looked at before
  a place asks for it, and none twice.

  Within a node the tag comes first, then its fields in the order in which they are
  written, then those that are missing, in the order of the schema.
-/

import TreeScript.Json.Value
import TreeScript.Reading.Mismatch
import TreeScript.Reading.Schema

namespace TreeScript.Reading

open Json (Layer Value)

abbrev Meaning := (k : Kind) → Except Mismatch k.Denote

def found {α : Type} : Layer α → Found
  | .null => .null
  | .boolean value => .boolean value
  | .number (.integer value) => .integer value
  | .number (.double value) => .double value
  | .text value => .text value
  | .items _ => .sequence
  | .entries _ => .map

def wrong {α β : Type} (layer : Layer α) (wanted : String) : Except Mismatch β :=
  .error (.wrongType (found layer) wanted)

/-! ## Fields -/

/-- The fields of a node that have been read. -/
abbrev Slots : List Field → Type
  | [] => Unit
  | f :: fs => Option f.kind.Denote × Slots fs

namespace Slots

def empty : (fs : List Field) → Slots fs
  | [] => ()
  | _ :: fs => (none, empty fs)

/-- Read an entry into the field it belongs to; an entry that belongs to none is passed over. -/
def enter : (fs : List Field) → Slots fs → String × Meaning → Except Mismatch (Slots fs)
  | [], (), _ => .ok ()
  | f :: fs, (slot, slots), (key, r) =>
    if f.isCalled key then
      match slot with
      | some _ => .error (.duplicateField f.name)
      | none => do
        let v ← r f.kind
        return (some v, slots)
    else do
      let slots ← enter fs slots (key, r)
      return (slot, slots)

def row : (fs : List Field) → Slots fs → Except Mismatch (Row fs)
  | [], () => .ok ()
  | f :: fs, (slot, slots) =>
    match slot <|> f.absent with
    | some v => do
      let vs ← row fs slots
      return (v, vs)
    | none => .error (.missingField f.name)

end Slots

/-- Read fields from a list, from `position` on; what is left of the list is given back. -/
def rowOfItems (short : Nat → Mismatch) :
    (fs : List Field) → Nat → List Meaning → Except Mismatch (Row fs × List Meaning)
  | [], _, rs => .ok ((), rs)
  | f :: fs, position, r :: rs => do
    let v ← r f.kind
    let (vs, rest) ← rowOfItems short fs (position + 1) rs
    return ((v, vs), rest)
  | f :: fs, position, [] =>
    match f.absent with
    | some v => do
      let (vs, rest) ← rowOfItems short fs (position + 1) []
      return ((v, vs), rest)
    | none => .error (short position)

/-- Read the fields of a variant from a layer that is an object or a list. -/
def fields {α : Type} (v : Variant α) (layer : Layer Meaning) : Except Mismatch α :=
  match layer with
  | .entries es => do
    let slots ← es.foldlM (Slots.enter v.fields) (Slots.empty v.fields)
    let row ← slots.row
    return v.build row
  | .items rs => do
    let (row, rest) ← rowOfItems (.tooShort · v.shape v.fields.length) v.fields 0 rs
    if rest.isEmpty then return v.build row
    else .error (.tooLong rs.length v.fields.length)
  | layer => wrong layer v.shape

/-! ## Nodes -/

def variantOf (n : Node) : Tag → Except Mismatch (Variant n.Denote)
  | .name name =>
    match n.variants.find? (·.tag = name) with
    | some v => .ok v
    | none => .error (.unknownVariant name (n.variants.map (·.tag)))
  | .position i =>
    match n.variants[i]? with
    | some v => .ok v
    | none => .error (.positionTooLarge i n.variants.length)

def tagKey : String := "type"

def node (n : Node) (layer : Layer Meaning) : Except Mismatch n.Denote :=
  match layer with
  | .entries es =>
    match es.filter (·.1 = tagKey) with
    | [] => .error (.missingField tagKey)
    | (_, r) :: more => do
      let tag ← r .tag
      let v ← variantOf n tag
      if more.isEmpty then fields v (.entries (es.filter (·.1 ≠ tagKey)))
      else .error (.duplicateField tagKey)
  | .items [] => .error (.missingField tagKey)
  | .items (r :: rs) => do
    let tag ← r .tag
    let v ← variantOf n tag
    fields v (.items rs)
  | layer => wrong layer ("internally tagged enum " ++ n.name)

/-! ## Words and parts -/

def wordOf (set : WordSet) (word : String) : Except Mismatch set.Denote :=
  match set.words.lookup word with
  | some v => .ok v
  | none => .error (.unknownVariant word (set.words.map (·.1)))

/-- A word stands alone, or as the only key of an object that holds nothing. -/
def word (set : WordSet) (layer : Layer Meaning) : Except Mismatch set.Denote :=
  match layer with
  | .text s => wordOf set s
  | .entries [(key, r)] => do
    let v ← wordOf set key
    r .unit
    return v
  | .entries _ => .error .severalKeys
  | layer => wrong layer "string or map"

def partKeys : List String := ["literal", "expr"]

/-- A part of an interpolated string is an object with one key, which says what it is. -/
def part (layer : Layer Meaning) : Except Mismatch Tree.Part :=
  match layer with
  | .text s =>
    if s ∈ partKeys then .error (.wrongType .unitVariant "newtype variant")
    else .error (.unknownVariant s partKeys)
  | .entries [(key, r)] =>
    if key = "literal" then (r .text).map .text
    else if key = "expr" then (r (.node .expr)).map .expr
    else .error (.unknownVariant key partKeys)
  | .entries _ => .error .severalKeys
  | layer => wrong layer "string or map"

/-! ## Values -/

def tag (layer : Layer Meaning) : Except Mismatch Tag :=
  match layer with
  | .text s => .ok (.name s)
  | .number (.integer (.ofNat i)) => .ok (.position i)
  | layer => wrong layer "variant identifier"

/-- What a layer means at a place, given the readings of its parts. -/
def interpret (layer : Layer Meaning) : Meaning
  | .text =>
    match layer with
    | .text s => .ok s
    | layer => wrong layer "a string"
  | .number =>
    match layer with
    | .number n => .ok n.toBinary64
    | layer => wrong layer "f64"
  | .flag =>
    match layer with
    | .boolean b => .ok b
    | layer => wrong layer "a boolean"
  | .unit =>
    match layer with
    | .null => .ok ()
    | .entries [] => .ok ()
    | layer => wrong layer "unit"
  | .tag => tag layer
  | .word set => word set layer
  | .part => part layer
  | .node n => node n layer
  | .group g => fields g.variant layer
  | .list k =>
    match layer with
    | .items rs => rs.mapM fun r => r k
    | layer => wrong layer "a sequence"
  | .optional k =>
    match layer with
    | .null => .ok none
    | layer => (interpret layer k).map some

/-- What a value means at a place. -/
def meaning (v : Value) : Meaning := v.fold interpret

end TreeScript.Reading
