/-
  TreeScript.Reading.Document — programs from texts.

  A text is read from the left, and the first thing wrong with it is the one reported. The
  statements of a program are read one after the other, and of a program's own keys all but
  one are passed over. A statement is read whole before its fields are looked at; only its
  tag counts at once.
-/

import TreeScript.Json.Reader
import TreeScript.Reading.Decoder

namespace TreeScript.Reading

open Json (Draft Value Document Key)

def refuse {α : Type} (cause : Mismatch) : Except Refusal α := .error (.mismatch cause)

def ofFault {α : Type} : Except Json.Fault α → Except Refusal α
  | .ok a => .ok a
  | .error fault => .error (.notJson fault)

def ofMismatch {α : Type} : Except Mismatch α → Except Refusal α
  | .ok a => .ok a
  | .error cause => refuse cause

/-- A draft that is not what was wanted. -/
def wrongDraft {α : Type} (d : Draft) (wanted : String) : Except Refusal α :=
  match d with
  | .null => refuse (.wrongType .null wanted)
  | .boolean value => refuse (.wrongType (.boolean value) wanted)
  | .number (.integer value) => refuse (.wrongType (.integer value) wanted)
  | .number (.double value) => refuse (.wrongType (.double value) wanted)
  | .text value => refuse (.wrongType (.text value) wanted)
  | .items _ => refuse (.wrongType .sequence wanted)
  | .entries _ => refuse (.wrongType .map wanted)
  | .void fault => .error (.notJson fault)
  | .fault fault => .error (.notJson fault)

/-! ## Statements -/

/-- The tag of a statement at the top level is a name. -/
def stmtVariant (d : Draft) : Except Refusal (Variant Tree.Stmt) :=
  match d with
  | .text name => ofMismatch (variantOf .stmt (.name name))
  | d => wrongDraft d "variant identifier"

/-- Read the entries of a statement: its variant, once the tag has come, and the other entries, last first. -/
def stmtEntries (variant : Option (Variant Tree.Stmt)) (read : List (String × Value)) :
    List (Key × Draft) → Except Refusal Tree.Stmt
  | [] =>
    match variant with
    | none => refuse (.missingField tagKey)
    | some v => ofMismatch (fields v (.entries (read.reverse.map fun e => (e.1, meaning e.2))))
  | (.error fault, _) :: _ => .error (.notJson fault)
  | (.ok key, d) :: es =>
    if key = tagKey then
      match variant with
      | some _ => refuse (.duplicateField tagKey)
      | none => do
        let v ← stmtVariant d
        stmtEntries (some v) read es
    else do
      let v ← ofFault d.value
      stmtEntries variant ((key, v) :: read) es

def stmt (d : Draft) : Except Refusal Tree.Stmt :=
  match d with
  | .entries es => stmtEntries none [] es
  | .items [] => refuse (.missingField tagKey)
  | .items (d :: ds) => do
    let v ← stmtVariant d
    let rest ← ofFault (Draft.values ds)
    ofMismatch (fields v (.items (rest.map meaning)))
  | d => wrongDraft d "internally tagged enum Stmt"

/-! ## Programs -/

def body (d : Draft) : Except Refusal (List Tree.Stmt) :=
  match d with
  | .items ds => ds.mapM stmt
  | d => wrongDraft d "a sequence"

def programShape : String := "struct Program"

def programEntries (read : Option (List Tree.Stmt)) : List (Key × Draft) → Except Refusal Tree.Program
  | [] =>
    match read with
    | some b => .ok ⟨b⟩
    | none => refuse (.missingField "body")
  | (.error fault, _) :: _ => .error (.notJson fault)
  | (.ok key, d) :: es =>
    if key = "body" then
      match read with
      | some _ => refuse (.duplicateField "body")
      | none => do
        let b ← body d
        programEntries (some b) es
    else do
      ofFault d.skip
      programEntries read es

def program (d : Draft) : Except Refusal Tree.Program :=
  match d with
  | .entries es => programEntries none es
  | .items [] => refuse (.tooShort 0 programShape 1)
  | .items (d :: ds) => do
    let b ← body d
    match ds with
    | [] => return ⟨b⟩
    | .fault fault :: _ => .error (.notJson fault)
    | _ :: _ => .error (.notJson .trailingText)
  | d => wrongDraft d programShape

def document (doc : Document) : Except Refusal Tree.Program := do
  let p ← program doc.root
  if doc.surplus then .error (.notJson .trailingText) else return p

/-- The program that a text spells. -/
def parse (text : String) : Except Refusal Tree.Program := document (Json.read text)

end TreeScript.Reading
