/-
  TreeScript.Script.Text — scripts as text.

  An expression is written on one line. A statement is a list of lines, each with its level
  of indentation; only at the end are the lines padded and put together. What follows
  `else` starts on the line of the closing brace before it, so a statement is told what
  stands before it on its first line.
-/

import TreeScript.Binary64.Shortest
import TreeScript.Script.Basic
import TreeScript.Script.Identifier
import TreeScript.Script.Literal

namespace TreeScript.Script

/-- Numbers have the fewest digits that read back, and never an exponent. -/
def numberChars (x : Binary64) : List Char :=
  if x.isNaN then "NaN".toList
  else
    (if x.negative then ['-'] else []) ++
      (if x.isInfinite then "Infinity".toList else x.shortest.positional)

def commas (texts : List (List Char)) : List Char := List.intercalate ", ".toList texts

/-- A property key, in quotes unless it can stand without. -/
def keyChars (key : String) : List Char :=
  if isName key then key.toList else quotedChars key.toList

mutual

def Expr.chars : Expr → List Char
  | .name name => name.toList
  | .number value => numberChars value
  | .boolean value => (if value then "true" else "false").toList
  | .null => "null".toList
  | .undefined => "undefined".toList
  | .string value => quotedChars value.toList
  | .template parts => '\x60' :: (TemplatePart.charsAll parts ++ ['\x60'])
  | .array elements => '[' :: (commas (Expr.charsAll elements) ++ [']'])
  | .object [] => "\x7b\x7d".toList
  | .object (e :: es) => "\x7b ".toList ++ commas (Entry.charsAll (e :: es)) ++ " \x7d".toList
  | .paren inner => '(' :: (inner.chars ++ [')'])
  | .call callee args => callee.chars ++ '(' :: (commas (Expr.charsAll args) ++ [')'])
  | .member object property => object.chars ++ '.' :: property.toList
  | .index object position => object.chars ++ '[' :: (position.chars ++ [']'])
  | .construct className args =>
    "new ".toList ++ className.toList ++ '(' :: (commas (Expr.charsAll args) ++ [')'])
  | .unary op operand => op.symbol.toList ++ operand.chars
  | .binary op left right => left.chars ++ ' ' :: (op.token.toList ++ ' ' :: right.chars)
  | .conditional test consequent alternate =>
    test.chars ++ " ? ".toList ++ consequent.chars ++ " : ".toList ++ alternate.chars

def Expr.charsAll : List Expr → List (List Char)
  | [] => []
  | e :: es => e.chars :: Expr.charsAll es

def Entry.charsAll : List Entry → List (List Char)
  | [] => []
  | .bare key :: es => key.toList :: Entry.charsAll es
  | .keyed key value :: es => (keyChars key ++ ": ".toList ++ value.chars) :: Entry.charsAll es

def TemplatePart.charsAll : List TemplatePart → List Char
  | [] => []
  | .text text :: ps => templateChars text.toList ++ TemplatePart.charsAll ps
  | .expr value :: ps => "$\x7b".toList ++ value.chars ++ '\x7d' :: TemplatePart.charsAll ps

end

theorem Expr.charsAll_eq_map (es : List Expr) : Expr.charsAll es = es.map Expr.chars := by
  induction es with
  | nil => rfl
  | cons e es ih => simp [Expr.charsAll, ih]

/-! ## Lines -/

/-- A line of a script: its level of indentation, and what follows the padding. -/
structure Line where
  level : Nat
  chars : List Char
  deriving DecidableEq, Repr

/-- Two spaces a level. -/
def pad (level : Nat) : List Char := List.replicate (2 * level) ' '

def Line.padded (l : Line) : List Char := pad l.level ++ l.chars

def unlines (lines : List (List Char)) : List Char := List.intercalate ['\n'] lines

/-- What stands open after a braced list: the lines that are done, and the start of the next one. -/
structure Opened where
  done : List Line
  lead : List Char

/-- Lines in braces, after a `lead` on the line of the opening brace. -/
def braced (level : Nat) (lead : List Char) : List Line → Opened
  | [] => ⟨[], lead ++ "\x7b\x7d".toList⟩
  | l :: ls => ⟨⟨level, lead ++ ['\x7b']⟩ :: l :: ls, ['\x7d']⟩

def Opened.lines (o : Opened) (level : Nat) : List Line := o.done ++ [⟨level, o.lead⟩]

mutual

/-- The lines of a statement; `lead` stands before it on its first line. -/
def Stmt.lines (level : Nat) (lead : List Char) : Stmt → List Line
  | .declare kind name value =>
    [⟨level, lead ++ kind.keyword.toList ++ ' ' :: (name.toList ++ " = ".toList ++ value.chars ++ [';'])⟩]
  | .function name params body =>
    let head := "function ".toList ++ name.toList ++ '(' :: (commas (params.map String.toList) ++ ") ".toList)
    (braced level (lead ++ head) (Stmt.linesAll (level + 1) body)).lines level
  | .branch test consequent none =>
    let head := "if (".toList ++ test.chars ++ ") ".toList
    (braced level (lead ++ head) (Stmt.linesAll (level + 1) consequent)).lines level
  | .branch test consequent (some alternate) =>
    let head := "if (".toList ++ test.chars ++ ") ".toList
    let opened := braced level (lead ++ head) (Stmt.linesAll (level + 1) consequent)
    opened.done ++ alternate.lines level (opened.lead ++ " else ".toList)
  | .ret value => [⟨level, lead ++ "return ".toList ++ value.chars ++ [';']⟩]
  | .throwError message =>
    [⟨level, lead ++ "throw new Error(".toList ++ quotedChars message.toList ++ ");".toList⟩]
  | .expr value => [⟨level, lead ++ value.chars ++ [';']⟩]
  | .block body => (braced level lead (Stmt.linesAll (level + 1) body)).lines level

/-- The lines of the statements of a list. -/
def Stmt.linesAll (level : Nat) : List Stmt → List Line
  | [] => []
  | s :: ss => s.lines level [] ++ Stmt.linesAll level ss

end

theorem Stmt.linesAll_eq_flatMap (level : Nat) (ss : List Stmt) :
    Stmt.linesAll level ss = ss.flatMap (Stmt.lines level []) := by
  induction ss with
  | nil => rfl
  | cons s ss ih => simp [Stmt.linesAll, ih]

/-! ## Texts -/

def Expr.text (e : Expr) : String := String.ofList e.chars

/-- A statement at a level of indentation. -/
def Stmt.chars (level : Nat) (s : Stmt) : List Char := unlines ((s.lines level []).map Line.padded)

def Stmt.text (level : Nat) (s : Stmt) : String := String.ofList (s.chars level)

def Import.chars (i : Import) : List Char :=
  "const \x7b ".toList ++ commas (i.names.map String.toList) ++ " \x7d = require(\"".toList ++
    i.path.toList ++ "\");".toList

def Import.text (i : Import) : String := String.ofList i.chars

def Program.chars (p : Program) : List Char :=
  let body := unlines (p.body.map (Stmt.chars 0))
  if p.imports.isEmpty then body else unlines (p.imports.map Import.chars) ++ '\n' :: body

def Program.text (p : Program) : String := String.ofList p.chars

end TreeScript.Script
