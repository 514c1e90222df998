/-
  TreeScript.Script.Basic — the part of JavaScript that programs are written in.

  Parentheses are nodes of their own: whoever builds an expression says where they stand,
  and writing it down adds none.
-/

import TreeScript.Tree.Basic

namespace TreeScript.Script

/-- The operators written between their operands. -/
inductive Operator where
  | add
  | sub
  | mul
  | div
  | mod
  | pow
  | looseEq
  | strictEq
  | looseNe
  | strictNe
  | lt
  | gt
  | le
  | ge
  | and
  | or
  deriving DecidableEq, Repr

def Operator.token : Operator → String
  | .add => "+"
  | .sub => "-"
  | .mul => "*"
  | .div => "/"
  | .mod => "%"
  | .pow => "**"
  | .looseEq => "=="
  | .strictEq => "==="
  | .looseNe => "!="
  | .strictNe => "!=="
  | .lt => "<"
  | .gt => ">"
  | .le => "<="
  | .ge => ">="
  | .and => "&&"
  | .or => "||"

mutual

inductive Expr where
  | name (name : String)
  | number (value : Binary64)
  | boolean (value : Bool)
  | null
  | undefined
  | string (value : String)
  | template (parts : List TemplatePart)
  | array (elements : List Expr)
  | object (entries : List Entry)
  | paren (inner : Expr)
  | call (callee : Expr) (args : List Expr)
  | member (object : Expr) (property : String)
  | index (object position : Expr)
  | construct (className : String) (args : List Expr)
  | unary (op : Tree.UnaryOp) (operand : Expr)
  | binary (op : Operator) (left right : Expr)
  | conditional (test consequent alternate : Expr)

/-- An entry of an object literal: a key alone stands for the variable of that name. -/
inductive Entry where
  | bare (key : String)
  | keyed (key : String) (value : Expr)

inductive TemplatePart where
  | text (text : String)
  | expr (value : Expr)

end

inductive Stmt where
  | declare (kind : Tree.VarKind) (name : String) (value : Expr)
  | function (name : String) (params : List String) (body : List Stmt)
  | branch (test : Expr) (consequent : List Stmt) (alternate : Option Stmt)
  | ret (value : Expr)
  | throwError (message : String)
  | expr (value : Expr)
  | block (body : List Stmt)

/-- A module's exports, bound to their names. -/
structure Import where
  names : List String
  path : String
  deriving DecidableEq, Repr

structure Program where
  imports : List Import
  body : List Stmt

end TreeScript.Script
