/-
  TreeScript.Tree.Basic — syntax trees of Dazzl programs.

  A program is a list of statements. A function may be written as several clauses, each
  with patterns for the arguments and perhaps a guard; a dispatcher is one function made
  of such clauses. Block bodies are plain statement lists.
-/

import TreeScript.Binary64.Basic

namespace TreeScript.Tree

/-- How a variable is declared. -/
inductive VarKind where
  | const
  | let_
  | var
  deriving DecidableEq, Repr

inductive BinaryOp where
  | add
  | sub
  | mul
  | div
  | mod
  | pow
  | intDiv
  | concat
  | append
  | eq
  | notEq
  | lt
  | gt
  | le
  | ge
  | and
  | or
  deriving DecidableEq, Repr

inductive UnaryOp where
  | neg
  | pos
  | not
  deriving DecidableEq, Repr

/-- The values that stand for themselves, in an expression and in a pattern. -/
inductive Literal where
  | number (value : Binary64)
  | boolean (value : Bool)
  | nil
  | string (value : String)
  | symbol (name : String)
  deriving DecidableEq, Repr

inductive Pattern where
  | literal (value : Literal)
  | wildcard
  | binding (name : String)
  deriving DecidableEq, Repr

mutual

inductive Expr where
  | conditional (test consequent alternate : Expr)
  | binary (op : BinaryOp) (left right : Expr)
  | unary (op : UnaryOp) (operand : Expr)
  | call (callee : Expr) (args : List Expr)
  | member (object : Expr) (property : String)
  | index (object position : Expr)
  | range (first last : Expr) (step : Option Expr)
  | array (elements : List Expr)
  | object (properties : List Property)
  | identifier (name : String)
  | literal (value : Literal)
  | undefined
  | interpolated (parts : List Part)

/-- A property of an object literal. -/
structure Property where
  key : String
  value : Expr
  shorthand : Bool

/-- A piece of an interpolated string. -/
inductive Part where
  | text (text : String)
  | expr (value : Expr)

end

mutual

inductive Stmt where
  | declare (kind : VarKind) (name : String) (value : Expr)
  | function (name : String) (params : List String) (body : List Stmt)
  | clause (clause : Clause)
  | dispatch (name : String) (clauses : List Clause)
  | branch (test : Expr) (consequent : List Stmt) (alternate : Option Stmt)
  | unless (test : Expr) (consequent : List Stmt)
  | ret (value : Expr)
  | expr (value : Expr)
  | block (body : List Stmt)

/-- One clause of a function: it applies to arguments that its patterns match and its guard accepts. -/
structure Clause where
  name : String
  patterns : List Pattern
  guard : Option Expr
  body : List Stmt

end

structure Program where
  body : List Stmt

/-! ## Spellings -/

def VarKind.keyword : VarKind → String
  | .const => "const"
  | .let_ => "let"
  | .var => "var"

def VarKind.all : List VarKind := [.const, .let_, .var]

def BinaryOp.symbol : BinaryOp → String
  | .add => "+"
  | .sub => "-"
  | .mul => "*"
  | .div => "/"
  | .mod => "%"
  | .pow => "**"
  | .intDiv => "//"
  | .concat => "<>"
  | .append => "++"
  | .eq => "=="
  | .notEq => "!="
  | .lt => "<"
  | .gt => ">"
  | .le => "<="
  | .ge => ">="
  | .and => "&&"
  | .or => "||"

def BinaryOp.all : List BinaryOp :=
  [.add, .sub, .mul, .div, .mod, .pow, .intDiv, .concat, .append, .eq, .notEq, .lt, .gt, .le, .ge, .and, .or]

def UnaryOp.symbol : UnaryOp → String
  | .neg => "-"
  | .pos => "+"
  | .not => "!"

def UnaryOp.all : List UnaryOp := [.neg, .pos, .not]

/-! ## Kinds of nodes -/

def Literal.kind : Literal → String
  | .number _ => "NumericLiteral"
  | .boolean _ => "BooleanLiteral"
  | .nil => "NilLiteral"
  | .string _ => "StringLiteral"
  | .symbol _ => "SymbolLiteral"

def Expr.kind : Expr → String
  | .conditional .. => "ConditionalExpression"
  | .binary .. => "BinaryExpression"
  | .unary .. => "UnaryExpression"
  | .call .. => "CallExpression"
  | .member .. => "MemberExpression"
  | .index .. => "IndexExpression"
  | .range .. => "RangeLiteral"
  | .array _ => "ArrayLiteral"
  | .object _ => "ObjectLiteral"
  | .identifier _ => "Identifier"
  | .literal value => value.kind
  | .undefined => "UndefinedLiteral"
  | .interpolated _ => "InterpolatedString"

def Stmt.kind : Stmt → String
  | .declare .. => "VariableDeclaration"
  | .function .. => "FunctionDeclaration"
  | .clause _ => "PatternClause"
  | .dispatch .. => "PatternDispatch"
  | .branch .. => "IfStatement"
  | .unless .. => "UnlessStatement"
  | .ret _ => "ReturnStatement"
  | .expr _ => "ExpressionStatement"
  | .block _ => "BlockStatement"

/-! ## Questions about nodes -/

def Expr.isNil : Expr → Bool
  | .literal .nil => true
  | _ => false

/-- Whether a pattern puts a condition on its argument. -/
def Pattern.checked : Pattern → Bool
  | .literal _ => true
  | _ => false

def Pattern.bound? : Pattern → Option String
  | .binding name => some name
  | _ => none

/-- Whether a clause applies to all arguments. -/
def Clause.catchAll (c : Clause) : Bool := c.guard.isNone && !c.patterns.any Pattern.checked

/-- The number of arguments that a dispatcher looks at: the most that one of its clauses names. -/
def arity (clauses : List Clause) : Nat := (clauses.map (·.patterns.length)).foldl max 0

/-- The name that a statement declares in the list it stands in. -/
def Stmt.declared? : Stmt → Option String
  | .declare _ name _ => some name
  | .function name _ _ => some name
  | .clause c => some c.name
  | .dispatch name _ => some name
  | _ => none

end TreeScript.Tree
