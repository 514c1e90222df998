/-
  TreeScript.Library.Usage — the modules that a program calls for.

  The whole tree is walked, a node before its parts and the parts in their order. A node
  calls for the module of its kind, and a name for the owner of the built-in of that name,
  or else for the module of the facility of that name. Nothing is bound or scoped here.
-/

import TreeScript.Library.Closure

namespace TreeScript.Library

open TreeScript.Tree (Expr Stmt Clause Property Part Pattern)

def noteAny (keys : List String) (key : Option String) : List String :=
  match key with
  | some key => note keys key
  | none => keys

def noteKind (lib : Library) (kind : String) (keys : List String) : List String :=
  noteAny keys (lib.nodeModule? kind)

def noteName (lib : Library) (name : String) (keys : List String) : List String :=
  noteAny keys (lib.builtinOwner? name <|> lib.facility? name)

def notePatterns (lib : Library) : List Pattern → List String → List String
  | [], keys => keys
  | .literal value :: ps, keys => notePatterns lib ps (noteKind lib value.kind keys)
  | _ :: ps, keys => notePatterns lib ps keys

mutual

def noteExpr (lib : Library) : Expr → List String → List String
  | .conditional test consequent alternate, keys =>
    noteExpr lib alternate
      (noteExpr lib consequent (noteExpr lib test (noteKind lib "ConditionalExpression" keys)))
  | .binary _ left right, keys =>
    noteExpr lib right (noteExpr lib left (noteKind lib "BinaryExpression" keys))
  | .unary _ operand, keys => noteExpr lib operand (noteKind lib "UnaryExpression" keys)
  | .call callee args, keys => noteExprs lib args (noteExpr lib callee (noteKind lib "CallExpression" keys))
  | .member object _, keys => noteExpr lib object (noteKind lib "MemberExpression" keys)
  | .index object position, keys =>
    noteExpr lib position (noteExpr lib object (noteKind lib "IndexExpression" keys))
  | .range first last none, keys =>
    noteExpr lib last (noteExpr lib first (noteKind lib "RangeLiteral" keys))
  | .range first last (some step), keys =>
    noteExpr lib step (noteExpr lib last (noteExpr lib first (noteKind lib "RangeLiteral" keys)))
  | .array elements, keys => noteExprs lib elements (noteKind lib "ArrayLiteral" keys)
  | .object properties, keys => noteProperties lib properties (noteKind lib "ObjectLiteral" keys)
  | .identifier name, keys => noteName lib name (noteKind lib "Identifier" keys)
  | .literal value, keys => noteKind lib value.kind keys
  | .undefined, keys => noteKind lib "UndefinedLiteral" keys
  | .interpolated parts, keys => noteParts lib parts (noteKind lib "InterpolatedString" keys)

def noteExprs (lib : Library) : List Expr → List String → List String
  | [], keys => keys
  | e :: es, keys => noteExprs lib es (noteExpr lib e keys)

def noteProperties (lib : Library) : List Property → List String → List String
  | [], keys => keys
  | ⟨_, value, _⟩ :: ps, keys => noteProperties lib ps (noteExpr lib value keys)

def noteParts (lib : Library) : List Part → List String → List String
  | [], keys => keys
  | .text _ :: ps, keys => noteParts lib ps keys
  | .expr value :: ps, keys => noteParts lib ps (noteExpr lib value keys)

end

def noteGuard (lib : Library) : Option Expr → List String → List String
  | none, keys => keys
  | some guard, keys => noteExpr lib guard keys

mutual

def noteStmt (lib : Library) : Stmt → List String → List String
  | .declare _ _ value, keys => noteExpr lib value (noteKind lib "VariableDeclaration" keys)
  | .function _ _ body, keys => noteStmts lib body (noteKind lib "FunctionDeclaration" keys)
  | .clause c, keys => noteClause lib c (noteKind lib "PatternClause" keys)
  | .dispatch _ clauses, keys => noteClauses lib clauses (noteKind lib "PatternDispatch" keys)
  | .branch test consequent none, keys =>
    noteStmts lib consequent (noteExpr lib test (noteKind lib "IfStatement" keys))
  | .branch test consequent (some alternate), keys =>
    noteStmt lib alternate (noteStmts lib consequent (noteExpr lib test (noteKind lib "IfStatement" keys)))
  | .unless test consequent, keys =>
    noteStmts lib consequent (noteExpr lib test (noteKind lib "UnlessStatement" keys))
  | .ret value, keys => noteExpr lib value (noteKind lib "ReturnStatement" keys)
  | .expr value, keys => noteExpr lib value (noteKind lib "ExpressionStatement" keys)
  | .block body, keys => noteStmts lib body (noteKind lib "BlockStatement" keys)

def noteStmts (lib : Library) : List Stmt → List String → List String
  | [], keys => keys
  | s :: ss, keys => noteStmts lib ss (noteStmt lib s keys)

def noteClause (lib : Library) : Clause → List String → List String
  | ⟨_, patterns, guard, body⟩, keys =>
    noteStmts lib body (noteGuard lib guard (notePatterns lib patterns keys))

def noteClauses (lib : Library) : List Clause → List String → List String
  | [], keys => keys
  | c :: cs, keys => noteClauses lib cs (noteClause lib c keys)

end

/-- The keys that a program's own nodes call for, in order of first call. -/
def used (lib : Library) (p : Tree.Program) : List String := noteStmts lib p.body []

/-- The modules that a program needs. -/
def needed (lib : Library) (p : Tree.Program) : List String := lib.closure (lib.used p)

end TreeScript.Library
