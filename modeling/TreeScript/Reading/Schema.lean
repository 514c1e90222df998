/-
  TreeScript.Reading.Schema — the form in which syntax trees are serialized.

  A `Kind` is a place in the serialized form, and `Kind.Denote` is what is read there. A
  node of the tree is an object with a `type`, or a list that begins with it; which fields
  it has besides is said by the `Variant` of that name. Field names, tags, their order and
  their defaults are data here; how they are read is the decoder's matter.
-/

import TreeScript.Tree.Basic

namespace TreeScript.Reading

/-! ## Kinds -/

/-- The nodes that carry a tag. -/
inductive Node where
  | stmt
  | expr
  | pattern
  | literal
  deriving DecidableEq, Repr

/-- The groups of fields that carry none. -/
inductive Group where
  | block
  | clause
  | property
  deriving DecidableEq, Repr

/-- The places where one word of a fixed set is expected. -/
inductive WordSet where
  | varKind
  | binaryOp
  | unaryOp
  deriving DecidableEq, Repr

inductive Kind where
  | text
  | number
  | flag
  | unit
  | tag
  | word (set : WordSet)
  | part
  | node (n : Node)
  | group (g : Group)
  | list (k : Kind)
  | optional (k : Kind)
  deriving DecidableEq, Repr

/-- A tag names a variant, or gives its position among the variants. -/
inductive Tag where
  | name (name : String)
  | position (position : Nat)
  deriving DecidableEq, Repr

abbrev Node.Denote : Node → Type
  | .stmt => Tree.Stmt
  | .expr => Tree.Expr
  | .pattern => Tree.Pattern
  | .literal => Tree.Literal

abbrev Group.Denote : Group → Type
  | .block => List Tree.Stmt
  | .clause => Tree.Clause
  | .property => Tree.Property

abbrev WordSet.Denote : WordSet → Type
  | .varKind => Tree.VarKind
  | .binaryOp => Tree.BinaryOp
  | .unaryOp => Tree.UnaryOp

abbrev Kind.Denote : Kind → Type
  | .text => String
  | .number => Binary64
  | .flag => Bool
  | .unit => Unit
  | .tag => Tag
  | .word set => set.Denote
  | .part => Tree.Part
  | .node n => n.Denote
  | .group g => g.Denote
  | .list k => List k.Denote
  | .optional k => Option k.Denote

def WordSet.words : (set : WordSet) → List (String × set.Denote)
  | .varKind => Tree.VarKind.all.map fun k => (k.keyword, k)
  | .binaryOp => Tree.BinaryOp.all.map fun op => (op.symbol, op)
  | .unaryOp => Tree.UnaryOp.all.map fun op => (op.symbol, op)

/-! ## Fields -/

structure Field where
  name : String
  kind : Kind
  /-- Another name that the field goes by. -/
  otherName : Option String := none
  /-- What the field holds when it is not there; without this it must be there. -/
  absent : Option kind.Denote := none

def Field.isCalled (f : Field) (key : String) : Bool := key = f.name || some key = f.otherName

/-- The contents of a list of fields. -/
abbrev Row : List Field → Type
  | [] => Unit
  | f :: fs => f.kind.Denote × Row fs

/-- A shape, its fields, and what they make up. -/
structure Variant (α : Type) where
  tag : String
  shape : String
  fields : List Field
  build : Row fields → α

/-! ## The serialized form -/

def exprField (name : String) : Field := ⟨name, .node .expr, none, none⟩

def optionalExprField (name : String) : Field := ⟨name, .optional (.node .expr), none, some none⟩

def exprsField (name : String) : Field := ⟨name, .list (.node .expr), none, none⟩

def textField (name : String) : Field := ⟨name, .text, none, none⟩

def blockField (name : String) : Field := ⟨name, .group .block, none, none⟩

def bodyField : Field := ⟨"body", .list (.node .stmt), none, none⟩

def blockVariant : Variant (List Tree.Stmt) :=
  ⟨"BlockStatement", "struct Block", [bodyField], fun (body, ()) => body⟩

def clauseVariant : Variant Tree.Clause :=
  ⟨"PatternClause", "struct PatternClause",
    [textField "name", ⟨"patterns", .list (.node .pattern), none, none⟩, optionalExprField "guard",
      blockField "body"],
    fun (name, patterns, guard, body, ()) => ⟨name, patterns, guard, body⟩⟩

def propertyVariant : Variant Tree.Property :=
  ⟨"Property", "struct Property",
    [textField "key", exprField "value", ⟨"shorthand", .flag, none, some false⟩],
    fun (key, value, shorthand, ()) => ⟨key, value, shorthand⟩⟩

def numericLiteral (owner : String) : Variant Tree.Literal :=
  ⟨"NumericLiteral", "struct variant " ++ owner ++ "::NumericLiteral", [⟨"value", .number, none, none⟩],
    fun (value, ()) => .number value⟩

def booleanLiteral (owner : String) : Variant Tree.Literal :=
  ⟨"BooleanLiteral", "struct variant " ++ owner ++ "::BooleanLiteral", [⟨"value", .flag, none, none⟩],
    fun (value, ()) => .boolean value⟩

def nilLiteral (owner : String) : Variant Tree.Literal :=
  ⟨"NilLiteral", "unit variant " ++ owner ++ "::NilLiteral", [], fun () => .nil⟩

def stringLiteral (owner : String) : Variant Tree.Literal :=
  ⟨"StringLiteral", "struct variant " ++ owner ++ "::StringLiteral", [textField "value"],
    fun (value, ()) => .string value⟩

def symbolLiteral (owner : String) : Variant Tree.Literal :=
  ⟨"SymbolLiteral", "struct variant " ++ owner ++ "::SymbolLiteral", [textField "name"],
    fun (name, ()) => .symbol name⟩

/-- The same fields, made into something else. -/
def Variant.map {α β : Type} (f : α → β) (v : Variant α) : Variant β := ⟨v.tag, v.shape, v.fields, f ∘ v.build⟩

def literalVariants : List (Variant Tree.Literal) :=
  [numericLiteral "Literal", booleanLiteral "Literal", nilLiteral "Literal", stringLiteral "Literal",
    symbolLiteral "Literal"]

def patternVariants : List (Variant Tree.Pattern) := [
  ⟨"Literal", "struct variant Pattern::Literal", [⟨"value", .node .literal, none, none⟩],
    fun (value, ()) => .literal value⟩,
  ⟨"Wildcard", "unit variant Pattern::Wildcard", [], fun () => .wildcard⟩,
  ⟨"Binding", "struct variant Pattern::Binding", [textField "name"], fun (name, ()) => .binding name⟩]

def exprVariants : List (Variant Tree.Expr) := [
  ⟨"ConditionalExpression", "struct variant Expr::Conditional",
    [exprField "test", exprField "consequent", exprField "alternate"],
    fun (test, consequent, alternate, ()) => .conditional test consequent alternate⟩,
  ⟨"BinaryExpression", "struct variant Expr::Binary",
    [⟨"op", .word .binaryOp, none, none⟩, exprField "left", exprField "right"],
    fun (op, left, right, ()) => .binary op left right⟩,
  ⟨"UnaryExpression", "struct variant Expr::Unary",
    [⟨"op", .word .unaryOp, none, none⟩, exprField "operand"],
    fun (op, operand, ()) => .unary op operand⟩,
  ⟨"CallExpression", "struct variant Expr::Call", [exprField "callee", exprsField "args"],
    fun (callee, args, ()) => .call callee args⟩,
  ⟨"MemberExpression", "struct variant Expr::Member", [exprField "object", textField "property"],
    fun (object, property, ()) => .member object property⟩,
  ⟨"IndexExpression", "struct variant Expr::Index", [exprField "object", exprField "index"],
    fun (object, position, ()) => .index object position⟩,
  ⟨"RangeLiteral", "struct variant Expr::RangeLiteral",
    [exprField "start", exprField "end", optionalExprField "step"],
    fun (first, last, step, ()) => .range first last step⟩,
  ⟨"ArrayLiteral", "struct variant Expr::ArrayLiteral", [exprsField "elements"],
    fun (elements, ()) => .array elements⟩,
  ⟨"ObjectLiteral", "struct variant Expr::ObjectLiteral",
    [⟨"properties", .list (.group .property), none, none⟩],
    fun (properties, ()) => .object properties⟩,
  ⟨"Identifier", "struct variant Expr::Identifier", [textField "name"], fun (name, ()) => .identifier name⟩,
  (numericLiteral "Expr").map .literal,
  (booleanLiteral "Expr").map .literal,
  (nilLiteral "Expr").map .literal,
  ⟨"UndefinedLiteral", "unit variant Expr::UndefinedLiteral", [], fun () => .undefined⟩,
  (symbolLiteral "Expr").map .literal,
  (stringLiteral "Expr").map .literal,
  ⟨"InterpolatedString", "struct variant Expr::InterpolatedString", [⟨"parts", .list .part, none, none⟩],
    fun (parts, ()) => .interpolated parts⟩]

def stmtVariants : List (Variant Tree.Stmt) := [
  ⟨"VariableDeclaration", "struct variant Stmt::VariableDeclaration",
    [⟨"kind", .word .varKind, none, none⟩, textField "name", exprField "init"],
    fun (kind, name, value, ()) => .declare kind name value⟩,
  ⟨"FunctionDeclaration", "struct FunctionDeclaration",
    [textField "name", ⟨"params", .list .text, none, none⟩, blockField "body"],
    fun (name, params, body, ()) => .function name params body⟩,
  clauseVariant.map .clause,
  ⟨"PatternDispatch", "struct PatternDispatch",
    [textField "name", ⟨"clauses", .list (.group .clause), none, none⟩],
    fun (name, clauses, ()) => .dispatch name clauses⟩,
  ⟨"IfStatement", "struct If",
    [exprField "test", blockField "consequent", ⟨"alternate", .optional (.node .stmt), none, some none⟩],
    fun (test, consequent, alternate, ()) => .branch test consequent alternate⟩,
  ⟨"UnlessStatement", "struct variant Stmt::Unless", [exprField "test", blockField "consequent"],
    fun (test, consequent, ()) => .unless test consequent⟩,
  ⟨"ReturnStatement", "struct variant Stmt::Return", [exprField "value"], fun (value, ()) => .ret value⟩,
  ⟨"ExpressionStatement", "struct variant Stmt::ExpressionStatement",
    [⟨"expression", .node .expr, some "expr", none⟩], fun (value, ()) => .expr value⟩,
  blockVariant.map .block]

def Node.variants : (n : Node) → List (Variant n.Denote)
  | .stmt => stmtVariants
  | .expr => exprVariants
  | .pattern => patternVariants
  | .literal => literalVariants

def Node.name : Node → String
  | .stmt => "Stmt"
  | .expr => "Expr"
  | .pattern => "Pattern"
  | .literal => "Literal"

def Group.variant : (g : Group) → Variant g.Denote
  | .block => blockVariant
  | .clause => clauseVariant
  | .property => propertyVariant

end TreeScript.Reading
