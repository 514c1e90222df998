/-
  TreeScript.Proofs.Grammar — the expression grammar of scripts.

  `Derives ts p` says that the tokens `ts` are a phrase `p`. An expression is derived at a
  level, the looser the lower: 0 for `? :`, 1 to 6 for the operators that group to the left,
  7 for `**`, 8 for signs, 9 for calls and accesses, 10 for what stands by itself. Whatever
  is derived at a level is derived at every looser one. Each production is one of
  JavaScript's; `**` takes no sign on its left. What the language refuses beyond its grammar is
  left out, as an object literal with two `__proto__` keys, or as variables a word like `let`
  that strict code alone reserves.

  What a phrase keeps of the text of templates is kept by every derivation of it
  (`Derives.quasis_eq`), so tokens with other stretches of template text are another phrase.
-/

import TreeScript.Proofs.Spelling

namespace TreeScript.Script

/-! ## Nodes -/

mutual

/-- An expression as it is read; parentheses leave no trace. -/
inductive Node where
  | name (text : String)
  | number (value : Binary64)
  | boolean (value : Bool)
  | null
  | string (text : String)
  | template (head : String) (holes : List Hole)
  | array (elements : List Node)
  | object (fields : List Field)
  | call (callee : Node) (args : List Node)
  | member (object : Node) (property : String)
  | index (object position : Node)
  | construct (className : String) (args : List Node)
  | unary (op : Tree.UnaryOp) (operand : Node)
  | binary (op : Operator) (left right : Node)
  | conditional (test consequent alternate : Node)

/-- A property of an object literal; a key alone has the variable of that name as its value. -/
inductive Field where
  | mk (key : String) (value : Node)

/-- A substitution in a template, and the text after it. -/
inductive Hole where
  | mk (value : Node) (text : String)

end

inductive Phrase where
  | expr (level : Nat) (node : Node)
  /-- Expressions between commas. -/
  | items (nodes : List Node)
  | field (field : Field)
  /-- Properties between commas. -/
  | fields (fields : List Field)
  /-- A template from a stretch of its text on. -/
  | stretch (first : Bool) (text : String) (holes : List Hole)

/-! ## Levels -/

def Operator.level : Operator → Nat
  | .or => 1
  | .and => 2
  | .looseEq | .strictEq | .looseNe | .strictNe => 3
  | .lt | .gt | .le | .ge => 4
  | .add | .sub => 5
  | .mul | .div | .mod => 6
  | .pow => 7

/-- The level of an operator's left operand. -/
def Operator.leftLevel (op : Operator) : Nat := if op = .pow then 9 else op.level

def Operator.rightLevel (op : Operator) : Nat := if op = .pow then 7 else op.level + 1

/-- The words that are not names of variables. -/
def reserved : List String := [
  "await", "break", "case", "catch", "class", "const", "continue", "debugger", "default", "delete", "do", "else",
  "enum", "export", "extends", "false", "finally", "for", "function", "if", "import", "in", "instanceof", "new",
  "null", "return", "super", "switch", "this", "throw", "true", "try", "typeof", "var", "void", "while", "with",
  "yield"]

/-! ## Derivations -/

inductive Derives : List Token → Phrase → Prop
  | loosen {l : Nat} {ts : List Token} {t : Node} : Derives ts (.expr (l + 1) t) → Derives ts (.expr l t)
  | conditional {as bs cs : List Token} {t u v : Node} :
      Derives as (.expr 1 t) → Derives bs (.expr 0 u) → Derives cs (.expr 0 v) →
      Derives (as ++ .mark "?" :: (bs ++ .mark ":" :: cs)) (.expr 0 (.conditional t u v))
  | binary (op : Operator) {as bs : List Token} {t u : Node} :
      Derives as (.expr op.leftLevel t) → Derives bs (.expr op.rightLevel u) →
      Derives (as ++ .mark op.token :: bs) (.expr op.level (.binary op t u))
  | unary (op : Tree.UnaryOp) {as : List Token} {t : Node} :
      Derives as (.expr 8 t) → Derives (.mark op.symbol :: as) (.expr 8 (.unary op t))
  | call {as bs : List Token} {t : Node} {us : List Node} :
      Derives as (.expr 9 t) → Derives bs (.items us) →
      Derives (as ++ .mark "(" :: (bs ++ [.mark ")"])) (.expr 9 (.call t us))
  | member (property : String) {as : List Token} {t : Node} :
      Derives as (.expr 9 t) → Derives (as ++ [.mark ".", .name property]) (.expr 9 (.member t property))
  | index {as bs : List Token} {t u : Node} :
      Derives as (.expr 9 t) → Derives bs (.expr 0 u) →
      Derives (as ++ .mark "[" :: (bs ++ [.mark "]"])) (.expr 9 (.index t u))
  | name {text : String} : text ∉ reserved → Derives [.name text] (.expr 10 (.name text))
  | number (value : Binary64) : Derives [.number value] (.expr 10 (.number value))
  | boolean (value : Bool) : Derives [.name (if value then "true" else "false")] (.expr 10 (.boolean value))
  | null : Derives [.name "null"] (.expr 10 .null)
  | string (text : String) : Derives [.string text] (.expr 10 (.string text))
  | template {ts : List Token} {head : String} {holes : List Hole} :
      Derives ts (.stretch true head holes) → Derives ts (.expr 10 (.template head holes))
  | array {as : List Token} {ts : List Node} :
      Derives as (.items ts) → Derives (.mark "[" :: (as ++ [.mark "]"])) (.expr 10 (.array ts))
  | object {as : List Token} {fs : List Field} :
      Derives as (.fields fs) → Derives (.mark "\x7b" :: (as ++ [.mark "\x7d"])) (.expr 10 (.object fs))
  | paren {as : List Token} {t : Node} :
      Derives as (.expr 0 t) → Derives (.mark "(" :: (as ++ [.mark ")"])) (.expr 10 t)
  | construct {className : String} {as : List Token} {ts : List Node} : className ∉ reserved →
      Derives as (.items ts) →
      Derives (.name "new" :: .name className :: .mark "(" :: (as ++ [.mark ")"])) (.expr 10 (.construct className ts))
  | noItems : Derives [] (.items [])
  | lastItem {as : List Token} {t : Node} : Derives as (.expr 0 t) → Derives as (.items [t])
  | moreItems {as bs : List Token} {t u : Node} {us : List Node} :
      Derives as (.expr 0 t) → Derives bs (.items (u :: us)) → Derives (as ++ .mark "," :: bs) (.items (t :: u :: us))
  | shorthand {text : String} : text ∉ reserved → Derives [.name text] (.field ⟨text, .name text⟩)
  | namedField (key : String) {as : List Token} {t : Node} :
      Derives as (.expr 0 t) → Derives (.name key :: .mark ":" :: as) (.field ⟨key, t⟩)
  | quotedField (key : String) {as : List Token} {t : Node} :
      Derives as (.expr 0 t) → Derives (.string key :: .mark ":" :: as) (.field ⟨key, t⟩)
  | noFields : Derives [] (.fields [])
  | lastField {as : List Token} {f : Field} : Derives as (.field f) → Derives as (.fields [f])
  | moreFields {as bs : List Token} {f g : Field} {fs : List Field} :
      Derives as (.field f) → Derives bs (.fields (g :: fs)) → Derives (as ++ .mark "," :: bs) (.fields (f :: g :: fs))
  | lastStretch (first : Bool) (text : String) : Derives [.quasi first text true] (.stretch first text [])
  | moreStretches (first : Bool) (text : String) {as bs : List Token} {t : Node} {after : String} {hs : List Hole} :
      Derives as (.expr 0 t) → Derives bs (.stretch false after hs) →
      Derives (.quasi first text false :: (as ++ bs)) (.stretch first text (⟨t, after⟩ :: hs))

/-- A text is read as a node: its tokens are an expression, and they are all of it. -/
def Reads (text : String) (t : Node) : Prop := ∃ ts, lex [] text.toList = some ts ∧ Derives ts (.expr 0 t)

theorem Derives.loosenTo {ts : List Token} {t : Node} {l m : Nat} (h : l ≤ m) (hd : Derives ts (.expr m t)) :
    Derives ts (.expr l t) := by
  induction h with
  | refl => exact hd
  | step _ ih => exact ih hd.loosen

/-! ## Template text -/

mutual

/-- The stretches of template text in a node, in order. -/
def Node.quasis : Node → List Token
  | .name _ | .number _ | .boolean _ | .null | .string _ => []
  | .template head holes => Hole.quasisFrom true head holes
  | .array elements => Node.quasisAll elements
  | .object fields => Field.quasisAll fields
  | .call callee args => callee.quasis ++ Node.quasisAll args
  | .member object _ => object.quasis
  | .index object position => object.quasis ++ position.quasis
  | .construct _ args => Node.quasisAll args
  | .unary _ operand => operand.quasis
  | .binary _ left right => left.quasis ++ right.quasis
  | .conditional test consequent alternate => test.quasis ++ consequent.quasis ++ alternate.quasis

def Node.quasisAll : List Node → List Token
  | [] => []
  | t :: ts => t.quasis ++ Node.quasisAll ts

def Field.quasisAll : List Field → List Token
  | [] => []
  | ⟨_, value⟩ :: fs => value.quasis ++ Field.quasisAll fs

def Hole.quasisFrom (first : Bool) (text : String) : List Hole → List Token
  | [] => [.quasi first text true]
  | ⟨value, after⟩ :: hs => .quasi first text false :: (value.quasis ++ Hole.quasisFrom false after hs)

end

def Phrase.quasis : Phrase → List Token
  | .expr _ t => t.quasis
  | .items ts => Node.quasisAll ts
  | .field f => Field.quasisAll [f]
  | .fields fs => Field.quasisAll fs
  | .stretch first text holes => Hole.quasisFrom first text holes

theorem Field.quasisAll_cons (f : Field) (fs : List Field) :
    Field.quasisAll (f :: fs) = Field.quasisAll [f] ++ Field.quasisAll fs := by
  obtain ⟨key, value⟩ := f
  simp [Field.quasisAll]

theorem Derives.quasis_eq {ts : List Token} {p : Phrase} (h : Derives ts p) : quasis ts = p.quasis := by
  induction h with
  | moreFields _ _ ihf ihfs =>
    rw [quasis_append, ihf]
    exact (congrArg _ ihfs).trans (Field.quasisAll_cons _ _).symm
  | moreStretches first text _ _ iht ihs =>
    show .quasi first text false :: quasis _ = _
    rw [quasis_append, iht, ihs]
    simp [Phrase.quasis, Hole.quasisFrom]
  | _ =>
    simp_all [Phrase.quasis, Node.quasis, Node.quasisAll, Field.quasisAll, Hole.quasisFrom, quasis, Token.isQuasi]

end TreeScript.Script
