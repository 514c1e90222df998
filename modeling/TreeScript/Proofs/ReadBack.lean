/-
  TreeScript.Proofs.ReadBack — the text of an expression is read as what it stands for.

  `node s e` is what a tree's expression stands for in scripts, written without a thought of
  parentheses: the same operators over the same operands, but for the rewrites that scripts
  need. Lowering puts parentheses where `wrapsOperand`, `wrapsSigned` and `wrapsObject` say;
  `grade` is the level at which an expression's tokens are then derived, and what is not
  wrapped has a high enough grade for its place (`le_grade_of_wrapsOperand` and its like). So
  the tokens of the lowered expression derive the node (`derives`), and the grammar derives
  nothing else from them.

  There are two exceptions. Literal parts of templates are escaped one by one, and a `$` at
  the end of one opens a substitution if the literal text after it starts with a brace; an
  empty part between the two does not help. And names, and the keys that stand without
  quotes, may hold letters and numbers that no identifier has. `words` lists both as the
  script spells them. `read_back_iff` says that there is no other exception.
-/

import TreeScript.Lowering.Expr
import TreeScript.Library.Standard
import TreeScript.Proofs.Unambiguous

namespace TreeScript

/-! ## Names and templates -/

/-- What looks like a name and is not reserved. -/
def Script.isVariable (name : String) : Bool := isName name && name ∉ reserved

/-- Whether the names that a library puts into scripts look like variables. -/
def Library.wellNamed (lib : Library) : Bool :=
  lib.aliases.all (fun (_, target) => Script.isVariable target) &&
    lib.builtins.all fun (_, owner) => Script.isVariable owner

namespace Tree

/-- The literal text that the parts of an interpolated string begin with. -/
def Part.lead : List Part → String
  | .text t :: ps => t ++ Part.lead ps
  | _ => ""

mutual

/-- Whether identifiers look like variables and properties like names. -/
def Expr.wellNamed : Expr → Bool
  | .conditional test consequent alternate => test.wellNamed && consequent.wellNamed && alternate.wellNamed
  | .binary _ left right => left.wellNamed && right.wellNamed
  | .unary _ operand => operand.wellNamed
  | .call callee args => callee.wellNamed && Expr.wellNamedAll args
  | .member object property => object.wellNamed && Script.isName property
  | .index object position => object.wellNamed && position.wellNamed
  | .range first last none => first.wellNamed && last.wellNamed
  | .range first last (some step) => first.wellNamed && last.wellNamed && step.wellNamed
  | .array elements => Expr.wellNamedAll elements
  | .object properties => Property.wellNamedAll properties
  | .identifier name => Script.isVariable name
  | .literal _ => true
  | .undefined => true
  | .interpolated parts => Part.wellNamedAll parts

def Expr.wellNamedAll : List Expr → Bool
  | [] => true
  | e :: es => e.wellNamed && Expr.wellNamedAll es

def Property.wellNamedAll : List Property → Bool
  | [] => true
  | ⟨_, value, _⟩ :: ps => value.wellNamed && Property.wellNamedAll ps

def Part.wellNamedAll : List Part → Bool
  | [] => true
  | .text _ :: ps => Part.wellNamedAll ps
  | .expr value :: ps => value.wellNamed && Part.wellNamedAll ps

end

mutual

/-- Whether in no interpolated string a literal part ends in `$` where the literal text after it starts
with a brace. -/
def Expr.unsplit : Expr → Bool
  | .conditional test consequent alternate => test.unsplit && consequent.unsplit && alternate.unsplit
  | .binary _ left right => left.unsplit && right.unsplit
  | .unary _ operand => operand.unsplit
  | .call callee args => callee.unsplit && Expr.unsplitAll args
  | .member object _ => object.unsplit
  | .index object position => object.unsplit && position.unsplit
  | .range first last none => first.unsplit && last.unsplit
  | .range first last (some step) => first.unsplit && last.unsplit && step.unsplit
  | .array elements => Expr.unsplitAll elements
  | .object properties => Property.unsplitAll properties
  | .identifier _ => true
  | .literal _ => true
  | .undefined => true
  | .interpolated parts => Part.unsplitAll parts

def Expr.unsplitAll : List Expr → Bool
  | [] => true
  | e :: es => e.unsplit && Expr.unsplitAll es

def Property.unsplitAll : List Property → Bool
  | [] => true
  | ⟨_, value, _⟩ :: ps => value.unsplit && Property.unsplitAll ps

def Part.unsplitAll : List Part → Bool
  | [] => true
  | .text t :: ps => !Script.glues t.toList (Part.lead ps).toList && Part.unsplitAll ps
  | .expr value :: ps => value.unsplit && Part.unsplitAll ps

end

end Tree

namespace Lowering

open TreeScript.Script (Node Derives Token)
open TreeScript.Tree (BinaryOp)

/-! ## What an expression stands for -/

/-- A number below zero is the negation of a numeral; the two numbers without a numeral are global names. -/
def numberNode (x : Binary64) : Node :=
  let magnitude : Node := if x.isInfinite then .name "Infinity" else .number ⟨false, x.rank⟩
  if x.isNaN then .name "NaN" else if x.negative then .unary .neg magnitude else magnitude

def literalNode : Tree.Literal → Node
  | .number value => numberNode value
  | .boolean value => .boolean value
  | .nil => .null
  | .string value => .string value
  | .symbol name => .call (.member (.name "Symbol") "for") [.string name]

/-- An operator over two nodes; equality is `loose` when a side is nil. -/
def binaryNode (op : BinaryOp) (loose : Bool) (left right : Node) : Node :=
  match op with
  | .intDiv => .call (.member (.name "Math") "floor") [.binary .div left right]
  | .concat => .call (.member (.string "") "concat") [left, right]
  | .append => .call (.member (.array []) "concat") [left, right]
  | .eq => .binary (if loose then .looseEq else .strictEq) left right
  | .notEq => .binary (if loose then .looseNe else .strictNe) left right
  | .add => .binary .add left right
  | .sub => .binary .sub left right
  | .mul => .binary .mul left right
  | .div => .binary .div left right
  | .mod => .binary .mod left right
  | .pow => .binary .pow left right
  | .lt => .binary .lt left right
  | .gt => .binary .gt left right
  | .le => .binary .le left right
  | .ge => .binary .ge left right
  | .and => .binary .and left right
  | .or => .binary .or left right

/-- A built-in is a member of the module that owns it. -/
def builtinNode? (s : Scope) : Tree.Expr → Option Node
  | .identifier name =>
    (s.library.builtinOwner? name).map fun owner => .member (.name (s.library.spelling owner)) name
  | _ => none

mutual

def node (s : Scope) : Tree.Expr → Node
  | .conditional test consequent alternate => .conditional (node s test) (node s consequent) (node s alternate)
  | .binary op left right => binaryNode op (left.isNil || right.isNil) (node s left) (node s right)
  | .unary op operand => .unary op (node s operand)
  | .call f args => .call ((builtinNode? s f).getD (node s f)) (nodes s args)
  | .member object property => .member (node s object) property
  | .index object position => .index (node s object) (node s position)
  | .range first last none => .construct "_Range" [node s first, node s last]
  | .range first last (some step) => .construct "_Range" [node s first, node s last, node s step]
  | .array elements => .array (nodes s elements)
  | .object properties => .object (fields s properties)
  | .identifier name => .name (s.spelled name)
  | .literal value => literalNode value
  | .undefined => .name "undefined"
  | .interpolated parts => .template (Tree.Part.lead parts) (holes s parts)

def nodes (s : Scope) : List Tree.Expr → List Node
  | [] => []
  | e :: es => node s e :: nodes s es

def fields (s : Scope) : List Tree.Property → List Script.Field
  | [] => []
  | ⟨key, value, _⟩ :: ps => ⟨key, node s value⟩ :: fields s ps

/-- The expressions of an interpolated string, each with the literal text between it and the next one. -/
def holes (s : Scope) : List Tree.Part → List Script.Hole
  | [] => []
  | .text _ :: ps => holes s ps
  | .expr value :: ps => ⟨node s value, Tree.Part.lead ps⟩ :: holes s ps

end

/-! ## The words of a script -/

/-- The names that the call of a built-in begins with. -/
def builtinWords? (s : Scope) : Tree.Expr → Option (List String)
  | .identifier name => (s.library.builtinOwner? name).map fun owner => [s.library.spelling owner, name]
  | _ => none

mutual

/-- The names in an expression's script, as they are spelled there, and the keys that stand there without quotes. The
names that a rewrite brings along are left out. -/
def words (s : Scope) : Tree.Expr → List String
  | .conditional test consequent alternate => words s test ++ words s consequent ++ words s alternate
  | .binary _ left right => words s left ++ words s right
  | .unary _ operand => words s operand
  | .call f args => (builtinWords? s f).getD (words s f) ++ wordsAll s args
  | .member object property => words s object ++ [property]
  | .index object position => words s object ++ words s position
  | .range first last none => words s first ++ words s last
  | .range first last (some step) => words s first ++ words s last ++ words s step
  | .array elements => wordsAll s elements
  | .object properties => propertyWords s properties
  | .identifier name => [s.spelled name]
  | .literal _ => []
  | .undefined => []
  | .interpolated parts => partWords s parts

def wordsAll (s : Scope) : List Tree.Expr → List String
  | [] => []
  | e :: es => words s e ++ wordsAll s es

def propertyWords (s : Scope) : List Tree.Property → List String
  | [] => []
  | ⟨key, value, _⟩ :: ps => (if Script.isName key then [key] else []) ++ words s value ++ propertyWords s ps

def partWords (s : Scope) : List Tree.Part → List String
  | [] => []
  | .text _ :: ps => partWords s ps
  | .expr value :: ps => words s value ++ partWords s ps

end

/-! ## Grades -/

/-- The level at which an operator's script is derived; one that becomes a call is derived like one. -/
def opLevel : BinaryOp → Nat
  | .intDiv | .concat | .append => 9
  | .pow => 7
  | .mul | .div | .mod => 6
  | .add | .sub => 5
  | .lt | .gt | .le | .ge => 4
  | .eq | .notEq => 3
  | .and => 2
  | .or => 1

/-- The level at which an expression's script is derived. -/
def grade : Tree.Expr → Nat
  | .binary op _ _ => opLevel op
  | .unary _ _ => 8
  | .literal (.number value) => if value.negative then 8 else 10
  | .literal (.symbol _) => 9
  | .call _ _ | .member _ _ | .index _ _ => 9
  | _ => 10

/-- The level that an infix operator asks of a child. -/
def sideLevel (parent : BinaryOp) (side : Side) : Nat :=
  match side with
  | .left => if parent = .pow then 9 else opLevel parent
  | .right => if parent = .pow then 7 else opLevel parent + 1

theorem mem_all (op : BinaryOp) : op ∈ BinaryOp.all := by cases op <;> decide

/-- Operators of like precedence share a level, and tighter ones a tighter level. -/
theorem sideLevel_le_opLevel : ∀ parent ∈ BinaryOp.all, ∀ side ∈ [Side.left, .right], ∀ op ∈ BinaryOp.all,
    opLevel parent < 9 →
    (precedence op < precedence parent || (precedence op = precedence parent && side = looseSide parent)) = false →
    sideLevel parent side ≤ opLevel op := by decide

theorem sideLevel_le_nine : ∀ parent ∈ BinaryOp.all, opLevel parent < 9 →
    sideLevel parent .left ≤ 9 ∧ sideLevel parent .right ≤ 7 ∧ (parent ≠ .pow → sideLevel parent .left ≤ 6) := by decide

theorem le_grade_of_wrapsOperand {parent : BinaryOp} (hp : opLevel parent < 9) {side : Side} {child : Tree.Expr}
    (h : wrapsOperand parent side child = false) : sideLevel parent side ≤ grade child := by
  obtain ⟨hleft, hright, hsix⟩ := sideLevel_le_nine parent (mem_all parent) hp
  have hside : sideLevel parent side ≤ 9 := by
    cases side
    · exact hleft
    · omega
  -- a sign binds tighter than every operator but `**`, and on the right of that too
  have hsigned : ¬(parent = .pow ∧ side = .left) → sideLevel parent side ≤ 8 := by
    intro hn
    cases side
    · have := hsix fun h => hn ⟨h, rfl⟩
      omega
    · omega
  cases child with
  | binary op l r =>
    cases side
    · exact sideLevel_le_opLevel parent (mem_all parent) .left (by decide) op (mem_all op) hp h
    · exact sideLevel_le_opLevel parent (mem_all parent) .right (by decide) op (mem_all op) hp h
  | unary op e => exact hsigned (by simpa [wrapsOperand] using h)
  | literal value =>
    cases value with
    | number x =>
      by_cases hx : x.negative = true
      · rw [grade, if_pos hx]
        exact hsigned (by simpa [wrapsOperand, isNegative, hx] using h)
      · rw [grade, if_neg hx]
        omega
    | symbol _ => exact hside
    | _ => exact Nat.le_succ_of_le hside
  | call _ _ | member _ _ | index _ _ => exact hside
  | _ => exact Nat.le_succ_of_le hside

theorem one_le_grade (e : Tree.Expr) : 1 ≤ grade e := by
  cases e with
  | binary op l r => exact (show ∀ op ∈ BinaryOp.all, 1 ≤ opLevel op by decide) op (mem_all op)
  | literal value =>
    cases value with
    | number x =>
      rw [grade]
      split <;> decide
    | _ => simp [grade]
  | _ => simp [grade]

theorem le_grade_of_wrapsSigned {operand : Tree.Expr} (h : wrapsSigned operand = false) : 8 ≤ grade operand := by
  cases operand with
  | binary _ _ _ => cases h
  | literal value =>
    cases value with
    | number x =>
      rw [grade]
      split <;> decide
    | _ => simp [grade]
  | _ => simp [grade]

theorem le_grade_of_wrapsObject {object : Tree.Expr} (h : wrapsObject object = false) : 9 ≤ grade object := by
  cases object with
  | binary _ _ _ => cases h
  | unary _ _ => cases h
  | literal value =>
    cases value with
    | number x => cases h
    | _ => simp [grade]
  | _ => simp [grade]

/-! ## Names -/

theorem spelling_variable {lib : Library} (hlib : lib.wellNamed = true) {name : String}
    (h : Script.isVariable name = true) : Script.isVariable (lib.spelling name) = true := by
  unfold Library.spelling
  cases hl : lib.aliases.lookup name with
  | none => exact h
  | some target =>
    obtain ⟨before, after, hmem, -⟩ := List.lookup_eq_some_iff.mp hl
    have hall := List.all_eq_true.mp (Bool.and_eq_true_iff.mp hlib).1
    exact hall (name, target) (by simp [hmem])

theorem spelled_variable {s : Scope} (hs : s.library.wellNamed = true) {name : String}
    (h : Script.isVariable name = true) : Script.isVariable (s.spelled name) = true := by
  unfold Scope.spelled
  split
  · exact h
  · exact spelling_variable hs h

theorem owner_variable {lib : Library} (hlib : lib.wellNamed = true) {name owner : String}
    (h : lib.builtinOwner? name = some owner) : Script.isVariable owner = true := by
  obtain ⟨before, after, hmem, -⟩ := List.lookup_eq_some_iff.mp h
  have hall := List.all_eq_true.mp (Bool.and_eq_true_iff.mp hlib).2
  exact hall (name, owner) (by simp [hmem])

theorem isName_of_variable {name : String} (h : Script.isVariable name = true) : Script.isName name = true :=
  (Bool.and_eq_true_iff.mp h).1

theorem not_reserved_of_variable {name : String} (h : Script.isVariable name = true) : name ∉ Script.reserved := by
  simpa using (Bool.and_eq_true_iff.mp h).2

/-! ## Lowered expressions are legible -/

theorem wrapped_legible {w : Bool} {e : Script.Expr} (h : e.legible = true) : (wrapped w e).legible = true := by
  cases w <;> exact h

theorem wrapped_accessible (s : Scope) (e : Tree.Expr) : (wrapped (wrapsObject e) (expr s e)).accessible = true := by
  cases e with
  | literal value => cases value <;> rfl
  | range first last step => cases step <;> rfl
  | _ => rfl

theorem wrapped_unsigned (s : Scope) (e : Tree.Expr) : (wrapped (wrapsSigned e) (expr s e)).unsigned = true := by
  cases e with
  | literal value =>
    cases value with
    | number x =>
      show (wrapped x.negative (.number x)).unsigned = true
      cases hx : x.negative with
      | true => rfl
      | false => simp [wrapped, Script.Expr.unsigned, hx]
    | _ => rfl
  | range first last step => cases step <;> rfl
  | _ => rfl

theorem literal_legible (value : Tree.Literal) : (literal value).legible = true := by
  cases value with
  | symbol name =>
    have hnames : Script.isName "Symbol" = true ∧ Script.isName "for" = true := by decide +kernel
    simp [literal, Script.Expr.legible, Script.Expr.legibleAll, Script.Expr.accessible, hnames]
  | _ => rfl

theorem binary_legible (op : BinaryOp) (l r : Tree.Expr) {l' r' : Script.Expr} (hl : l'.legible = true)
    (hr : r'.legible = true) : (binary op l r l' r').legible = true := by
  have hwl : ∀ w, (wrapped w l').legible = true := fun w => wrapped_legible hl
  have hwr : ∀ w, (wrapped w r').legible = true := fun w => wrapped_legible hr
  have hcalls : Script.isName "Math" = true ∧ Script.isName "floor" = true ∧ Script.isName "concat" = true := by
    decide +kernel
  cases op <;> simp [binary, infixed, Script.Expr.legible, Script.Expr.legibleAll, Script.Expr.accessible, *]

theorem callee_legible {s : Scope} (hs : s.library.wellNamed = true) {f : Tree.Expr} (hf : f.wellNamed = true)
    (h : (expr s f).legible = true) :
    (callee s f (expr s f)).accessible = true ∧ (callee s f (expr s f)).legible = true := by
  unfold callee
  cases hb : builtin? s f with
  | none => exact ⟨wrapped_accessible s f, wrapped_legible h⟩
  | some e' =>
    cases f with
    | identifier name =>
      obtain ⟨owner, ho, rfl⟩ := Option.map_eq_some_iff.mp hb
      have howner := isName_of_variable (spelling_variable hs (owner_variable hs ho))
      have hname := isName_of_variable hf
      exact ⟨rfl, by simp [Script.Expr.legible, Script.Expr.accessible, howner, hname]⟩
    | _ => cases hb

mutual

theorem expr_legible {s : Scope} (hs : s.library.wellNamed = true) :
    (e : Tree.Expr) → e.wellNamed = true → (expr s e).legible = true
  | .conditional t c a, he => by
    simp only [Tree.Expr.wellNamed, Bool.and_eq_true] at he
    simp [expr, Script.Expr.legible, expr_legible hs t he.1.1, expr_legible hs c he.1.2, expr_legible hs a he.2]
  | .binary op l r, he => by
    simp only [Tree.Expr.wellNamed, Bool.and_eq_true] at he
    exact binary_legible op l r (expr_legible hs l he.1) (expr_legible hs r he.2)
  | .unary op e, he => by
    have h := expr_legible hs e he
    simp [expr, Script.Expr.legible, wrapped_unsigned, wrapped_legible h]
  | .call f args, he => by
    simp only [Tree.Expr.wellNamed, Bool.and_eq_true] at he
    obtain ⟨ha, hl⟩ := callee_legible hs he.1 (expr_legible hs f he.1)
    simp [expr, Script.Expr.legible, ha, hl, exprs_legible hs args he.2]
  | .member o p, he => by
    simp only [Tree.Expr.wellNamed, Bool.and_eq_true] at he
    simp [expr, Script.Expr.legible, wrapped_accessible, wrapped_legible (expr_legible hs o he.1), he.2]
  | .index o i, he => by
    simp only [Tree.Expr.wellNamed, Bool.and_eq_true] at he
    simp [expr, Script.Expr.legible, wrapped_accessible, wrapped_legible (expr_legible hs o he.1),
      expr_legible hs i he.2]
  | .range a b none, he => by
    simp only [Tree.Expr.wellNamed, Bool.and_eq_true] at he
    have hname : Script.isName "_Range" = true := by decide +kernel
    simp [expr, Script.Expr.legible, Script.Expr.legibleAll, hname, expr_legible hs a he.1, expr_legible hs b he.2]
  | .range a b (some c), he => by
    simp only [Tree.Expr.wellNamed, Bool.and_eq_true] at he
    have hname : Script.isName "_Range" = true := by decide +kernel
    simp [expr, Script.Expr.legible, Script.Expr.legibleAll, hname, expr_legible hs a he.1.1, expr_legible hs b he.1.2,
      expr_legible hs c he.2]
  | .array es, he => exprs_legible hs es he
  | .object ps, he => entries_legible hs ps he
  | .identifier n, he => isName_of_variable (spelled_variable hs he)
  | .literal value, _ => literal_legible value
  | .undefined, _ => rfl
  | .interpolated ps, he => templateParts_legible hs ps he

theorem exprs_legible {s : Scope} (hs : s.library.wellNamed = true) :
    (es : List Tree.Expr) → Tree.Expr.wellNamedAll es = true → Script.Expr.legibleAll (exprs s es) = true
  | [], _ => rfl
  | e :: es, he => by
    simp only [Tree.Expr.wellNamedAll, Bool.and_eq_true] at he
    simp [exprs, Script.Expr.legibleAll, expr_legible hs e he.1, exprs_legible hs es he.2]

theorem entries_legible {s : Scope} (hs : s.library.wellNamed = true) :
    (ps : List Tree.Property) → Tree.Property.wellNamedAll ps = true → Script.Entry.legibleAll (entries s ps) = true
  | [], _ => rfl
  | ⟨key, value, shorthand⟩ :: ps, he => by
    simp only [Tree.Property.wellNamedAll, Bool.and_eq_true] at he
    have hps := entries_legible hs ps he.2
    have hvalue := expr_legible hs value he.1
    simp only [entries]
    split
    · rename_i hb
      obtain ⟨rfl, -⟩ := isBare_iff hb
      simp [Script.Entry.legibleAll, hps, isName_of_variable he.1]
    · simp [Script.Entry.legibleAll, hps, hvalue]

theorem templateParts_legible {s : Scope} (hs : s.library.wellNamed = true) :
    (ps : List Tree.Part) → Tree.Part.wellNamedAll ps = true →
    Script.TemplatePart.legibleAll (templateParts s ps) = true
  | [], _ => rfl
  | .text _ :: ps, he => templateParts_legible hs ps he
  | .expr e :: ps, he => by
    simp only [Tree.Part.wellNamedAll, Bool.and_eq_true] at he
    simp [templateParts, Script.TemplatePart.legibleAll, expr_legible hs e he.1, templateParts_legible hs ps he.2]

end

/-! ## Templates are split as they were -/

theorem wrapped_unsplit (w : Bool) (e : Script.Expr) : (wrapped w e).unsplit = e.unsplit := by
  cases w <;> rfl

theorem binary_unsplit (op : BinaryOp) (l r : Tree.Expr) (l' r' : Script.Expr) :
    (binary op l r l' r').unsplit = (l'.unsplit && r'.unsplit) := by
  cases op <;> simp [binary, infixed, Script.Expr.unsplit, Script.Expr.unsplitAll, wrapped_unsplit]

theorem callee_unsplit (s : Scope) (f : Tree.Expr) :
    (callee s f (expr s f)).unsplit = (expr s f).unsplit := by
  unfold callee
  cases hb : builtin? s f with
  | none => exact wrapped_unsplit _ _
  | some e' =>
    cases f with
    | identifier name =>
      obtain ⟨owner, -, rfl⟩ := Option.map_eq_some_iff.mp hb
      rfl
    | _ => cases hb

theorem lead_templateParts (s : Scope) (ps : List Tree.Part) :
    Script.TemplatePart.lead (templateParts s ps) = (Tree.Part.lead ps).toList := by
  induction ps with
  | nil => rfl
  | cons p ps ih =>
    cases p with
    | text t => simp [templateParts, Script.TemplatePart.lead, Tree.Part.lead, ih]
    | expr e => rfl

mutual

theorem expr_unsplit (s : Scope) : (e : Tree.Expr) → (expr s e).unsplit = e.unsplit
  | .conditional t c a => by
    simp [expr, Script.Expr.unsplit, Tree.Expr.unsplit, expr_unsplit s t, expr_unsplit s c, expr_unsplit s a]
  | .binary op l r => by
    simp [expr, binary_unsplit, Tree.Expr.unsplit, expr_unsplit s l, expr_unsplit s r]
  | .unary op e => by simp [expr, Script.Expr.unsplit, Tree.Expr.unsplit, wrapped_unsplit, expr_unsplit s e]
  | .call f args => by
    simp [expr, Script.Expr.unsplit, Tree.Expr.unsplit, callee_unsplit, expr_unsplit s f, exprs_unsplit s args]
  | .member o p => by simp [expr, Script.Expr.unsplit, Tree.Expr.unsplit, wrapped_unsplit, expr_unsplit s o]
  | .index o i => by
    simp [expr, Script.Expr.unsplit, Tree.Expr.unsplit, wrapped_unsplit, expr_unsplit s o, expr_unsplit s i]
  | .range a b none => by
    simp [expr, Script.Expr.unsplit, Script.Expr.unsplitAll, Tree.Expr.unsplit, expr_unsplit s a, expr_unsplit s b]
  | .range a b (some c) => by
    simp [expr, Script.Expr.unsplit, Script.Expr.unsplitAll, Tree.Expr.unsplit, expr_unsplit s a, expr_unsplit s b,
      expr_unsplit s c, Bool.and_assoc]
  | .array es => exprs_unsplit s es
  | .object ps => entries_unsplit s ps
  | .identifier _ => rfl
  | .literal value => by cases value <;> rfl
  | .undefined => rfl
  | .interpolated ps => templateParts_unsplit s ps

theorem exprs_unsplit (s : Scope) : (es : List Tree.Expr) →
    Script.Expr.unsplitAll (exprs s es) = Tree.Expr.unsplitAll es
  | [] => rfl
  | e :: es => by
    simp [exprs, Script.Expr.unsplitAll, Tree.Expr.unsplitAll, expr_unsplit s e, exprs_unsplit s es]

theorem entries_unsplit (s : Scope) : (ps : List Tree.Property) →
    Script.Entry.unsplitAll (entries s ps) = Tree.Property.unsplitAll ps
  | [] => rfl
  | ⟨key, value, shorthand⟩ :: ps => by
    have hvalue := expr_unsplit s value
    have hps := entries_unsplit s ps
    simp only [entries]
    split
    · rename_i hb
      obtain ⟨rfl, -⟩ := isBare_iff hb
      simp [Script.Entry.unsplitAll, Tree.Property.unsplitAll, Tree.Expr.unsplit, hps]
    · simp [Script.Entry.unsplitAll, Tree.Property.unsplitAll, hvalue, hps]

theorem templateParts_unsplit (s : Scope) : (ps : List Tree.Part) →
    Script.TemplatePart.unsplitAll (templateParts s ps) = Tree.Part.unsplitAll ps
  | [] => rfl
  | .text t :: ps => by
    simp [templateParts, Script.TemplatePart.unsplitAll, Tree.Part.unsplitAll, lead_templateParts,
      templateParts_unsplit s ps]
  | .expr e :: ps => by
    simp [templateParts, Script.TemplatePart.unsplitAll, Tree.Part.unsplitAll, expr_unsplit s e,
      templateParts_unsplit s ps]

end

/-! ## Names are spelled as they are -/

section Proper

open TreeScript.Script (isIdentifierName isIdentifierName_eq keyToken proper unstrayed)

theorem proper_wrapped (w : Bool) (e : Script.Expr) : proper (wrapped w e).tokens = proper e.tokens := by
  cases w with
  | false => rfl
  | true => simp [wrapped, Script.Expr.tokens]

theorem proper_infixed (parent : BinaryOp) (op : Script.Operator) (l r : Tree.Expr) (l' r' : Script.Expr) :
    proper (infixed parent op l r l' r').tokens = (proper l'.tokens && proper r'.tokens) := by
  simp [infixed, Script.Expr.tokens, proper_wrapped]

theorem proper_binary (op : BinaryOp) (l r : Tree.Expr) (l' r' : Script.Expr) :
    proper (binary op l r l' r').tokens = (proper l'.tokens && proper r'.tokens) := by
  have hnames : isIdentifierName "Math" = true ∧ isIdentifierName "floor" = true ∧ isIdentifierName "concat" = true := by
    decide +kernel
  cases op with
  | intDiv => simp [binary, Script.Expr.tokens, Script.Expr.tokensAll, proper_infixed, hnames]
  | concat => simp [binary, Script.Expr.tokens, Script.Expr.tokensAll, hnames]
  | append => simp [binary, Script.Expr.tokens, Script.Expr.tokensAll, hnames]
  | _ => exact proper_infixed ..

theorem proper_literal (value : Tree.Literal) : proper (literal value).tokens = true := by
  cases value with
  | number x => exact Script.proper_numberTokens x
  | boolean b => cases b <;> decide +kernel
  | nil => decide +kernel
  | string _ => rfl
  | symbol name =>
    have hnames : isIdentifierName "Symbol" = true ∧ isIdentifierName "for" = true := by decide +kernel
    simp [literal, Script.Expr.tokens, Script.Expr.tokensAll, hnames]

theorem proper_range (args : List Script.Expr) :
    proper (Script.Expr.construct "_Range" args).tokens = (Script.Expr.tokensAll args).all proper := by
  have hnames : isIdentifierName "new" = true ∧ isIdentifierName "_Range" = true := by decide +kernel
  simp [Script.Expr.tokens, hnames]

theorem proper_callee {s : Scope} (hs : s.library.wellNamed = true) {f : Tree.Expr} (hf : f.wellNamed = true)
    (h : proper (expr s f).tokens = unstrayed (words s f)) :
    proper (callee s f (expr s f)).tokens = unstrayed ((builtinWords? s f).getD (words s f)) := by
  have hplain : proper (wrapped (wrapsObject f) (expr s f)).tokens = unstrayed (words s f) := by rw [proper_wrapped, h]
  cases f with
  | identifier name =>
    cases ho : s.library.builtinOwner? name with
    | none => simpa [callee, builtin?, builtinWords?, ho] using hplain
    | some owner =>
      have howner := isIdentifierName_eq (isName_of_variable (spelling_variable hs (owner_variable hs ho)))
      have hname := isIdentifierName_eq (isName_of_variable hf)
      simp [callee, builtin?, builtinWords?, ho, Script.Expr.tokens, howner, hname]
  | _ => exact hplain

mutual

/-- The names of a lowered expression are all identifiers just when its words have no stray character. -/
theorem proper_expr {s : Scope} (hs : s.library.wellNamed = true) :
    (e : Tree.Expr) → e.wellNamed = true → proper (expr s e).tokens = unstrayed (words s e)
  | .conditional t c a, he => by
    simp only [Tree.Expr.wellNamed, Bool.and_eq_true] at he
    simp [expr, words, Script.Expr.tokens, proper_expr hs t he.1.1, proper_expr hs c he.1.2, proper_expr hs a he.2]
  | .binary op l r, he => by
    simp only [Tree.Expr.wellNamed, Bool.and_eq_true] at he
    simp [expr, words, proper_binary, proper_expr hs l he.1, proper_expr hs r he.2]
  | .unary op e, he => by simp [expr, words, Script.Expr.tokens, proper_wrapped, proper_expr hs e he]
  | .call f args, he => by
    simp only [Tree.Expr.wellNamed, Bool.and_eq_true] at he
    simp [expr, words, Script.Expr.tokens, proper_callee hs he.1 (proper_expr hs f he.1), proper_exprs hs args he.2]
  | .member o p, he => by
    simp only [Tree.Expr.wellNamed, Bool.and_eq_true] at he
    simp [expr, words, Script.Expr.tokens, proper_wrapped, proper_expr hs o he.1, isIdentifierName_eq he.2]
  | .index o i, he => by
    simp only [Tree.Expr.wellNamed, Bool.and_eq_true] at he
    simp [expr, words, Script.Expr.tokens, proper_wrapped, proper_expr hs o he.1, proper_expr hs i he.2]
  | .range a b none, he => by
    simp only [Tree.Expr.wellNamed, Bool.and_eq_true] at he
    simp [expr, words, proper_range, Script.Expr.tokensAll, proper_expr hs a he.1, proper_expr hs b he.2]
  | .range a b (some c), he => by
    simp only [Tree.Expr.wellNamed, Bool.and_eq_true] at he
    simp [expr, words, proper_range, Script.Expr.tokensAll, proper_expr hs a he.1.1, proper_expr hs b he.1.2,
      proper_expr hs c he.2]
  | .array es, he => by simp [expr, words, Script.Expr.tokens, proper_exprs hs es he]
  | .object ps, he => by simp [expr, words, Script.Expr.tokens, proper_entries hs ps he]
  | .identifier n, he => by
    simp [expr, words, Script.Expr.tokens, isIdentifierName_eq (isName_of_variable (spelled_variable hs he))]
  | .literal value, _ => proper_literal value
  | .undefined, _ => by
    show proper [.name "undefined"] = true
    decide +kernel
  | .interpolated ps, he => proper_templateParts hs ps he true []

theorem proper_exprs {s : Scope} (hs : s.library.wellNamed = true) :
    (es : List Tree.Expr) → Tree.Expr.wellNamedAll es = true →
    (Script.Expr.tokensAll (exprs s es)).all proper = unstrayed (wordsAll s es)
  | [], _ => rfl
  | e :: es, he => by
    simp only [Tree.Expr.wellNamedAll, Bool.and_eq_true] at he
    simp [exprs, wordsAll, Script.Expr.tokensAll, proper_expr hs e he.1, proper_exprs hs es he.2]

theorem proper_entries {s : Scope} (hs : s.library.wellNamed = true) :
    (ps : List Tree.Property) → Tree.Property.wellNamedAll ps = true →
    (Script.Entry.tokensAll (entries s ps)).all proper = unstrayed (propertyWords s ps)
  | [], _ => rfl
  | ⟨key, value, shorthand⟩ :: ps, he => by
    simp only [Tree.Property.wellNamedAll, Bool.and_eq_true] at he
    have hvalue := proper_expr hs value he.1
    have hps := proper_entries hs ps he.2
    simp only [entries, propertyWords]
    split
    · -- a key that stands alone is a word twice: by itself, and as the variable it names
      rename_i hb
      obtain ⟨rfl, hk⟩ := isBare_iff hb
      have hkey := isName_of_variable he.1
      simp [Script.Entry.tokensAll, words, hk, hkey, hps, isIdentifierName_eq hkey]
    · cases hkey : Script.isName key with
      | true => simp [Script.Entry.tokensAll, keyToken, hkey, hvalue, hps, isIdentifierName_eq hkey, Bool.and_assoc]
      | false => simp [Script.Entry.tokensAll, keyToken, hkey, hvalue, hps]

theorem proper_templateParts {s : Scope} (hs : s.library.wellNamed = true) :
    (ps : List Tree.Part) → Tree.Part.wellNamedAll ps = true → ∀ (first : Bool) (text : List Char),
    proper (Script.TemplatePart.tokens first text (templateParts s ps)) = unstrayed (partWords s ps)
  | [], _, _, _ => rfl
  | .text t :: ps, he, first, text => proper_templateParts hs ps he first (text ++ t.toList)
  | .expr e :: ps, he, first, text => by
    simp only [Tree.Part.wellNamedAll, Bool.and_eq_true] at he
    simp [templateParts, partWords, Script.TemplatePart.tokens, proper_expr hs e he.1,
      proper_templateParts hs ps he.2 false []]

end

end Proper

/-! ## The tokens derive the node -/

theorem wrapped_derives {w : Bool} {e : Script.Expr} {t : Node} {g k : Nat} (hk : k ≤ 10)
    (h : Derives e.tokens (.expr g t)) (hw : w = false → k ≤ g) : Derives (wrapped w e).tokens (.expr k t) := by
  cases w with
  | false => exact h.loosenTo (hw rfl)
  | true => exact (Derives.paren (h.loosenTo (Nat.zero_le g))).loosenTo hk

theorem derives_noItems : Derives (Script.commaTokens []) (.items []) := .noItems

theorem derives_items {ts : List Token} {tss : List (List Token)} {u : Node} {us : List Node} {l : Nat}
    (hlen : tss.length = us.length) (h : Derives ts (.expr l u)) (hs : Derives (Script.commaTokens tss) (.items us)) :
    Derives (Script.commaTokens (ts :: tss)) (.items (u :: us)) := by
  have h := h.loosenTo (Nat.zero_le l)
  cases tss with
  | nil =>
    obtain rfl := List.length_eq_zero_iff.mp hlen.symm
    simpa [Script.commaTokens] using Derives.lastItem h
  | cons us' tss =>
    cases us with
    | nil => cases hlen
    | cons v vs => simpa [Script.commaTokens, List.intercalate] using Derives.moreItems h hs

theorem derives_fields {ts : List Token} {tss : List (List Token)} {f : Script.Field} {fs : List Script.Field}
    (hlen : tss.length = fs.length) (h : Derives ts (.field f)) (hs : Derives (Script.commaTokens tss) (.fields fs)) :
    Derives (Script.commaTokens (ts :: tss)) (.fields (f :: fs)) := by
  cases tss with
  | nil =>
    obtain rfl := List.length_eq_zero_iff.mp hlen.symm
    simpa [Script.commaTokens] using Derives.lastField h
  | cons ts' tss =>
    cases fs with
    | nil => cases hlen
    | cons g gs => simpa [Script.commaTokens, List.intercalate] using Derives.moreFields h hs

theorem derives_call {f : Script.Expr} {args : List Script.Expr} {t : Node} {us : List Node}
    (hf : Derives f.tokens (.expr 9 t)) (hs : Derives (Script.commaTokens (Script.Expr.tokensAll args)) (.items us)) :
    Derives (Script.Expr.call f args).tokens (.expr 9 (.call t us)) := by
  simpa [Script.Expr.tokens] using Derives.call hf hs

theorem derives_construct {className : String} (hc : className ∉ Script.reserved) {args : List Script.Expr}
    {us : List Node} (hs : Derives (Script.commaTokens (Script.Expr.tokensAll args)) (.items us)) :
    Derives (Script.Expr.construct className args).tokens (.expr 10 (.construct className us)) := by
  simpa [Script.Expr.tokens] using Derives.construct hc hs

theorem derives_number (x : Binary64) :
    Derives (Script.numberTokens x) (.expr (if x.negative then 8 else 10) (numberNode x)) := by
  have hname : ∀ n ∈ ["NaN", "Infinity"], n ∉ Script.reserved := by decide
  have hmagnitude : Derives [if x.isInfinite then .name "Infinity" else .number ⟨false, x.rank⟩]
      (.expr 10 (if x.isInfinite then .name "Infinity" else .number ⟨false, x.rank⟩)) := by
    split
    · exact .name (hname _ (by decide))
    · exact .number _
  unfold Script.numberTokens numberNode
  split
  · refine (Derives.name (hname "NaN" (by decide))).loosenTo ?_
    split <;> decide
  split
  · exact Derives.unary .neg (hmagnitude.loosenTo (by decide))
  · exact hmagnitude

theorem derives_literal (value : Tree.Literal) :
    Derives (literal value).tokens (.expr (grade (.literal value)) (literalNode value)) := by
  cases value with
  | number x => exact derives_number x
  | boolean b => exact .boolean b
  | nil => exact .null
  | string s => exact .string s
  | symbol name =>
    have hsymbol : "Symbol" ∉ Script.reserved := by decide
    exact derives_call (.member "for" ((Derives.name hsymbol).loosenTo (by decide)))
      (derives_items rfl (.string name) derives_noItems)

theorem derives_infixed {parent : BinaryOp} {op : Script.Operator} (hop : op.leftLevel = sideLevel parent .left ∧
    op.rightLevel = sideLevel parent .right ∧ op.level = opLevel parent) (hp : opLevel parent < 9) {l r : Tree.Expr}
    {l' r' : Script.Expr} {t u : Node} (hl : Derives l'.tokens (.expr (grade l) t))
    (hr : Derives r'.tokens (.expr (grade r) u)) :
    Derives (infixed parent op l r l' r').tokens (.expr (opLevel parent) (.binary op t u)) := by
  obtain ⟨hleft, hright, hlevel⟩ := hop
  obtain ⟨h9, h7, -⟩ := sideLevel_le_nine parent (mem_all parent) hp
  have hwl := wrapped_derives (k := op.leftLevel) (by omega) hl fun hw => hleft ▸ le_grade_of_wrapsOperand hp hw
  have hwr := wrapped_derives (k := op.rightLevel) (by omega) hr fun hw => hright ▸ le_grade_of_wrapsOperand hp hw
  rw [← hlevel]
  simpa [infixed, Script.Expr.tokens] using Derives.binary op hwl hwr

theorem derives_binary (op : BinaryOp) {l r : Tree.Expr} {l' r' : Script.Expr} {t u : Node}
    (hl : Derives l'.tokens (.expr (grade l) t)) (hr : Derives r'.tokens (.expr (grade r) u)) :
    Derives (binary op l r l' r').tokens (.expr (opLevel op) (binaryNode op (l.isNil || r.isNil) t u)) := by
  have hitems : Derives (Script.commaTokens [l'.tokens, r'.tokens]) (.items [t, u]) :=
    derives_items rfl hl (derives_items rfl hr derives_noItems)
  cases op with
  | intDiv =>
    have hmath : "Math" ∉ Script.reserved := by decide
    refine derives_call (.member "floor" ((Derives.name hmath).loosenTo (by decide))) ?_
    exact derives_items rfl (derives_infixed (by decide) (by decide) hl hr) derives_noItems
  | concat => exact derives_call (.member "concat" ((Derives.string "").loosenTo (by decide))) hitems
  | append =>
    have harray : Derives (Script.Expr.array []).tokens (.expr 10 (.array [])) := .array .noItems
    exact derives_call (.member "concat" (harray.loosenTo (by decide))) hitems
  | eq =>
    cases hloose : (l.isNil || r.isNil) <;> simp only [binary, hloose, binaryNode] <;>
      exact derives_infixed (by decide) (by decide) hl hr
  | notEq =>
    cases hloose : (l.isNil || r.isNil) <;> simp only [binary, hloose, binaryNode] <;>
      exact derives_infixed (by decide) (by decide) hl hr
  | _ => exact derives_infixed (by decide) (by decide) hl hr

theorem derives_callee {s : Scope} (hs : s.library.wellNamed = true) {f : Tree.Expr} (hf : f.wellNamed = true)
    (h : Derives (expr s f).tokens (.expr (grade f) (node s f))) :
    Derives (callee s f (expr s f)).tokens (.expr 9 ((builtinNode? s f).getD (node s f))) := by
  have hplain : Derives (wrapped (wrapsObject f) (expr s f)).tokens (.expr 9 (node s f)) :=
    wrapped_derives (by decide) h le_grade_of_wrapsObject
  cases f with
  | identifier name =>
    cases ho : s.library.builtinOwner? name with
    | none => simpa [callee, builtin?, builtinNode?, ho] using hplain
    | some owner =>
      have howner := not_reserved_of_variable (spelling_variable hs (owner_variable hs ho))
      simpa [callee, builtin?, builtinNode?, ho, Script.Expr.tokens] using
        Derives.member name ((Derives.name howner).loosenTo (by decide : 9 ≤ 10))
  | _ => exact hplain

theorem tokensAll_length (s : Scope) (es : List Tree.Expr) :
    (Script.Expr.tokensAll (exprs s es)).length = (nodes s es).length := by
  induction es with
  | nil => rfl
  | cons e es ih => exact congrArg Nat.succ ih

theorem entryTokens_length (s : Scope) (ps : List Tree.Property) :
    (Script.Entry.tokensAll (entries s ps)).length = (fields s ps).length := by
  induction ps with
  | nil => rfl
  | cons p ps ih =>
    obtain ⟨key, value, shorthand⟩ := p
    simp only [entries, fields]
    split <;> exact congrArg Nat.succ ih

mutual

/-- The tokens of a lowered expression are an expression of its grade, the one it stands for. -/
theorem derives {s : Scope} (hs : s.library.wellNamed = true) :
    (e : Tree.Expr) → e.wellNamed = true → Derives (expr s e).tokens (.expr (grade e) (node s e))
  | .conditional t c a, he => by
    simp only [Tree.Expr.wellNamed, Bool.and_eq_true] at he
    have ht := (derives hs t he.1.1).loosenTo (one_le_grade t)
    have hc := (derives hs c he.1.2).loosenTo (Nat.zero_le _)
    have ha := (derives hs a he.2).loosenTo (Nat.zero_le _)
    simpa [expr, node, grade, Script.Expr.tokens] using Derives.paren (Derives.conditional ht hc ha)
  | .binary op l r, he => by
    simp only [Tree.Expr.wellNamed, Bool.and_eq_true] at he
    exact derives_binary op (derives hs l he.1) (derives hs r he.2)
  | .unary op e, he => by
    have h := wrapped_derives (by decide) (derives hs e he) le_grade_of_wrapsSigned
    exact Derives.unary op h
  | .call f args, he => by
    simp only [Tree.Expr.wellNamed, Bool.and_eq_true] at he
    exact derives_call (derives_callee hs he.1 (derives hs f he.1)) (derivesAll hs args he.2)
  | .member o p, he => by
    simp only [Tree.Expr.wellNamed, Bool.and_eq_true] at he
    exact Derives.member p (wrapped_derives (by decide) (derives hs o he.1) le_grade_of_wrapsObject)
  | .index o i, he => by
    simp only [Tree.Expr.wellNamed, Bool.and_eq_true] at he
    have ho := wrapped_derives (by decide) (derives hs o he.1) le_grade_of_wrapsObject
    have hi := (derives hs i he.2).loosenTo (Nat.zero_le _)
    simpa [expr, node, grade, Script.Expr.tokens] using Derives.index ho hi
  | .range a b none, he => by
    simp only [Tree.Expr.wellNamed, Bool.and_eq_true] at he
    have hitems := derives_items rfl (derives hs a he.1) (derives_items rfl (derives hs b he.2) derives_noItems)
    exact derives_construct (by decide) hitems
  | .range a b (some c), he => by
    simp only [Tree.Expr.wellNamed, Bool.and_eq_true] at he
    have hitems := derives_items rfl (derives hs a he.1.1)
      (derives_items rfl (derives hs b he.1.2) (derives_items rfl (derives hs c he.2) derives_noItems))
    exact derives_construct (by decide) hitems
  | .array es, he => by
    simpa [expr, node, grade, Script.Expr.tokens] using Derives.array (derivesAll hs es he)
  | .object ps, he => by
    simpa [expr, node, grade, Script.Expr.tokens] using Derives.object (derivesFields hs ps he)
  | .identifier n, he => .name (not_reserved_of_variable (spelled_variable hs he))
  | .literal value, _ => derives_literal value
  | .undefined, _ => .name (by decide)
  | .interpolated ps, he => .template (derivesStretch hs ps he true [])

theorem derivesAll {s : Scope} (hs : s.library.wellNamed = true) :
    (es : List Tree.Expr) → Tree.Expr.wellNamedAll es = true →
    Derives (Script.commaTokens (Script.Expr.tokensAll (exprs s es))) (.items (nodes s es))
  | [], _ => .noItems
  | e :: es, he => by
    simp only [Tree.Expr.wellNamedAll, Bool.and_eq_true] at he
    exact derives_items (tokensAll_length s es) (derives hs e he.1) (derivesAll hs es he.2)

theorem derivesFields {s : Scope} (hs : s.library.wellNamed = true) :
    (ps : List Tree.Property) → Tree.Property.wellNamedAll ps = true →
    Derives (Script.commaTokens (Script.Entry.tokensAll (entries s ps))) (.fields (fields s ps))
  | [], _ => .noFields
  | ⟨key, value, shorthand⟩ :: ps, he => by
    simp only [Tree.Property.wellNamedAll, Bool.and_eq_true] at he
    have hvalue := (derives hs value he.1).loosenTo (Nat.zero_le _)
    have hps := derivesFields hs ps he.2
    simp only [entries, fields]
    split
    · rename_i hb
      obtain ⟨rfl, hk⟩ := isBare_iff hb
      refine derives_fields (entryTokens_length s ps) ?_ hps
      rw [node, hk]
      exact .shorthand (not_reserved_of_variable he.1)
    · refine derives_fields (entryTokens_length s ps) ?_ hps
      show Derives (Script.keyToken key :: .mark ":" :: (expr s value).tokens) _
      unfold Script.keyToken
      split
      · exact .namedField key hvalue
      · exact .quotedField key hvalue

theorem derivesStretch {s : Scope} (hs : s.library.wellNamed = true) :
    (ps : List Tree.Part) → Tree.Part.wellNamedAll ps = true → ∀ (first : Bool) (text : List Char),
    Derives (Script.TemplatePart.tokens first text (templateParts s ps))
      (.stretch first (String.ofList text ++ Tree.Part.lead ps) (holes s ps))
  | [], _, first, text => by
    simpa [templateParts, Script.TemplatePart.tokens, Tree.Part.lead, holes] using Derives.lastStretch first _
  | .text t :: ps, he, first, text => by
    have h := derivesStretch hs ps he first (text ++ t.toList)
    simpa [templateParts, Script.TemplatePart.tokens, Tree.Part.lead, holes, String.append_assoc] using h
  | .expr e :: ps, he, first, text => by
    simp only [Tree.Part.wellNamedAll, Bool.and_eq_true] at he
    have h := (derives hs e he.1).loosenTo (Nat.zero_le _)
    have hps := derivesStretch hs ps he.2 false []
    simpa [templateParts, Script.TemplatePart.tokens, Tree.Part.lead, holes] using
      Derives.moreStretches first (String.ofList text) h hps

end

/-! ## Reading back -/

theorem reads_node {s : Scope} (hs : s.library.wellNamed = true) {e : Tree.Expr} (he : e.wellNamed = true)
    (hu : e.unsplit = true) (hw : Script.unstrayed (words s e) = true) : Script.Reads (expr s e).text (node s e) :=
  ⟨_, Script.Expr.lex_text (expr_legible hs e he) ((expr_unsplit s e).trans hu) ((proper_expr hs e he).trans hw),
    (derives hs e he).loosenTo (Nat.zero_le _)⟩

/-- Where a template is split, or a word is no identifier, the text is read otherwise or not at all. -/
theorem not_reads_node {s : Scope} (hs : s.library.wellNamed = true) {e : Tree.Expr} (he : e.wellNamed = true)
    (h : ¬(e.unsplit = true ∧ Script.unstrayed (words s e) = true)) : ¬Script.Reads (expr s e).text (node s e) := by
  intro hreads
  obtain ⟨ts, hlex, hderives⟩ := hreads
  rw [← expr_unsplit s e, ← proper_expr hs e he] at h
  refine Script.Expr.quasis_ne_of_misread (expr_legible hs e he) h hlex ?_
  exact hderives.quasis_eq.trans (derives hs e he).quasis_eq.symm

/-- The text of an expression is read as what the expression stands for, and as nothing else, just when no
`$` at the end of a literal part is split from a brace that starts the literal text after it, and no name and no key
without quotes has a character that no identifier has in its place. -/
theorem read_back_iff (s : Scope) (hs : s.library.wellNamed = true) (e : Tree.Expr) (he : e.wellNamed = true) :
    (∀ t, Script.Reads (expr s e).text t ↔ t = node s e) ↔
      e.unsplit = true ∧ Script.unstrayed (words s e) = true := by
  constructor
  · intro hread
    by_contra hnot
    exact not_reads_node hs he hnot ((hread _).mpr rfl)
  · intro ⟨hu, hw⟩ t
    constructor
    · intro hreads
      obtain ⟨ts, hlex, hderives⟩ := hreads
      obtain ⟨ts', hlex', hderives'⟩ := reads_node hs he hu hw
      rw [hlex] at hlex'
      cases hlex'
      exact hderives.unique hderives'
    · intro heq
      subst heq
      exact reads_node hs he hu hw

-- a superscript in a key is a number to the writer, and no part of an identifier
example : ¬Script.Reads (expr ⟨{}, []⟩ (.object [⟨"x²", .identifier "y", false⟩])).text
    (node ⟨{}, []⟩ (.object [⟨"x²", .identifier "y", false⟩])) :=
  not_reads_node rfl (by decide +kernel) (by decide +kernel)

/-- `(-x) ** ...` with a template on the right whose dollar sign stands before a substitution. -/
theorem read_back_signed_power :
    let s : Scope := ⟨.standard, ["x"]⟩
    let e : Tree.Expr := .binary .pow (.unary .neg (.identifier "x"))
      (.interpolated [.text "$", .expr (.identifier "String"), .text "\x7b"])
    (s.library.wellNamed = true ∧ e.wellNamed = true ∧ e.unsplit = true ∧ Script.unstrayed (words s e) = true) ∧
      ∀ t, Script.Reads (expr s e).text t ↔ t = node s e := by
  intro s e
  have hs : s.library.wellNamed = true := by decide +kernel
  have he : e.wellNamed = true := by decide +kernel
  have hboth : e.unsplit = true ∧ Script.unstrayed (words s e) = true := by decide +kernel
  exact ⟨⟨hs, he, hboth⟩, (read_back_iff s hs e he).mpr hboth⟩

/-- An empty part between the two does not keep them apart: no literal part that ends in `$` is next to one
that starts with a brace, and yet the text is no expression. -/
theorem read_back_fails_across_an_empty_part :
    let parts : List Tree.Part := [.text "$", .text "", .text "\x7b"]
    (∀ a b, [Tree.Part.text a, .text b] <:+: parts → Script.glues a.toList b.toList = false) ∧
      (Tree.Expr.interpolated parts).wellNamed = true ∧
      (expr ⟨{}, []⟩ (.interpolated parts)).text = "\x60$\x7b\x60" ∧
      ∀ t, ¬Script.Reads (expr ⟨{}, []⟩ (.interpolated parts)).text t := by
  have htext : (expr ⟨{}, []⟩ (.interpolated [.text "$", .text "", .text "\x7b"])).text = "\x60$\x7b\x60" := by
    decide
  refine ⟨?_, by decide, htext, ?_⟩
  · intro a b hpair
    obtain ⟨before, after, h⟩ := hpair
    rcases before with _ | ⟨p, _ | ⟨q, before⟩⟩
    all_goals simp at h
    · obtain ⟨rfl, rfl, -⟩ := h
      decide
    · obtain ⟨-, rfl, rfl, -⟩ := h
      decide
    · have hlen := congrArg List.length h.2.2
      simp only [List.length_append, List.length_cons, List.length_nil] at hlen
      omega
  · intro t hreads
    obtain ⟨ts, hlex, -⟩ := hreads
    rw [htext] at hlex
    have hnone : Script.lex [] ['\x60', '$', '\x7b', '\x60'] = none := by
      rw [Script.lex_template, Script.lexQuasi_hole, Script.lex_template]
      rfl
    cases hnone.symm.trans hlex

end Lowering

end TreeScript
