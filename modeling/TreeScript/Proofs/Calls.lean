/-
  TreeScript.Proofs.Calls — every node of a program calls once, and nothing else does.

  `Listing` says what it is to list trees in document order, with nothing but the children
  of each node: the node comes first, then the listings of its children one after another.
  The nodes of a program are listed so (`listing_nodesAll`), in no other way
  (`Listing.unique`), and the list holds what can be reached from a statement of the program
  by going to a child again and again (`Listing.mem_iff`). The keys that a program uses are
  the first calls on that list (`used_eq_eraseDups`).

  A tree without its texts, the names of identifiers excepted, has the same children
  without their texts, and each of them calls as before. So the texts call for nothing
  (`used_bare`).
-/

import TreeScript.Proofs.Closure

namespace TreeScript.Tree

open Relation (ReflTransGen)

/-! ## Children -/

def Part.value? : Part → Option Expr
  | .text _ => none
  | .expr value => some value

/-- The expressions that an expression is made of, in the order of its fields. -/
def Expr.children : Expr → List Expr
  | .conditional test consequent alternate => [test, consequent, alternate]
  | .binary _ left right => [left, right]
  | .unary _ operand => [operand]
  | .call callee args => callee :: args
  | .member owner _ => [owner]
  | .index owner position => [owner, position]
  | .range first last none => [first, last]
  | .range first last (some step) => [first, last, step]
  | .array elements => elements
  | .object properties => properties.map Property.value
  | .identifier _ => []
  | .literal _ => []
  | .undefined => []
  | .interpolated parts => parts.filterMap Part.value?

/-- A clause is no node itself: its literal patterns, its guard and its statements are. -/
def Clause.children (c : Clause) : List Node :=
  c.patterns.flatMap Pattern.nodes ++ c.guard.toList.map .expr ++ c.body.map .stmt

/-- The nodes that a statement is made of, in the order of its fields. -/
def Stmt.children : Stmt → List Node
  | .declare _ _ value => [.expr value]
  | .function _ _ body => body.map .stmt
  | .clause c => c.children
  | .dispatch _ clauses => clauses.flatMap Clause.children
  | .branch test consequent none => .expr test :: consequent.map .stmt
  | .branch test consequent (some alternate) => .expr test :: consequent.map .stmt ++ [.stmt alternate]
  | .unless test consequent => .expr test :: consequent.map .stmt
  | .ret value => [.expr value]
  | .expr value => [.expr value]
  | .block body => body.map .stmt

def Node.children : Node → List Node
  | .stmt s => s.children
  | .expr e => e.children.map .expr

def Node.Holds (n m : Node) : Prop := m ∈ n.children

/-! ## Listings -/

/-- A list of all nodes of some trees: each node, then its children with all that is in them, then the other trees. -/
inductive Listing : List Node → List Node → Prop
  | nil : Listing [] []
  | cons {n : Node} {rest below after : List Node} : Listing n.children below → Listing rest after →
      Listing (n :: rest) (n :: (below ++ after))

namespace Listing

theorem node {n : Node} {below : List Node} (h : Listing n.children below) : Listing [n] (n :: below) := by
  simpa using Listing.cons h .nil

theorem append {ns ns' l l' : List Node} (h : Listing ns l) (h' : Listing ns' l') : Listing (ns ++ ns') (l ++ l') := by
  induction h with
  | nil => exact h'
  | cons hbelow _ _ ih => simpa using Listing.cons hbelow ih

theorem unique {ns l l' : List Node} (h : Listing ns l) (h' : Listing ns l') : l = l' := by
  induction h generalizing l' with
  | nil =>
    cases h'
    rfl
  | cons _ _ ihbelow ihafter =>
    cases h' with
    | cons hbelow hafter => rw [ihbelow hbelow, ihafter hafter]

/-- A listing holds what can be reached from its trees. -/
theorem mem_iff {ns l : List Node} (h : Listing ns l) {m : Node} : m ∈ l ↔ ∃ n ∈ ns, ReflTransGen Node.Holds n m := by
  induction h with
  | nil => simp
  | @cons n rest below after _ _ ihbelow ihafter =>
    rw [List.mem_cons, List.mem_append, ihbelow, ihafter, List.exists_mem_cons_iff]
    -- the node itself, or what is reached through a child of it
    have hhead : (m = n ∨ ∃ n' ∈ n.children, ReflTransGen Node.Holds n' m) ↔ ReflTransGen Node.Holds n m := by
      rw [ReflTransGen.cases_head_iff, eq_comm]
      rfl
    rw [← or_assoc, hhead]

end Listing

/-! ## The nodes of a program are a listing -/

/-- A listing of expressions. -/
def ListingExprs (es ns : List Expr) : Prop := Listing (es.map .expr) (ns.map .expr)

theorem ListingExprs.append {es es' ns ns' : List Expr} (h : ListingExprs es ns) (h' : ListingExprs es' ns') :
    ListingExprs (es ++ es') (ns ++ ns') := by
  unfold ListingExprs
  rw [List.map_append, List.map_append]
  exact Listing.append h h'

theorem ListingExprs.node {e : Expr} {ns : List Expr} (h : ListingExprs e.children ns) : ListingExprs [e] (e :: ns) :=
  Listing.node (n := .expr e) h

mutual

theorem Expr.listing_nodes : (e : Expr) → ListingExprs [e] e.nodes
  | .conditional test consequent alternate =>
    .node ((test.listing_nodes.append consequent.listing_nodes).append alternate.listing_nodes)
  | .binary _ left right => .node (left.listing_nodes.append right.listing_nodes)
  | .unary _ operand => .node operand.listing_nodes
  | .call callee args => .node (callee.listing_nodes.append (Expr.listing_nodesAll args))
  | .member object _ => .node object.listing_nodes
  | .index object position => .node (object.listing_nodes.append position.listing_nodes)
  | .range first last none => .node (first.listing_nodes.append last.listing_nodes)
  | .range first last (some step) =>
    .node ((first.listing_nodes.append last.listing_nodes).append step.listing_nodes)
  | .array elements => .node (Expr.listing_nodesAll elements)
  | .object properties => .node (Property.listing_nodesAll properties)
  | .identifier _ => .node .nil
  | .literal _ => .node .nil
  | .undefined => .node .nil
  | .interpolated parts => .node (Part.listing_nodesAll parts)

theorem Expr.listing_nodesAll : (es : List Expr) → ListingExprs es (Expr.nodesAll es)
  | [] => .nil
  | e :: es => e.listing_nodes.append (Expr.listing_nodesAll es)

theorem Property.listing_nodesAll : (ps : List Property) → ListingExprs (ps.map Property.value) (Property.nodesAll ps)
  | [] => .nil
  | ⟨_, value, _⟩ :: ps => value.listing_nodes.append (Property.listing_nodesAll ps)

theorem Part.listing_nodesAll : (ps : List Part) → ListingExprs (ps.filterMap Part.value?) (Part.nodesAll ps)
  | [] => .nil
  | .text _ :: ps => Part.listing_nodesAll ps
  | .expr value :: ps => value.listing_nodes.append (Part.listing_nodesAll ps)

end

theorem listing_patterns (ps : List Pattern) : Listing (ps.flatMap Pattern.nodes) (ps.flatMap Pattern.nodes) := by
  induction ps with
  | nil => exact .nil
  | cons p ps ih =>
    cases p with
    | literal value => exact Listing.append (Listing.node (n := .expr (.literal value)) .nil) ih
    | wildcard => exact ih
    | binding name => exact ih

theorem listing_guard (guard : Option Expr) :
    Listing (guard.toList.map .expr) (guard.toList.flatMap (·.nodes.map .expr)) := by
  cases guard with
  | none => exact .nil
  | some guard =>
    rw [Option.toList_some, List.flatMap_singleton]
    exact guard.listing_nodes

mutual

theorem Stmt.listing_inner : (s : Stmt) → Listing s.children s.inner
  | .declare _ _ value => value.listing_nodes
  | .function _ _ body => Stmt.listing_nodesAll body
  | .clause c => c.listing_nodes
  | .dispatch _ clauses => Clause.listing_nodesAll clauses
  | .branch test consequent none => Listing.append test.listing_nodes (Stmt.listing_nodesAll consequent)
  | .branch test consequent (some alternate) =>
    (Listing.append test.listing_nodes (Stmt.listing_nodesAll consequent)).append
      (Listing.node (n := .stmt alternate) alternate.listing_inner)
  | .unless test consequent => Listing.append test.listing_nodes (Stmt.listing_nodesAll consequent)
  | .ret value => value.listing_nodes
  | .expr value => value.listing_nodes
  | .block body => Stmt.listing_nodesAll body

theorem Stmt.listing_nodesAll : (ss : List Stmt) → Listing (ss.map .stmt) (Stmt.nodesAll ss)
  | [] => .nil
  | s :: ss => .cons s.listing_inner (Stmt.listing_nodesAll ss)

theorem Clause.listing_nodes : (c : Clause) → Listing c.children c.nodes
  | ⟨_, patterns, guard, body⟩ =>
    ((listing_patterns patterns).append (listing_guard guard)).append (Stmt.listing_nodesAll body)

theorem Clause.listing_nodesAll : (cs : List Clause) → Listing (cs.flatMap Clause.children) (Clause.nodesAll cs)
  | [] => .nil
  | c :: cs => c.listing_nodes.append (Clause.listing_nodesAll cs)

end

/-! ## Trees without their texts -/

def Literal.bare : Literal → Literal
  | .string _ => .string ""
  | .symbol _ => .symbol ""
  | value => value

def Pattern.bare : Pattern → Pattern
  | .literal value => .literal value.bare
  | .wildcard => .wildcard
  | .binding _ => .binding ""

mutual

/-- An expression with every text in it left empty, the names of identifiers excepted. -/
def Expr.bare : Expr → Expr
  | .conditional test consequent alternate => .conditional test.bare consequent.bare alternate.bare
  | .binary op left right => .binary op left.bare right.bare
  | .unary op operand => .unary op operand.bare
  | .call callee args => .call callee.bare (Expr.bareAll args)
  | .member object _ => .member object.bare ""
  | .index object position => .index object.bare position.bare
  | .range first last none => .range first.bare last.bare none
  | .range first last (some step) => .range first.bare last.bare (some step.bare)
  | .array elements => .array (Expr.bareAll elements)
  | .object properties => .object (Property.bareAll properties)
  | .identifier name => .identifier name
  | .literal value => .literal value.bare
  | .undefined => .undefined
  | .interpolated parts => .interpolated (Part.bareAll parts)

def Expr.bareAll : List Expr → List Expr
  | [] => []
  | e :: es => e.bare :: Expr.bareAll es

def Property.bareAll : List Property → List Property
  | [] => []
  | ⟨_, value, shorthand⟩ :: ps => ⟨"", value.bare, shorthand⟩ :: Property.bareAll ps

def Part.bareAll : List Part → List Part
  | [] => []
  | .text _ :: ps => .text "" :: Part.bareAll ps
  | .expr value :: ps => .expr value.bare :: Part.bareAll ps

end

mutual

/-- A statement with every text in it left empty, the names of identifiers excepted. -/
def Stmt.bare : Stmt → Stmt
  | .declare kind _ value => .declare kind "" value.bare
  | .function _ params body => .function "" (params.map fun _ => "") (Stmt.bareAll body)
  | .clause c => .clause c.bare
  | .dispatch _ clauses => .dispatch "" (Clause.bareAll clauses)
  | .branch test consequent none => .branch test.bare (Stmt.bareAll consequent) none
  | .branch test consequent (some alternate) => .branch test.bare (Stmt.bareAll consequent) (some alternate.bare)
  | .unless test consequent => .unless test.bare (Stmt.bareAll consequent)
  | .ret value => .ret value.bare
  | .expr value => .expr value.bare
  | .block body => .block (Stmt.bareAll body)

def Stmt.bareAll : List Stmt → List Stmt
  | [] => []
  | s :: ss => s.bare :: Stmt.bareAll ss

def Clause.bare : Clause → Clause
  | ⟨_, patterns, guard, body⟩ => ⟨"", patterns.map Pattern.bare, guard.map Expr.bare, Stmt.bareAll body⟩

def Clause.bareAll : List Clause → List Clause
  | [] => []
  | c :: cs => c.bare :: Clause.bareAll cs

end

def Node.bare : Node → Node
  | .stmt s => .stmt s.bare
  | .expr e => .expr e.bare

def Program.bare (p : Program) : Program := ⟨Stmt.bareAll p.body⟩

theorem Expr.bareAll_eq_map (es : List Expr) : Expr.bareAll es = es.map Expr.bare := by
  induction es with
  | nil => rfl
  | cons e es ih => rw [Expr.bareAll, ih, List.map_cons]

theorem Property.map_value_bareAll (ps : List Property) :
    (Property.bareAll ps).map Property.value = (ps.map Property.value).map Expr.bare := by
  induction ps with
  | nil => rfl
  | cons p ps ih =>
    obtain ⟨key, value, shorthand⟩ := p
    rw [Property.bareAll, List.map_cons, ih, List.map_cons, List.map_cons]

theorem Part.filterMap_value?_bareAll (ps : List Part) :
    (Part.bareAll ps).filterMap Part.value? = (ps.filterMap Part.value?).map Expr.bare := by
  induction ps with
  | nil => rfl
  | cons p ps ih =>
    cases p with
    | text text => exact ih
    | expr value => exact congrArg (value.bare :: ·) ih

theorem Stmt.bareAll_eq_map (ss : List Stmt) : Stmt.bareAll ss = ss.map Stmt.bare := by
  induction ss with
  | nil => rfl
  | cons s ss ih => rw [Stmt.bareAll, ih, List.map_cons]

theorem Stmt.map_stmt_bareAll (ss : List Stmt) :
    (Stmt.bareAll ss).map Node.stmt = (ss.map Node.stmt).map Node.bare := by
  rw [Stmt.bareAll_eq_map, List.map_map, List.map_map]
  rfl

theorem Clause.bareAll_eq_map (cs : List Clause) : Clause.bareAll cs = cs.map Clause.bare := by
  induction cs with
  | nil => rfl
  | cons c cs ih => rw [Clause.bareAll, ih, List.map_cons]

theorem Expr.children_bare (e : Expr) : e.bare.children = e.children.map Expr.bare := by
  cases e with
  | call callee args => simp [Expr.bare, Expr.children, Expr.bareAll_eq_map]
  | range first last step => cases step <;> rfl
  | array elements => exact Expr.bareAll_eq_map elements
  | object properties => exact Property.map_value_bareAll properties
  | interpolated parts => exact Part.filterMap_value?_bareAll parts
  | _ => rfl

theorem Pattern.nodes_bare (p : Pattern) : p.bare.nodes = p.nodes.map Node.bare := by
  cases p <;> rfl

theorem Clause.children_bare (c : Clause) : c.bare.children = c.children.map Node.bare := by
  obtain ⟨name, patterns, guard, body⟩ := c
  have hpatterns :
      (patterns.map Pattern.bare).flatMap Pattern.nodes = (patterns.flatMap Pattern.nodes).map Node.bare := by
    rw [List.flatMap_map, List.map_flatMap]
    exact List.flatMap_congr fun p _ => p.nodes_bare
  have hguard : (guard.map Expr.bare).toList.map Node.expr = (guard.toList.map Node.expr).map Node.bare := by
    cases guard <;> rfl
  simp only [Clause.bare, Clause.children, hpatterns, hguard, Stmt.map_stmt_bareAll, List.map_append]

theorem Stmt.children_bare (s : Stmt) : s.bare.children = s.children.map Node.bare := by
  cases s with
  | function name params body => exact Stmt.map_stmt_bareAll body
  | clause c => exact c.children_bare
  | dispatch name clauses =>
    simp only [Stmt.bare, Stmt.children, Clause.bareAll_eq_map, List.flatMap_map, List.map_flatMap]
    exact List.flatMap_congr fun c _ => c.children_bare
  | branch test consequent alternate =>
    cases alternate <;> simp [Stmt.bare, Stmt.children, Stmt.map_stmt_bareAll, Node.bare]
  | «unless» test consequent => simp [Stmt.bare, Stmt.children, Stmt.map_stmt_bareAll, Node.bare]
  | block body => exact Stmt.map_stmt_bareAll body
  | _ => rfl

theorem Node.children_bare (n : Node) : n.bare.children = n.children.map Node.bare := by
  cases n with
  | stmt s => exact s.children_bare
  | expr e =>
    simp only [Node.bare, Node.children, e.children_bare, List.map_map]
    rfl

/-- Trees without their texts are listed as the trees are. -/
theorem Listing.map_bare {ns l : List Node} (h : Listing ns l) : Listing (ns.map Node.bare) (l.map Node.bare) := by
  induction h with
  | nil => exact .nil
  | @cons n rest below after _ _ ihbelow ihafter =>
    rw [← Node.children_bare] at ihbelow
    simpa using Listing.cons ihbelow ihafter

theorem Program.nodesAll_bare (p : Program) : Stmt.nodesAll p.bare.body = (Stmt.nodesAll p.body).map Node.bare := by
  have hbare := (Stmt.listing_nodesAll p.body).map_bare
  rw [← Stmt.map_stmt_bareAll] at hbare
  exact (Stmt.listing_nodesAll p.bare.body).unique hbare

theorem Expr.kind_bare (e : Expr) : e.bare.kind = e.kind := by
  cases e with
  | range first last step => cases step <;> rfl
  | literal value => cases value <;> rfl
  | _ => rfl

theorem Stmt.kind_bare (s : Stmt) : s.bare.kind = s.kind := by
  cases s with
  | branch test consequent alternate => cases alternate <;> rfl
  | _ => rfl

end TreeScript.Tree

namespace TreeScript.Library

open Relation (ReflTransGen)
open TreeScript.Tree (Expr Listing Node Stmt)

/-! ## Calls -/

theorem foldl_note_eq_eraseDups (new : List String) : new.foldl note [] = new.eraseDups := by
  rw [foldl_note_eq, fresh_eq_eraseDups, List.nil_append]
  simp

/-- A program uses what its nodes call for, in the order of the first calls. -/
theorem used_eq_eraseDups (lib : Library) (p : Tree.Program) :
    lib.used p = ((Stmt.nodesAll p.body).flatMap lib.calls).eraseDups := by
  rw [used, noteStmts_eq, noteNodes, foldl_note_eq_eraseDups]

theorem nameModule?_bare (lib : Library) (e : Expr) : lib.nameModule? e.bare = lib.nameModule? e := by
  cases e with
  | range first last step => cases step <;> rfl
  | _ => rfl

/-- A node calls for the same keys without its texts. -/
theorem calls_bare (lib : Library) (n : Node) : lib.calls n.bare = lib.calls n := by
  cases n with
  | stmt s => simp only [Node.bare, calls, Stmt.kind_bare]
  | expr e => simp only [Node.bare, calls, Expr.kind_bare, nameModule?_bare]

theorem used_bare (lib : Library) (p : Tree.Program) : lib.used p.bare = lib.used p := by
  rw [used_eq_eraseDups, used_eq_eraseDups, p.nodesAll_bare, List.flatMap_map]
  simp only [calls_bare]

/-- A program's nodes have one listing, and the program uses the keys that they call for in it, each at its first
call. So a key is used exactly if a node somewhere in the program calls for it; and texts other than the names of
identifiers (declared names, parameters, bindings, names of members, keys of properties, the contents of strings)
have no part in it, as programs that differ in them alone use the same keys. -/
theorem used_first_calls (lib : Library) (p : Tree.Program) :
    (∀ ns, Listing (p.body.map .stmt) ns ↔ ns = Stmt.nodesAll p.body) ∧
      lib.used p = ((Stmt.nodesAll p.body).flatMap lib.calls).eraseDups ∧
      (∀ k, k ∈ lib.used p ↔ ∃ s ∈ p.body, ∃ n, ReflTransGen Node.Holds (.stmt s) n ∧ k ∈ lib.calls n) ∧
      ∀ q : Tree.Program, q.bare = p.bare → lib.used q = lib.used p := by
  have hlisting := Stmt.listing_nodesAll p.body
  refine ⟨fun ns => ?_, used_eq_eraseDups lib p, fun k => ?_, fun q hq => ?_⟩
  · constructor
    · intro h
      exact h.unique hlisting
    · rintro rfl
      exact hlisting
  · simp only [mem_used, hlisting.mem_iff, List.mem_map]
    constructor
    · rintro ⟨n, ⟨_, ⟨s, hs, rfl⟩, hreached⟩, hk⟩
      exact ⟨s, hs, n, hreached, hk⟩
    · rintro ⟨s, hs, n, hreached, hk⟩
      exact ⟨n, ⟨_, ⟨s, hs, rfl⟩, hreached⟩, hk⟩
  · rw [← used_bare, hq, used_bare]

/-- A program in which only one of many names that the library knows is an identifier. -/
def decoys : Tree.Program := ⟨[
  .function "print" ["abs"] [
    .declare .const "Kernel" (.member (.object [⟨"length", .literal (.string "Range"), false⟩]) "inspect"),
    .ret (.interpolated [.text "max", .expr (.identifier "is_odd")])],
  .clause ⟨"String", [.binding "round", .literal (.symbol "tap")], none, []⟩]⟩

/-- The same program with other texts. -/
def strangers : Tree.Program := ⟨[
  .function "f" ["x"] [
    .declare .const "y" (.member (.object [⟨"k", .literal (.string "s"), false⟩]) "m"),
    .ret (.interpolated [.text "t", .expr (.identifier "is_odd")])],
  .clause ⟨"g", [.binding "z", .literal (.symbol "u")], none, []⟩]⟩

theorem used_first_calls_decoys :
    strangers.bare = decoys.bare ∧ standard.used decoys = ["Integer"] ∧
      standard.used strangers = standard.used decoys := by
  obtain ⟨-, -, -, htexts⟩ := used_first_calls standard decoys
  exact ⟨rfl, by decide, htexts strangers rfl⟩

end TreeScript.Library
