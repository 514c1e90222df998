/-
  TreeScript.Proofs.Nodes — the nodes of a tree in document order.

  A node stands before its parts, and the parts stand in the order in which they are
  written. A literal in a pattern is a node like a literal in an expression; names and
  keys are no nodes, and neither are the clauses of a dispatcher.
-/

import TreeScript.Tree.Dispatch

namespace TreeScript.Tree

inductive Node where
  | stmt (s : Stmt)
  | expr (e : Expr)

/-! ## Expressions -/

mutual

/-- An expression and all expressions in it. -/
def Expr.nodes : Expr → List Expr
  | e@(.conditional test consequent alternate) => e :: (test.nodes ++ consequent.nodes ++ alternate.nodes)
  | e@(.binary _ left right) => e :: (left.nodes ++ right.nodes)
  | e@(.unary _ operand) => e :: operand.nodes
  | e@(.call callee args) => e :: (callee.nodes ++ Expr.nodesAll args)
  | e@(.member object _) => e :: object.nodes
  | e@(.index object position) => e :: (object.nodes ++ position.nodes)
  | e@(.range first last none) => e :: (first.nodes ++ last.nodes)
  | e@(.range first last (some step)) => e :: (first.nodes ++ last.nodes ++ step.nodes)
  | e@(.array elements) => e :: Expr.nodesAll elements
  | e@(.object properties) => e :: Property.nodesAll properties
  | e@(.interpolated parts) => e :: Part.nodesAll parts
  | e => [e]

def Expr.nodesAll : List Expr → List Expr
  | [] => []
  | e :: es => e.nodes ++ Expr.nodesAll es

def Property.nodesAll : List Property → List Expr
  | [] => []
  | ⟨_, value, _⟩ :: ps => value.nodes ++ Property.nodesAll ps

def Part.nodesAll : List Part → List Expr
  | [] => []
  | .text _ :: ps => Part.nodesAll ps
  | .expr value :: ps => value.nodes ++ Part.nodesAll ps

end

theorem Expr.self_mem_nodes (e : Expr) : e ∈ e.nodes := by
  unfold nodes
  split <;> exact List.mem_cons_self

/-- Nodes with all nodes in them. -/
def Closed (ns : List Expr) : Prop := ∀ n ∈ ns, n.nodes ⊆ ns

theorem closed_nil : Closed [] := by
  intro n hn
  cases hn

theorem Closed.append {ns ns' : List Expr} (h : Closed ns) (h' : Closed ns') : Closed (ns ++ ns') := by
  intro n hn
  rcases List.mem_append.1 hn with hn | hn
  · exact List.subset_append_of_subset_left _ (h n hn)
  · exact List.subset_append_of_subset_right _ (h' n hn)

theorem Closed.cons {ns : List Expr} {e : Expr} (h : Closed ns) (he : e.nodes = e :: ns) : Closed (e :: ns) := by
  intro n hn
  rcases List.mem_cons.1 hn with rfl | hn
  · rw [he]
    exact List.Subset.refl _
  · exact List.subset_cons_of_subset _ (h n hn)

mutual

theorem Expr.closed_nodes : (e : Expr) → Closed e.nodes
  | .conditional test consequent alternate =>
    ((test.closed_nodes.append consequent.closed_nodes).append alternate.closed_nodes).cons rfl
  | .binary _ left right => (left.closed_nodes.append right.closed_nodes).cons rfl
  | .unary _ operand => operand.closed_nodes.cons rfl
  | .call callee args => (callee.closed_nodes.append (Expr.closed_nodesAll args)).cons rfl
  | .member object _ => object.closed_nodes.cons rfl
  | .index object position => (object.closed_nodes.append position.closed_nodes).cons rfl
  | .range first last none => (first.closed_nodes.append last.closed_nodes).cons rfl
  | .range first last (some step) =>
    ((first.closed_nodes.append last.closed_nodes).append step.closed_nodes).cons rfl
  | .array elements => (Expr.closed_nodesAll elements).cons rfl
  | .object properties => (Property.closed_nodesAll properties).cons rfl
  | .identifier _ => closed_nil.cons rfl
  | .literal _ => closed_nil.cons rfl
  | .undefined => closed_nil.cons rfl
  | .interpolated parts => (Part.closed_nodesAll parts).cons rfl

theorem Expr.closed_nodesAll : (es : List Expr) → Closed (Expr.nodesAll es)
  | [] => closed_nil
  | e :: es => e.closed_nodes.append (Expr.closed_nodesAll es)

theorem Property.closed_nodesAll : (ps : List Property) → Closed (Property.nodesAll ps)
  | [] => closed_nil
  | ⟨_, value, _⟩ :: ps => value.closed_nodes.append (Property.closed_nodesAll ps)

theorem Part.closed_nodesAll : (ps : List Part) → Closed (Part.nodesAll ps)
  | [] => closed_nil
  | .text _ :: ps => Part.closed_nodesAll ps
  | .expr value :: ps => value.closed_nodes.append (Part.closed_nodesAll ps)

end

/-! ## Statements -/

def Pattern.nodes : Pattern → List Node
  | .literal value => [.expr (.literal value)]
  | _ => []

mutual

/-- All nodes in a statement, without the statement itself. -/
def Stmt.inner : Stmt → List Node
  | .declare _ _ value => value.nodes.map .expr
  | .function _ _ body => Stmt.nodesAll body
  | .clause c => c.nodes
  | .dispatch _ clauses => Clause.nodesAll clauses
  | .branch test consequent none => test.nodes.map .expr ++ Stmt.nodesAll consequent
  | .branch test consequent (some alternate) =>
    test.nodes.map .expr ++ Stmt.nodesAll consequent ++ .stmt alternate :: alternate.inner
  | .unless test consequent => test.nodes.map .expr ++ Stmt.nodesAll consequent
  | .ret value => value.nodes.map .expr
  | .expr value => value.nodes.map .expr
  | .block body => Stmt.nodesAll body

def Stmt.nodesAll : List Stmt → List Node
  | [] => []
  | s :: ss => .stmt s :: (s.inner ++ Stmt.nodesAll ss)

/-- The nodes of a clause's literal patterns, its guard and its body. -/
def Clause.nodes : Clause → List Node
  | ⟨_, patterns, guard, body⟩ =>
    patterns.flatMap Pattern.nodes ++ guard.toList.flatMap (·.nodes.map .expr) ++ Stmt.nodesAll body

def Clause.nodesAll : List Clause → List Node
  | [] => []
  | c :: cs => c.nodes ++ Clause.nodesAll cs

end

/-- A statement and all nodes in it. -/
def Stmt.nodes (s : Stmt) : List Node := .stmt s :: s.inner

theorem Stmt.nodesAll_eq_flatMap (ss : List Stmt) : Stmt.nodesAll ss = ss.flatMap Stmt.nodes := by
  induction ss with
  | nil => rfl
  | cons s ss ih => rw [Stmt.nodesAll, ih, List.flatMap_cons, Stmt.nodes, List.cons_append]

theorem Clause.nodesAll_eq_flatMap (cs : List Clause) : Clause.nodesAll cs = cs.flatMap Clause.nodes := by
  induction cs with
  | nil => rfl
  | cons c cs ih => rw [Clause.nodesAll, ih, List.flatMap_cons]

/-- A function's nodes are those of the clause that takes all arguments. -/
theorem nodes_catchAllClause (name : String) (params : List String) (body : List Stmt) :
    (catchAllClause name params body).nodes = Stmt.nodesAll body := by
  have hpatterns : (params.map Pattern.binding).flatMap Pattern.nodes = [] := by
    simp [List.flatMap_map, Pattern.nodes]
  simp [catchAllClause, Clause.nodes, hpatterns]

end TreeScript.Tree
