import Mathlib.Data.List.Flatten
import Overloading.Proofs.Fold
import Overloading.Proofs.Tree
import Overloading.Proofs.Tree.Label

/-! # Folding only deletes

The trace of a tree lists its nodes in pre-order, each without its parts. Boolean literals, blocks and
empty statements are left out, for these are all that folding ever puts in the place of something else.

The trace of a folded body is a sublist of the trace of the body (`Stmt.trace_foldAll`). What can be read
off the trace is therefore neither made up nor repeated nor moved: the leaves of the tree, the locals that
it binds, what its calls are instantiated with and resolved to. -/

namespace Overloading

open scoped List

namespace Node

/-- The nodes inside a node, each without its parts, in source order. -/
def trace (node : Node) : List Node := node.preorder.filterMap shell?

/-- The trace of a node is the node without its parts, if it is traced at all, and then the traces of
its parts. -/
theorem trace_eq (node : Node) : node.trace = node.shell?.toList ++ node.parts.flatMap trace := by
  rw [trace, preorder_eq, List.filterMap_cons, List.filterMap_flatMap]
  cases node.shell? <;> rfl

/-- A block is not traced itself. -/
theorem trace_block (body : List Stmt) :
    (Node.ofStmt (.block body)).trace = (body.map ofStmt).flatMap trace := by
  rw [trace_eq]
  rfl

/-! ## Folding -/

variable {context : FoldContext}

/-- What is left of a list of nodes traces less, if each of the nodes does. -/
theorem Thinned.trace_sublist {sources results : List Node} (thinned : Thinned context sources results)
    (each : ∀ source ∈ sources, (source.fold context).trace <+ source.trace) :
    results.flatMap trace <+ sources.flatMap trace := by
  induction thinned with
  | nil => exact .refl _
  | kept node _ ih =>
    obtain ⟨first, others⟩ := List.forall_mem_cons.mp each
    exact first.append (ih others)
  | opened isBlock _ ih =>
    -- a block is not traced itself, so it makes no difference that it is opened
    obtain ⟨first, others⟩ := List.forall_mem_cons.mp each
    rw [isBlock, trace_block] at first
    rw [List.flatMap_append]
    exact first.append (ih others)
  | dropped node _ ih =>
    obtain ⟨_, others⟩ := List.forall_mem_cons.mp each
    exact (ih others).trans (List.sublist_append_right _ _)

/-- The trace of a part is in the trace of the node. -/
theorem trace_sublist_of_mem_parts {part node : Node} (mem : part ∈ node.parts) :
    part.trace <+ node.trace := by
  have inParts : [part].flatMap trace <+ node.parts.flatMap trace :=
    (List.singleton_sublist.mpr mem).flatMap trace
  rw [List.flatMap_singleton] at inParts
  rw [trace_eq node]
  exact inParts.trans (List.sublist_append_right _ _)

/-- Folding leaves a sublist of the trace of a node. -/
theorem trace_fold (node : Node) : (node.fold context).trace <+ node.trace := by
  induction node using Node.induction with
  | step node ih =>
    have folds : node.FoldsTo context (node.fold context) := foldsTo_fold node
    generalize node.fold context = result at folds ⊢
    cases folds with
    | part mem => exact (ih _ mem).trans (trace_sublist_of_mem_parts mem)
    | rebuilt shell parts =>
      have ofShell : result.shell?.toList <+ node.shell?.toList := by
        rcases shell with none | same
        · rw [none]
          exact List.nil_sublist _
        · rw [same]
      rw [trace_eq result, trace_eq node]
      exact ofShell.append (parts.trace_sublist ih)

end Node

/-! ## Bodies -/

namespace Stmt

/-- The nodes of a body, each without its parts, in source order. -/
def trace (body : List Stmt) : List Node := (Stmt.nodes body).filterMap Node.shell?

/-- **Nothing but boolean literals, blocks and empty statements comes about by folding.** The other nodes
of a folded body are nodes of the body, up to their parts, in the same order. -/
theorem trace_foldAll (context : FoldContext) (body : List Stmt) :
    Stmt.trace (Stmt.foldAll context body) <+ Stmt.trace body := by
  have ofBlock (stmts : List Stmt) : Stmt.trace stmts = (Node.ofStmt (.block stmts)).trace := by
    rw [Node.trace_block, trace, nodes, List.filterMap_flatMap, List.flatMap_map]
    rfl
  rw [ofBlock, ofBlock]
  exact Node.trace_fold (.ofStmt (.block body))

/-- What depends on a node without its parts only can be read off the trace. -/
theorem filterMap_nodes {α : Type} {pick : Node → Option α}
    (ofShell : ∀ node : Node, node.shell?.bind pick = pick node) (body : List Stmt) :
    (Stmt.nodes body).filterMap pick = (Stmt.trace body).filterMap pick := by
  rw [trace, List.filterMap_filterMap]
  exact List.filterMap_congr fun node _ => (ofShell node).symm

/-- What is picked from the nodes of a folded body, by a function that looks at shells only, is a
sublist of what is picked from the body. -/
theorem filterMap_nodes_foldAll {α : Type} {pick : Node → Option α}
    (ofShell : ∀ node : Node, node.shell?.bind pick = pick node) (context : FoldContext)
    (body : List Stmt) :
    (Stmt.nodes (Stmt.foldAll context body)).filterMap pick <+
      (Stmt.nodes body).filterMap pick := by
  rw [filterMap_nodes ofShell, filterMap_nodes ofShell]
  exact (trace_foldAll context body).filterMap pick

end Stmt

/-- Whether an expression has no parts and is no boolean literal. -/
def Expr.isLeaf : Expr → Bool
  | .undefined | .null | .number _ | .string _ | .ident _ _ | .this => true
  | _ => false

/-- The type arguments of a call or an instantiation, and the signature that it was resolved to. -/
def Expr.callHead? : Expr → Option (List DeclaredType × Option DeclHandle)
  | .call _ typeArgs _ signature => some (typeArgs, signature)
  | .new _ typeArgs _ signature => some (typeArgs, signature)
  | _ => none

namespace Node

/-- The local that a node binds. -/
def letDecl? : Node → Option DeclHandle
  | .ofStmt (.letDecl decl _ _ _ _) => some decl
  | _ => none

/-- Whether a node is a `let` and of which local is told by its shell. -/
theorem shell?_bind_letDecl? (node : Node) : node.shell?.bind letDecl? = node.letDecl? := by
  match node with
  | .ofExpr expr => cases expr <;> rfl
  | .ofStmt stmt => cases stmt <;> rfl

/-- Whether a node is a leaf and which is told by its shell. -/
theorem shell?_bind_leaf (node : Node) :
    (node.shell?.bind fun shell => shell.expr?.filter Expr.isLeaf) =
      node.expr?.filter Expr.isLeaf := by
  match node with
  | .ofExpr expr => cases expr <;> rfl
  | .ofStmt stmt => cases stmt <;> rfl

/-- The type arguments and the signature of a call are told by its shell. -/
theorem shell?_bind_callHead? (node : Node) :
    (node.shell?.bind fun shell => shell.expr?.bind Expr.callHead?) =
      node.expr?.bind Expr.callHead? := by
  match node with
  | .ofExpr expr => cases expr <;> rfl
  | .ofStmt stmt => cases stmt <;> rfl

end Node

namespace Stmt

/-- The locals that the `let` statements of a body bind, at any depth, in source order. -/
def letDecls (body : List Stmt) : List DeclHandle := (Stmt.nodes body).filterMap Node.letDecl?

/-- **Folding only deletes.** The leaves of a folded body other than boolean literals are leaves of the
body, the locals that it binds are locals that the body binds, and what its calls and instantiations are
applied to and resolved to is so in the body: each time in the same order, and as often at most. -/
theorem foldAll_only_deletes (context : FoldContext) (body : List Stmt) :
    (Stmt.subexprsAll (Stmt.foldAll context body)).filter Expr.isLeaf <+
      (Stmt.subexprsAll body).filter Expr.isLeaf ∧
    Stmt.letDecls (Stmt.foldAll context body) <+ Stmt.letDecls body ∧
    (Stmt.subexprsAll (Stmt.foldAll context body)).filterMap Expr.callHead? <+
      (Stmt.subexprsAll body).filterMap Expr.callHead? := by
  -- each of the three lists is picked from the nodes in pre-order
  have leaves (stmts : List Stmt) : (Stmt.subexprsAll stmts).filter Expr.isLeaf =
      (Stmt.nodes stmts).filterMap fun node => node.expr?.filter Expr.isLeaf := by
    rw [subexprsAll_eq, preorderExprs, List.filter_filterMap, nodes]
  have heads (stmts : List Stmt) : (Stmt.subexprsAll stmts).filterMap Expr.callHead? =
      (Stmt.nodes stmts).filterMap fun node => node.expr?.bind Expr.callHead? := by
    rw [subexprsAll_eq, preorderExprs, List.filterMap_filterMap, nodes]
  refine ⟨?_, ?_, ?_⟩
  · rw [leaves, leaves]
    exact filterMap_nodes_foldAll Node.shell?_bind_leaf context body
  · exact filterMap_nodes_foldAll Node.shell?_bind_letDecl? context body
  · rw [heads, heads]
    exact filterMap_nodes_foldAll Node.shell?_bind_callHead? context body

end Stmt

end Overloading
