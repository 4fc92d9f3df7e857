import Overloading.Proofs.Tree

/-! # Scopes

Where the locals of a body are in scope: a `let` scopes over the later statements of its own list, that
of a `for` header over the rest of the loop, the parameter of a closure over the body of the closure, and
the parameter of a handler over the body of the handler.

`Node.places` lists the parts of a node, each with the locals that the node brings into scope there, and
`Node.Sees` collects these on the way down to a node inside. A body is well scoped if each identifier in
it that refers to one of its own locals stands where that local is in scope. -/

namespace Overloading

/-! ## Places -/

/-- The local that a statement brings into scope for what follows it. -/
def Stmt.binds : Stmt → List DeclHandle
  | .letDecl decl _ _ _ _ => [decl]
  | _ => []

/-- A part of a node, with the locals that the node brings into scope there. -/
structure Place where
  binds : List DeclHandle
  node : Node

namespace Place

/-- A part that no local is brought into scope for. -/
def plain (node : Node) : Place := ⟨[], node⟩

/-- A place with more locals in scope. -/
def under (locals : List DeclHandle) (place : Place) : Place := ⟨locals ++ place.binds, place.node⟩

end Place

/-- The statements of a list, each with the locals that are bound before it. -/
def Stmt.places : List Stmt → List Place
  | [] => []
  | stmt :: stmts => .plain (.ofStmt stmt) :: (Stmt.places stmts).map (.under stmt.binds)

/-- The statements of a handler, in all of which its parameter is in scope. -/
def CatchClause.places : CatchClause → List Place
  | ⟨param, body⟩ => (Stmt.places body).map (.under param.toList)

/-- The parts of an arm. -/
def SwitchCase.places : SwitchCase → List Place
  | ⟨test, body⟩ => (test.toList.map Node.ofExpr).map .plain ++ Stmt.places body

/-- The immediate parts of a node, each with the locals that the node brings into scope there. -/
def Node.places : Node → List Place
  | .ofExpr (.closure params body) => (Stmt.places body).map (.under params)
  | .ofStmt (.ifElse condition thenBranch elseBranch) =>
    .plain (.ofExpr condition) :: (Stmt.places thenBranch ++ Stmt.places (elseBranch.getD []))
  | .ofStmt (.whileLoop condition body) => .plain (.ofExpr condition) :: Stmt.places body
  | .ofStmt (.forLoop init condition update body) =>
    (init.toList.map Node.ofStmt).map .plain ++
      ((condition.toList.map Node.ofExpr ++ update.toList.map Node.ofExpr).map Place.plain ++
        Stmt.places body).map (.under (init.elim [] Stmt.binds))
  | .ofStmt (.tryCatch body handler finalizer) =>
    Stmt.places body ++ (handler.elim [] CatchClause.places ++ Stmt.places (finalizer.getD []))
  | .ofStmt (.switch discriminant cases) =>
    .plain (.ofExpr discriminant) :: cases.flatMap SwitchCase.places
  | .ofStmt (.block body) => Stmt.places body
  | node => node.parts.map .plain

namespace Place

@[simp] theorem binds_plain (node : Node) : (plain node).binds = [] := rfl

@[simp] theorem node_plain (node : Node) : (plain node).node = node := rfl

@[simp] theorem binds_under (locals : List DeclHandle) (place : Place) :
    (place.under locals).binds = locals ++ place.binds := rfl

/-- Plain places of nodes hold the nodes. -/
theorem map_node_plain (nodes : List Node) : (nodes.map plain).map node = nodes := by
  rw [List.map_map]
  exact List.map_id nodes

/-- Bringing locals into scope does not move the nodes. -/
theorem map_node_under (locals : List DeclHandle) (places : List Place) :
    (places.map (under locals)).map node = places.map node := by
  rw [List.map_map]
  rfl

end Place

/-- Each statement of a list has one place. -/
theorem Stmt.map_node_places (stmts : List Stmt) :
    (Stmt.places stmts).map Place.node = stmts.map .ofStmt := by
  induction stmts with
  | nil => rfl
  | cons stmt stmts ih =>
    rw [places, List.map_cons, Place.map_node_under, ih, List.map_cons, Place.node_plain]

/-- Each statement of a handler has one place. -/
theorem CatchClause.map_node_places (handler : CatchClause) :
    handler.places.map Place.node = handler.body.map .ofStmt := by
  obtain ⟨param, body⟩ := handler
  simp only [places, CatchClause.body, Place.map_node_under, Stmt.map_node_places]

/-- Each part of an arm has one place. -/
theorem SwitchCase.map_node_places (arm : SwitchCase) : arm.places.map Place.node = arm.parts := by
  obtain ⟨test, body⟩ := arm
  simp only [places, parts, List.map_append, Place.map_node_plain, Stmt.map_node_places]

/-- Each part of a node has one place. -/
theorem Node.map_node_places (node : Node) : node.places.map Place.node = node.parts := by
  match node with
  | .ofExpr expr =>
    cases expr with
    | closure params body =>
      simp only [places, parts, Expr.parts, Place.map_node_under, Stmt.map_node_places]
    | _ => exact Place.map_node_plain _
  | .ofStmt stmt =>
    cases stmt with
    | ifElse | whileLoop | block =>
      simp only [places, parts, Stmt.parts, List.map_cons, List.map_append, Place.node_plain,
        Stmt.map_node_places]
    | forLoop =>
      simp only [places, parts, Stmt.parts, List.map_append, List.append_assoc, Place.map_node_plain,
        Place.map_node_under, Stmt.map_node_places]
    | tryCatch body handler finalizer =>
      cases handler with
      | none =>
        simp only [places, parts, Stmt.parts, List.map_append, Stmt.map_node_places, Option.elim_none,
          List.map_nil]
      | some handler =>
        simp only [places, parts, Stmt.parts, List.map_append, Stmt.map_node_places, Option.elim_some,
          CatchClause.map_node_places]
    | switch =>
      simp only [places, parts, Stmt.parts, List.map_cons, Place.node_plain, List.map_flatMap,
        SwitchCase.map_node_places]
    | _ => exact Place.map_node_plain _

/-- What stands at a place of a node is a part of it. -/
theorem Place.node_mem_parts {place : Place} {node : Node} (mem : place ∈ node.places) :
    place.node ∈ node.parts := by
  rw [← node.map_node_places]
  exact List.mem_map_of_mem mem

/-! ## What is in scope -/

/-- Whether a node stands inside another one, where the other one has brought given locals into
scope. -/
inductive Node.Sees : Node → List DeclHandle → Node → Prop
  | self {node : Node} : Sees node [] node
  | inside {node inner : Node} {place : Place} {scope : List DeclHandle} (mem : place ∈ node.places)
      (sees : Sees place.node scope inner) : Sees node (scope ++ place.binds) inner

/-- On the way through a part that no local is brought into scope for, the scope stays the same. -/
theorem Node.Sees.insidePlain {node part inner : Node} {scope : List DeclHandle}
    (isPart : .plain part ∈ node.places) (sees : part.Sees scope inner) : node.Sees scope inner := by
  have through : node.Sees (scope ++ (Place.plain part).binds) inner := .inside isPart sees
  rwa [Place.binds_plain, List.append_nil] at through

/-- The locals that a node declares: the one that a `let` binds, the parameters of a closure, the
parameter of a handler. -/
def Node.declares : Node → List DeclHandle
  | .ofExpr (.closure params _) => params
  | .ofStmt (.letDecl decl _ _ _ _) => [decl]
  | .ofStmt (.tryCatch _ (some ⟨param, _⟩) _) => param.toList
  | _ => []

namespace Stmt

/-- Whether each identifier of a body that refers to one of the given locals stands where that local is
in scope. -/
def KeepsInScope (locals : DeclHandle → Prop) (body : List Stmt) : Prop :=
  ∀ scope name decl, (Node.ofStmt (.block body)).Sees scope (.ofExpr (.ident name (some decl))) →
    locals decl → decl ∈ scope

end Stmt

end Overloading
