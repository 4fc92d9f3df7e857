import Mathlib.Data.List.Basic
import Mathlib.Logic.Relation
import Overloading.Tree

/-! # Parts of a tree

Expressions and statements contain each other, so a `Node` is either of them. `Node.parts` lists the
immediate parts of a node in source order, one entry for each child position. All else is derived from
it: `Node.induction` proves a property of every node from the same property of its parts, `Node.Within`
is containment at any depth, and `Node.preorder` lists a node before its parts. -/

namespace Overloading

/-! ## Nodes -/

/-- An expression or a statement. -/
inductive Node
  | ofExpr (expr : Expr)
  | ofStmt (stmt : Stmt)

/-- The statements of a handler. -/
def CatchClause.body : CatchClause → List Stmt
  | ⟨_, body⟩ => body

/-- The immediate parts of an arm: its test, if it has one, and its statements. -/
def SwitchCase.parts : SwitchCase → List Node
  | ⟨test, body⟩ => test.toList.map .ofExpr ++ body.map .ofStmt

/-- The immediate parts of an expression, in source order. -/
def Expr.parts : Expr → List Node
  | .undefined | .null | .bool _ | .number _ | .string _ | .ident _ _ | .this => []
  | .template _ parts => parts.map .ofExpr
  | .member receiver _ _ => [.ofExpr receiver]
  | .index receiver key => [.ofExpr receiver, .ofExpr key]
  | .call callee _ args _ => .ofExpr callee :: args.map .ofExpr
  | .new callee _ args _ => .ofExpr callee :: args.map .ofExpr
  | .binary _ left right => [.ofExpr left, .ofExpr right]
  | .compare _ left right => [.ofExpr left, .ofExpr right]
  | .logical _ left right => [.ofExpr left, .ofExpr right]
  | .unary _ operand => [.ofExpr operand]
  | .conditional condition whenTrue whenFalse =>
    [.ofExpr condition, .ofExpr whenTrue, .ofExpr whenFalse]
  | .assign place value => [.ofExpr place, .ofExpr value]
  | .array items => items.map .ofExpr
  | .object properties => properties.map fun property => .ofExpr property.2
  | .spread inner => [.ofExpr inner]
  | .cast inner _ => [.ofExpr inner]
  | .nonNull inner => [.ofExpr inner]
  | .paren inner => [.ofExpr inner]
  | .closure _ body => body.map .ofStmt

/-- The immediate parts of a statement, in source order. -/
def Stmt.parts : Stmt → List Node
  | .letDecl _ _ _ _ init => init.toList.map .ofExpr
  | .expr value => [.ofExpr value]
  | .ret value => value.toList.map .ofExpr
  | .ifElse condition thenBranch elseBranch =>
    .ofExpr condition :: (thenBranch.map .ofStmt ++ (elseBranch.getD []).map .ofStmt)
  | .whileLoop condition body => .ofExpr condition :: body.map .ofStmt
  | .forLoop init condition update body =>
    init.toList.map .ofStmt ++ (condition.toList.map .ofExpr ++
      (update.toList.map .ofExpr ++ body.map .ofStmt))
  | .breakLoop | .continueLoop | .empty => []
  | .throw value => [.ofExpr value]
  | .tryCatch body handler finalizer =>
    body.map .ofStmt ++ ((handler.elim [] CatchClause.body).map .ofStmt ++
      (finalizer.getD []).map .ofStmt)
  | .switch discriminant cases => .ofExpr discriminant :: cases.flatMap SwitchCase.parts
  | .block body => body.map .ofStmt

namespace Node

/-- The immediate parts of a node, in source order. -/
def parts : Node → List Node
  | .ofExpr expr => expr.parts
  | .ofStmt stmt => stmt.parts

/-! ### Induction -/

/-- The parts of an arm are smaller than the arm. -/
theorem sizeOf_lt_of_mem_switchCase {part : Node} {arm : SwitchCase} (mem : part ∈ arm.parts) :
    sizeOf part < sizeOf arm := by
  cases arm with
  | mk test body =>
    simp only [SwitchCase.parts, List.mem_append, List.mem_map, Option.mem_toList] at mem
    grind [→ List.sizeOf_lt_of_mem]

/-- The body of a handler is smaller than the handler. -/
theorem sizeOf_body_lt (handler : CatchClause) : sizeOf handler.body < sizeOf handler := by
  cases handler with
  | mk param body =>
    simp only [CatchClause.body, CatchClause.mk.sizeOf_spec]
    omega

/-- A part is smaller than the node that it is a part of. -/
theorem sizeOf_lt_of_mem_parts {part node : Node} (mem : part ∈ node.parts) :
    sizeOf part < sizeOf node := by
  -- A part is a field of the node, or a member of a list or an option that is a field.
  match node with
  | .ofExpr expr =>
    cases expr <;> simp [Node.parts, Expr.parts] at mem
    all_goals grind [→ List.sizeOf_lt_of_mem]
  | .ofStmt stmt =>
    cases stmt <;> simp [Node.parts, Stmt.parts] at mem
    all_goals
      grind [→ List.sizeOf_lt_of_mem, → sizeOf_lt_of_mem_switchCase, sizeOf_body_lt, cases Option]

/-- What holds of a node whenever it holds of the parts, holds of all nodes. -/
theorem induction {motive : Node → Prop}
    (step : ∀ node : Node, (∀ part ∈ node.parts, motive part) → motive node) (node : Node) :
    motive node :=
  (measure (sizeOf : Node → Nat)).wf.induction node fun node smaller =>
    step node fun part mem => smaller part (sizeOf_lt_of_mem_parts mem)

/-! ### Containment -/

/-- Whether a node stands inside another one, at any depth; every node stands inside itself. -/
def Within : Node → Node → Prop := Relation.ReflTransGen fun part whole => part ∈ whole.parts

/-- The nodes inside a node, each before its parts, in source order. -/
def preorder (node : Node) : List Node :=
  node :: node.parts.attach.flatMap fun part => part.1.preorder
termination_by sizeOf node
decreasing_by exact sizeOf_lt_of_mem_parts part.2

/-- The pre-order of a node is the node and then the pre-orders of its parts. -/
theorem preorder_eq (node : Node) : node.preorder = node :: node.parts.flatMap preorder := by
  rw [preorder]
  simp only [List.flatMap_subtype, List.unattach_attach]

/-- A node is listed iff it is the root or is listed for a part of the root. -/
theorem mem_preorder {inner node : Node} :
    inner ∈ node.preorder ↔ inner = node ∨ ∃ part ∈ node.parts, inner ∈ part.preorder := by
  rw [preorder_eq, List.mem_cons, List.mem_flatMap]

/-- The nodes listed are those inside. -/
theorem mem_preorder_iff_within {inner node : Node} :
    inner ∈ node.preorder ↔ inner.Within node := by
  constructor
  · induction node using induction with
    | step node ih =>
      intro mem
      obtain rfl | ⟨part, isPart, mem⟩ := mem_preorder.mp mem
      · exact .refl
      · exact (ih part isPart mem).tail isPart
  · intro within
    -- from the inner node outward, one part at a time
    induction within with
    | refl => exact mem_preorder.mpr (.inl rfl)
    | tail _ isPart ih => exact mem_preorder.mpr (.inr ⟨_, isPart, ih⟩)

end Node

/-! ## Subexpressions by structure

`Stmt.subexprsAll` walks a body by one equation for each kind of node. Here it is compared with what the
parts of a tree say: it lists the expressions of the body in pre-order (`Stmt.subexprsAll_eq`), and
these are the expressions that stand inside the body at any depth (`Stmt.mem_subexprsAll_iff`). -/

namespace Node

/-- The subexpressions of a node. -/
def subexprs : Node → List Expr
  | .ofExpr expr => expr.subexprs
  | .ofStmt stmt => stmt.subexprs

/-- The expression that a node is. -/
def expr? : Node → Option Expr
  | .ofExpr expr => some expr
  | .ofStmt _ => none

end Node

/-! ### Lists of parts -/

/-- The subexpressions of a list of expressions are those of its nodes in order. -/
theorem Expr.subexprsAll_eq (exprs : List Expr) :
    Expr.subexprsAll exprs = (exprs.map Node.ofExpr).flatMap Node.subexprs := by
  induction exprs with
  | nil => rfl
  | cons expr exprs ih => rw [subexprsAll, ih, List.map_cons, List.flatMap_cons, Node.subexprs]

/-- The subexpressions of an object literal are those of its values in order. -/
theorem Expr.subexprsProperties_eq (properties : List (String × Expr)) :
    Expr.subexprsProperties properties =
      (properties.map fun property => Node.ofExpr property.2).flatMap Node.subexprs := by
  induction properties with
  | nil => rfl
  | cons property properties ih =>
    rw [subexprsProperties, ih, List.map_cons, List.flatMap_cons, Node.subexprs]

/-- An expression that may be missing has subexpressions if it is there. -/
theorem Expr.subexprsOption_eq (expr : Option Expr) :
    Expr.subexprsOption expr = (expr.toList.map Node.ofExpr).flatMap Node.subexprs := by
  cases expr with
  | none => rfl
  | some expr => simp [subexprsOption, Node.subexprs]

/-- The subexpressions of a list of statements are those of its nodes in order. -/
theorem Stmt.subexprsAll_eq_flatMap (stmts : List Stmt) :
    Stmt.subexprsAll stmts = (stmts.map Node.ofStmt).flatMap Node.subexprs := by
  induction stmts with
  | nil => rfl
  | cons stmt stmts ih => rw [subexprsAll, ih, List.map_cons, List.flatMap_cons, Node.subexprs]

/-- A statement that may be missing has subexpressions if it is there. -/
theorem Stmt.subexprsOption_eq (stmt : Option Stmt) :
    Stmt.subexprsOption stmt = (stmt.toList.map Node.ofStmt).flatMap Node.subexprs := by
  cases stmt with
  | none => rfl
  | some stmt => simp [subexprsOption, Node.subexprs]

/-- The subexpressions of a branch are those of its statements; a missing branch has none. -/
theorem Stmt.subexprsBranch_eq (branch : Option (List Stmt)) :
    Stmt.subexprsBranch branch = ((branch.getD []).map Node.ofStmt).flatMap Node.subexprs := by
  cases branch with
  | none => rfl
  | some body => rw [subexprsBranch, subexprsAll_eq_flatMap, Option.getD_some]

/-- The subexpressions of a handler are those of its body; a missing handler has none. -/
theorem CatchClause.subexprsOption_eq (handler : Option CatchClause) :
    CatchClause.subexprsOption handler =
      ((handler.elim [] CatchClause.body).map Node.ofStmt).flatMap Node.subexprs := by
  match handler with
  | none => rfl
  | some ⟨_, _⟩ =>
    rw [subexprsOption, Stmt.subexprsAll_eq_flatMap, Option.elim_some, CatchClause.body]

/-- The subexpressions of the arms of a `switch` statement are those of their parts in order. -/
theorem SwitchCase.subexprsAll_eq (cases : List SwitchCase) :
    SwitchCase.subexprsAll cases = (cases.flatMap SwitchCase.parts).flatMap Node.subexprs := by
  induction cases with
  | nil => rfl
  | cons arm cases ih =>
    obtain ⟨test, body⟩ := arm
    rw [subexprsAll, ih, Expr.subexprsOption_eq, Stmt.subexprsAll_eq_flatMap, List.flatMap_cons,
      List.flatMap_append, parts, List.flatMap_append, List.append_assoc]

/-! ### Pre-order -/

/-- An expression comes before the subexpressions of its parts. -/
theorem Expr.subexprs_eq (expr : Expr) :
    expr.subexprs = expr :: expr.parts.flatMap Node.subexprs := by
  cases expr <;>
    simp [Expr.subexprs, Expr.parts, Node.subexprs, Expr.subexprsAll_eq,
      Expr.subexprsProperties_eq, Stmt.subexprsAll_eq_flatMap]

/-- The expressions of a statement are those of its parts. -/
theorem Stmt.subexprs_eq (stmt : Stmt) : stmt.subexprs = stmt.parts.flatMap Node.subexprs := by
  cases stmt <;>
    simp [Stmt.subexprs, Stmt.parts, Node.subexprs, Expr.subexprsOption_eq, Stmt.subexprsOption_eq,
      Stmt.subexprsAll_eq_flatMap, Stmt.subexprsBranch_eq, CatchClause.subexprsOption_eq,
      SwitchCase.subexprsAll_eq]

/-- The subexpressions of a node are the expressions inside it, in pre-order. -/
theorem Node.subexprs_eq_preorder (node : Node) :
    node.subexprs = node.preorder.filterMap Node.expr? := by
  induction node using Node.induction with
  | step node ih =>
    -- the expressions of the parts, which follow the node in both lists
    have ofParts : node.parts.flatMap Node.subexprs =
        (node.parts.flatMap Node.preorder).filterMap Node.expr? := by
      rw [List.filterMap_flatMap]
      exact List.flatMap_congr ih
    rw [Node.preorder_eq, List.filterMap_cons, ← ofParts]
    match node with
    | .ofExpr expr => exact expr.subexprs_eq
    | .ofStmt stmt => exact stmt.subexprs_eq

/-! ### Bodies -/

/-- Whether an expression stands inside a body, at any depth. -/
def Expr.OccursIn (expr : Expr) (body : List Stmt) : Prop :=
  ∃ stmt ∈ body, (Node.ofExpr expr).Within (.ofStmt stmt)

/-- The expressions inside a body, each before its parts, in source order. -/
def Stmt.preorderExprs (body : List Stmt) : List Expr :=
  (body.flatMap fun stmt => (Node.ofStmt stmt).preorder).filterMap Node.expr?

/-- Walking a body visits its expressions in pre-order. -/
theorem Stmt.subexprsAll_eq (body : List Stmt) : Stmt.subexprsAll body = Stmt.preorderExprs body := by
  rw [subexprsAll_eq_flatMap, preorderExprs, List.filterMap_flatMap, List.flatMap_map]
  exact List.flatMap_congr fun stmt _ => Node.subexprs_eq_preorder (.ofStmt stmt)

/-- Walking a body visits the expressions inside it and no others. -/
theorem Stmt.mem_subexprsAll_iff {expr : Expr} {body : List Stmt} :
    expr ∈ Stmt.subexprsAll body ↔ expr.OccursIn body := by
  have ofNode (node : Node) : node.expr? = some expr ↔ node = .ofExpr expr := by
    cases node <;> simp [Node.expr?]
  simp only [subexprsAll_eq, preorderExprs, List.mem_filterMap, List.mem_flatMap, ofNode,
    exists_eq_right, Node.mem_preorder_iff_within, Expr.OccursIn]

end Overloading
