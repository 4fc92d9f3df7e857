import Overloading.Proofs.Tree
import Overloading.Proofs.Tree.Label
import Overloading.Proofs.Tree.Walk

/-! # Retargeting a tree

Retargeting changes the signatures of calls and nothing else, and a visitor that sets them one after
another comes to the same. -/

namespace Overloading

/-! ## What retargeting changes

Retargeting a tree retargets each of its nodes in place (`Stmt.nodes_retargetAll`): a node keeps its
label and its parts, and gets the signature that the target gives for it as it was. -/

section Retarget

variable (target : Expr → Option DeclHandle)

/-! ### Lists of parts -/

/-- A list of expressions is retargeted one by one. -/
theorem Expr.retargetAll_eq_map (exprs : List Expr) :
    Expr.retargetAll target exprs = exprs.map (Expr.retarget target) := by
  induction exprs with
  | nil => rfl
  | cons expr exprs ih => rw [Expr.retargetAll, ih, List.map_cons]

/-- The values of an object literal are retargeted one by one. -/
theorem Expr.retargetProperties_eq_map (properties : List (String × Expr)) :
    Expr.retargetProperties target properties =
      properties.map fun property => (property.1, property.2.retarget target) := by
  induction properties with
  | nil => rfl
  | cons property properties ih => rw [Expr.retargetProperties, ih, List.map_cons]

/-- A list of statements is retargeted one by one. -/
theorem Stmt.retargetAll_eq_map (stmts : List Stmt) :
    Stmt.retargetAll target stmts = stmts.map (Stmt.retarget target) := by
  induction stmts with
  | nil => rfl
  | cons stmt stmts ih => rw [Stmt.retargetAll, ih, List.map_cons]

namespace Node

/-- The node with the signatures that `target` gives. -/
def retarget : Node → Node
  | .ofExpr expr => .ofExpr (expr.retarget target)
  | .ofStmt stmt => .ofStmt (stmt.retarget target)

/-- The nodes of retargeted expressions are the retargeted nodes. -/
theorem retarget_exprs (exprs : List Expr) :
    (Expr.retargetAll target exprs).map .ofExpr =
      (exprs.map .ofExpr).map (Node.retarget target) := by
  rw [Expr.retargetAll_eq_map, List.map_map, List.map_map]
  rfl

/-- The nodes of a retargeted object literal are the retargeted nodes of its values. -/
theorem retarget_properties (properties : List (String × Expr)) :
    ((Expr.retargetProperties target properties).map fun property => .ofExpr property.2) =
      (properties.map fun property => .ofExpr property.2).map (Node.retarget target) := by
  rw [Expr.retargetProperties_eq_map, List.map_map, List.map_map]
  rfl

/-- The node of an expression that may be missing is retargeted if it is there. -/
theorem retarget_optionExpr (expr : Option Expr) :
    (Expr.retargetOption target expr).toList.map .ofExpr =
      (expr.toList.map .ofExpr).map (Node.retarget target) := by
  cases expr <;> rfl

/-- The nodes of retargeted statements are the retargeted nodes. -/
theorem retarget_stmts (stmts : List Stmt) :
    (Stmt.retargetAll target stmts).map .ofStmt =
      (stmts.map .ofStmt).map (Node.retarget target) := by
  rw [Stmt.retargetAll_eq_map, List.map_map, List.map_map]
  rfl

/-- The node of a statement that may be missing is retargeted if it is there. -/
theorem retarget_optionStmt (stmt : Option Stmt) :
    (Stmt.retargetOption target stmt).toList.map .ofStmt =
      (stmt.toList.map .ofStmt).map (Node.retarget target) := by
  cases stmt <;> rfl

/-- The nodes of a retargeted branch are the retargeted nodes of its statements. -/
theorem retarget_branch (branch : Option (List Stmt)) :
    ((Stmt.retargetBranch target branch).getD []).map .ofStmt =
      ((branch.getD []).map .ofStmt).map (Node.retarget target) := by
  cases branch with
  | none => rfl
  | some body => exact retarget_stmts target body

/-- The nodes of a retargeted handler are the retargeted nodes of its body. -/
theorem retarget_handler (handler : Option CatchClause) :
    ((CatchClause.retargetOption target handler).elim [] CatchClause.body).map .ofStmt =
      ((handler.elim [] CatchClause.body).map .ofStmt).map (Node.retarget target) := by
  cases handler with
  | none => rfl
  | some handler =>
    obtain ⟨_, body⟩ := handler
    exact retarget_stmts target body

/-- The parts of retargeted arms are the retargeted parts. -/
theorem retarget_arms (cases : List SwitchCase) :
    (SwitchCase.retargetAll target cases).flatMap SwitchCase.parts =
      (cases.flatMap SwitchCase.parts).map (Node.retarget target) := by
  induction cases with
  | nil => rfl
  | cons arm cases ih =>
    obtain ⟨test, body⟩ := arm
    rw [SwitchCase.retargetAll, List.flatMap_cons, List.flatMap_cons, List.map_append, ih,
      SwitchCase.parts, SwitchCase.parts, retarget_optionExpr, retarget_stmts, List.map_append]

/-! ### One node -/

/-- The parts of a retargeted node are its parts, retargeted. -/
theorem parts_retarget (node : Node) :
    (node.retarget target).parts = node.parts.map (Node.retarget target) := by
  match node with
  | .ofExpr expr =>
    cases expr <;>
      simp only [retarget, Expr.retarget, parts, Expr.parts, List.map_cons, List.map_nil,
        retarget_exprs, retarget_properties, retarget_stmts]
  | .ofStmt stmt =>
    cases stmt <;>
      simp only [retarget, Stmt.retarget, parts, Stmt.parts, List.map_cons, List.map_nil,
        List.map_append, retarget_optionExpr, retarget_stmts, retarget_optionStmt, retarget_branch,
        retarget_handler, retarget_arms]

end Node

/-- Retargeting keeps the number of expressions, which is all that blanks tell. -/
theorem Expr.blanks_retargetAll (exprs : List Expr) :
    Expr.blanks (Expr.retargetAll target exprs) = Expr.blanks exprs := by
  rw [blanks, blanks, retargetAll_eq_map, List.map_map]
  rfl

/-- Retargeting keeps the number of statements, which is all that blanks tell. -/
theorem Stmt.blanks_retargetAll (stmts : List Stmt) :
    Stmt.blanks (Stmt.retargetAll target stmts) = Stmt.blanks stmts := by
  rw [blanks, blanks, retargetAll_eq_map, List.map_map]
  rfl

/-- Retargeting keeps the label of an expression. -/
theorem Expr.label_retarget (expr : Expr) : (expr.retarget target).label = expr.label := by
  have names (properties : List (String × Expr)) :
      ((Expr.retargetProperties target properties).map fun property =>
        (property.1, Expr.undefined)) =
      properties.map fun property => (property.1, Expr.undefined) := by
    rw [Expr.retargetProperties_eq_map, List.map_map]
    rfl
  cases expr <;>
    simp only [Expr.retarget, Expr.label, Expr.blanks_retargetAll, Stmt.blanks_retargetAll, names]

/-- Retargeting keeps the label of a statement. -/
theorem Stmt.label_retarget (stmt : Stmt) : (stmt.retarget target).label = stmt.label := by
  have ofExpr (expr : Option Expr) :
      ((Expr.retargetOption target expr).map fun _ => Expr.undefined) =
        expr.map fun _ => .undefined := by
    cases expr <;> rfl
  have ofStmt (stmt : Option Stmt) :
      ((Stmt.retargetOption target stmt).map fun _ => Stmt.empty) = stmt.map fun _ => .empty := by
    cases stmt <;> rfl
  have ofBranch (branch : Option (List Stmt)) :
      (Stmt.retargetBranch target branch).map Stmt.blanks = branch.map Stmt.blanks := by
    cases branch with
    | none => rfl
    | some body => exact congrArg some (Stmt.blanks_retargetAll target body)
  have ofHandler (handler : Option CatchClause) :
      (CatchClause.retargetOption target handler).map CatchClause.label =
        handler.map CatchClause.label := by
    cases handler with
    | none => rfl
    | some handler =>
      obtain ⟨param, body⟩ := handler
      exact congrArg (fun body => some (CatchClause.mk param body))
        (Stmt.blanks_retargetAll target body)
  have ofArms (cases : List SwitchCase) :
      (SwitchCase.retargetAll target cases).map SwitchCase.label = cases.map SwitchCase.label := by
    induction cases with
    | nil => rfl
    | cons arm cases ih =>
      obtain ⟨test, body⟩ := arm
      rw [SwitchCase.retargetAll, List.map_cons, List.map_cons, ih, SwitchCase.label,
        SwitchCase.label, ofExpr, Stmt.blanks_retargetAll]
  cases stmt <;>
    simp only [Stmt.retarget, Stmt.label, Stmt.blanks_retargetAll, ofExpr, ofStmt, ofBranch,
      ofHandler, ofArms]

/-- Retargeting changes nothing about a node but its signature and its parts. -/
theorem Node.label_retarget (node : Node) : (node.retarget target).label = node.label := by
  cases node with
  | ofExpr expr => exact congrArg Node.ofExpr (expr.label_retarget target)
  | ofStmt stmt => exact congrArg Node.ofStmt (stmt.label_retarget target)

/-! ### Bodies -/

/-- Retargeting a node retargets each node inside it in place. -/
theorem Node.preorder_retarget (node : Node) :
    (node.retarget target).preorder = node.preorder.map (Node.retarget target) := by
  induction node using Node.induction with
  | step node ih =>
    rw [preorder_eq, preorder_eq node, parts_retarget, List.map_cons, List.flatMap_map,
      List.map_flatMap]
    exact congrArg (_ :: ·) (List.flatMap_congr ih)

/-- The nodes of a retargeted body are its nodes, retargeted. -/
theorem Stmt.nodes_retargetAll (body : List Stmt) :
    Stmt.nodes (Stmt.retargetAll target body) = (Stmt.nodes body).map (Node.retarget target) := by
  rw [nodes, nodes, retargetAll_eq_map, List.flatMap_map, List.map_flatMap]
  exact List.flatMap_congr fun stmt _ => (Node.ofStmt stmt).preorder_retarget target

/-- The expressions of a retargeted body are its expressions, retargeted. -/
theorem Stmt.subexprsAll_retargetAll (body : List Stmt) :
    Stmt.subexprsAll (Stmt.retargetAll target body) =
      (Stmt.subexprsAll body).map (Expr.retarget target) := by
  have ofNode (node : Node) : (node.retarget target).expr? =
      node.expr?.map (Expr.retarget target) := by
    cases node <;> rfl
  rw [subexprsAll_eq, subexprsAll_eq, preorderExprs, preorderExprs, ← nodes, ← nodes,
    nodes_retargetAll, List.filterMap_map, List.map_filterMap]
  exact List.filterMap_congr fun node _ => ofNode node

end Retarget

/-! ## Retargeting in place

A visitor that sets the signature of the expression that it is given, and leaves the parts alone, may as
well be run in place: each expression is handed to it before its parts are changed, so it sees them as
they were. `Stmt.visits_rewriteAll` says that the walk gives the retargeted body, and that the visitor has
seen the subexpressions of the body in order. -/

/-- The expression with another signature, if it is a call or an instantiation. -/
def Expr.setSignature (signature : Option DeclHandle) : Expr → Expr
  | .call callee typeArgs args _ => .call callee typeArgs args signature
  | .new callee typeArgs args _ => .new callee typeArgs args signature
  | expr => expr

section Visits

variable {σ : Type} {α β : Type} (step : Expr → σ → σ)

/-- Whether an action gives a value and changes the state by one step for each of the given expressions. -/
def Visits (action : StateT σ Option α) (value : α) (exprs : List Expr) : Prop :=
  ∀ state, action state = some (value, exprs.foldl (fun state expr => step expr state) state)

variable {step}

/-- An action that only gives a value visits nothing. -/
theorem visits_pure (value : α) : Visits step (pure value) value [] := by
  intro state
  rfl

/-- An action visits what its two steps visit, one after the other. -/
theorem Visits.bind {first : StateT σ Option α} {value : α} {exprs : List Expr}
    {next : α → StateT σ Option β} {result : β} {others : List Expr}
    (visits : Visits step first value exprs) (rest : Visits step (next value) result others) :
    Visits step (first >>= next) result (exprs ++ others) := by
  intro state
  have run : (first >>= next) state = (first state).bind fun pair => next pair.1 pair.2 := rfl
  rw [run, visits state, Option.bind_some, rest, List.foldl_append]

/-- A last step that only puts values together visits nothing. -/
theorem Visits.bind_pure {first : StateT σ Option α} {value : α} {exprs : List Expr} {f : α → β}
    (visits : Visits step first value exprs) :
    Visits step (first >>= fun value => pure (f value)) (f value) exprs := by
  have all : Visits step (first >>= fun value => pure (f value)) (f value) (exprs ++ []) :=
    visits.bind (visits_pure _)
  rwa [List.append_nil] at all

/-- An action on the items of a list visits what it visits for each of them, in order. -/
theorem Visits.mapM {action : α → StateT σ Option β} {value : α → β} {exprs : α → List Expr}
    {items : List α} (each : ∀ item ∈ items, Visits step (action item) (value item) (exprs item)) :
    Visits step (items.mapM action) (items.map value) (items.flatMap exprs) := by
  induction items with
  | nil => exact visits_pure []
  | cons item items ih =>
    obtain ⟨first, rest⟩ := List.forall_mem_cons.mp each
    rw [List.mapM_cons, List.flatMap_cons]
    exact first.bind (ih rest).bind_pure

end Visits

section Retarget

variable {σ : Type} {step : Expr → σ → σ} {target : Expr → Option DeclHandle}
  {visit : Expr → StateM σ Expr}

/-- Setting a signature leaves the parts alone. -/
theorem Expr.parts_setSignature (expr : Expr) (signature : Option DeclHandle) :
    (expr.setSignature signature).parts = expr.parts := by
  cases expr <;> rfl

/-- A retargeted expression has the head of the expression with its new signature. -/
theorem Expr.sameHead_setSignature (expr : Expr) :
    Node.SameHead (.ofExpr (expr.retarget target)) (.ofExpr (expr.setSignature (target expr))) := by
  have label : (expr.setSignature (target expr)).label = expr.label := by
    cases expr <;> rfl
  refine ⟨congrArg Node.ofExpr ((expr.label_retarget target).trans label.symm), ?_⟩
  cases expr <;> simp only [Node.signature?, Expr.retarget, Expr.setSignature, Expr.signature?]

/-- Retargeted trees have the heads of the expressions with their new signatures. -/
theorem Node.reheaded_retarget_of_parts {nodes : List Node}
    (each : ∀ node ∈ nodes, Reheaded node.parts
      ((node.parts.flatMap subexprs).map fun expr => expr.setSignature (target expr))
      (node.retarget target).parts) :
    Reheaded nodes ((nodes.flatMap subexprs).map fun expr => expr.setSignature (target expr))
      (nodes.map (Node.retarget target)) := by
  induction nodes with
  | nil => exact .nil
  | cons node nodes ih =>
    obtain ⟨inside, others⟩ := List.forall_mem_cons.mp each
    rw [List.flatMap_cons, List.map_append, List.map_cons]
    -- an expression takes one answer for itself, a statement none
    cases node with
    | ofExpr expr =>
      rw [subexprs, expr.subexprs_eq, List.map_cons]
      exact .expr expr.sameHead_setSignature inside (ih others)
    | ofStmt stmt =>
      rw [subexprs, stmt.subexprs_eq]
      exact .stmt ⟨label_retarget target (.ofStmt stmt), rfl⟩ inside (ih others)

/-- Retargeted trees differ from the trees by the signatures of their expressions, in pre-order. -/
theorem Node.reheaded_retarget (nodes : List Node) :
    Reheaded nodes ((nodes.flatMap subexprs).map fun expr => expr.setSignature (target expr))
      (nodes.map (Node.retarget target)) := by
  have ofParts (node : Node) : Reheaded node.parts
      ((node.parts.flatMap subexprs).map fun expr => expr.setSignature (target expr))
      (node.retarget target).parts := by
    induction node using Node.induction with
    | step node ih =>
      rw [parts_retarget]
      exact reheaded_retarget_of_parts ih
  exact reheaded_retarget_of_parts fun node _ => ofParts node

/-- Handing expressions in a row to a visitor that sets signatures sets the signature of each, and takes
one step for each. -/
theorem mapM_of_sets
    (sets : ∀ expr state, visit expr state = (expr.setSignature (target expr), step expr state))
    (exprs : List Expr) (state : σ) :
    exprs.mapM visit state = (exprs.map fun expr => expr.setSignature (target expr),
      exprs.foldl (fun state expr => step expr state) state) := by
  induction exprs generalizing state with
  | nil => rfl
  | cons expr exprs ih =>
    rw [mapM_cons_apply, ih, sets, List.map_cons, List.foldl_cons]

/-- **A walk in place retargets.** With a limit as high as the body is large, a visitor that sets
signatures gives the retargeted body, and has seen each expression of the body once, in order. -/
theorem Stmt.visits_rewriteAll
    (sets : ∀ expr state, visit expr state = (expr.setSignature (target expr), step expr state))
    {limit : Nat} {body : List Stmt} (enough : sizeOf body ≤ limit) :
    Visits step (Stmt.rewriteAll visit limit body) (Stmt.retargetAll target body)
      (Stmt.subexprsAll body) := by
  have keeps (expr : Expr) (state : σ) : (visit expr state).1.parts = expr.parts := by
    rw [sets, Expr.parts_setSignature]
  intro state
  obtain ⟨body', _, run, reheaded, rfl, -⟩ := Stmt.turns_rewriteAll keeps enough state
  rw [mapM_of_sets sets] at run reheaded
  -- the answers determine the rewritten trees, and the retargeted ones have the same answers
  have same : body'.map Node.ofStmt = (body.map .ofStmt).map (Node.retarget target) :=
    reheaded.unique (Node.reheaded_retarget _)
  rw [← Node.retarget_stmts, Node.map_ofStmt_inj] at same
  rw [run, same, Stmt.subexprsAll_eq_flatMap]

end Retarget

end Overloading
