import Overloading.Fold
import Overloading.Proofs.Tree.Rewrite

/-! # Folding does not look at signatures

What a body is folded to depends on its type tests, its literals, its bindings and its exits. None of
these has to do with the signatures that calls are resolved to, so it comes to the same to erase them
before a body is folded or after. -/

namespace Overloading

/-! ## What folding looks at -/

section Retarget

variable (target : Expr → Option DeclHandle)

/-- Retargeting keeps which expressions are boolean literals. -/
@[simp] theorem Expr.boolLiteral?_retarget : ∀ expr : Expr,
    (expr.retarget target).boolLiteral? = expr.boolLiteral?
  | .paren inner => Expr.boolLiteral?_retarget inner
  | .undefined | .null | .bool _ | .number _ | .string _ | .template _ _ | .ident _ _ | .this
  | .member _ _ _ | .index _ _ | .call _ _ _ _ | .new _ _ _ _ | .binary _ _ _ | .compare _ _ _
  | .logical _ _ _ | .unary _ _ | .conditional _ _ _ | .assign _ _ | .array _ | .object _ | .spread _
  | .cast _ _ | .nonNull _ | .closure _ _ => rfl

/-- Retargeting keeps identifiers as they are. -/
@[simp] theorem Expr.isUnbound_retarget (name : String) (expr : Expr) :
    (expr.retarget target).isUnbound name = expr.isUnbound name := by
  cases expr <;> rfl

/-- Retargeting keeps which expressions call the intrinsic. -/
@[simp] theorem Expr.isIntrinsicCall_retarget (name : String) (expr : Expr) :
    (expr.retarget target).isIntrinsicCall name = expr.isIntrinsicCall name := by
  cases expr with
  | call callee => exact callee.isUnbound_retarget target name
  | _ => rfl

/-- Retargeting keeps which expressions are type tests, and on what. -/
@[simp] theorem Expr.typeTest?_retarget (name : String) (expr : Expr) :
    (expr.retarget target).typeTest? name = expr.typeTest? name := by
  cases expr with
  | call callee typeArgs args signature =>
    match typeArgs, args with
    | [_], arg :: rest =>
      cases arg with
      | ident _ decl =>
        match decl, rest with
        | some param, [] => simp only [retarget, retargetAll, typeTest?, isUnbound_retarget]
        | none, _ | some _, _ :: _ => rfl
      | _ => rfl
    | [], _ | _ :: _ :: _, _ | [_], [] => rfl
  | _ => rfl

/-- An answer does not depend on the signatures of calls. -/
@[simp] theorem FoldContext.answer?_retarget (context : FoldContext) (expr : Expr) :
    context.answer? (expr.retarget target) = context.answer? expr := by
  rw [answer?, answer?, Expr.typeTest?_retarget]

/-- Retargeting keeps which statements are lets. -/
@[simp] theorem Stmt.isLet_retarget (stmt : Stmt) : (stmt.retarget target).isLet = stmt.isLet := by
  cases stmt <;> rfl

mutual
/-- Retargeting keeps which statements always exit. -/
@[simp] theorem Stmt.alwaysExits_retarget : ∀ stmt : Stmt,
    (stmt.retarget target).alwaysExits = stmt.alwaysExits
  | .block body => Stmt.someExits_retargetAll body
  | .ifElse _ thenBranch elseBranch => by
    rw [Stmt.retarget, Stmt.alwaysExits, Stmt.alwaysExits, Stmt.someExits_retargetAll thenBranch,
      Stmt.branchExits_retargetBranch elseBranch]
  | .tryCatch body handler finalizer => by
    rw [Stmt.retarget, Stmt.alwaysExits, Stmt.alwaysExits, Stmt.someExits_retargetAll body,
      CatchClause.optionExits_retargetOption handler, Stmt.branchExits_retargetBranch finalizer]
  | .letDecl _ _ _ _ _ | .expr _ | .ret _ | .whileLoop _ _ | .forLoop _ _ _ _ | .breakLoop
  | .continueLoop | .throw _ | .switch _ _ | .empty => rfl
/-- Retargeting keeps whether some statement of a list always exits. -/
theorem Stmt.someExits_retargetAll : ∀ stmts : List Stmt,
    Stmt.someExits (Stmt.retargetAll target stmts) = Stmt.someExits stmts
  | [] => rfl
  | stmt :: stmts => by
    rw [Stmt.retargetAll, Stmt.someExits, Stmt.someExits, Stmt.alwaysExits_retarget stmt,
      Stmt.someExits_retargetAll stmts]
/-- Retargeting keeps whether a branch is there and always exits. -/
theorem Stmt.branchExits_retargetBranch : ∀ branch : Option (List Stmt),
    Stmt.branchExits (Stmt.retargetBranch target branch) = Stmt.branchExits branch
  | none => rfl
  | some body => Stmt.someExits_retargetAll body
/-- Retargeting keeps whether a handler, if there is one, always exits. -/
theorem CatchClause.optionExits_retargetOption : ∀ handler : Option CatchClause,
    CatchClause.optionExits (CatchClause.retargetOption target handler) =
      CatchClause.optionExits handler
  | none => rfl
  | some ⟨_, body⟩ => Stmt.someExits_retargetAll body
end

/-! ## Nodes with folded parts -/

/-- Retargeting goes into the operands that are left of a boolean operator. -/
theorem Expr.retarget_foldedLogical (op : LogicalOp) (left right : Expr) :
    (Expr.foldedLogical op left right).retarget target =
      Expr.foldedLogical op (left.retarget target) (right.retarget target) := by
  unfold foldedLogical
  rw [boolLiteral?_retarget]
  cases op <;> cases left.boolLiteral? with
  | none => rfl
  | some value => cases value <;> rfl

/-- Retargeting goes into what is left of an operator on one operand. -/
theorem Expr.retarget_foldedUnary (op : UnaryOp) (operand : Expr) :
    (Expr.foldedUnary op operand).retarget target =
      Expr.foldedUnary op (operand.retarget target) := by
  unfold foldedUnary
  rw [boolLiteral?_retarget]
  cases op <;> cases operand.boolLiteral? <;> rfl

/-- Retargeting goes into what is left in parentheses. -/
theorem Expr.retarget_foldedParen (inner : Expr) :
    (Expr.foldedParen inner).retarget target = Expr.foldedParen (inner.retarget target) := by
  cases inner <;> rfl

/-- Retargeting goes into what is left of a conditional expression. -/
theorem Expr.retarget_foldedConditional (condition whenTrue whenFalse : Expr) :
    (Expr.foldedConditional condition whenTrue whenFalse).retarget target =
      Expr.foldedConditional (condition.retarget target) (whenTrue.retarget target)
        (whenFalse.retarget target) := by
  unfold foldedConditional
  rw [boolLiteral?_retarget]
  cases condition.boolLiteral? with
  | none => rfl
  | some value => cases value <;> rfl

/-- Retargeting goes into what is left of an `if` statement. -/
theorem Stmt.retarget_foldedIf (condition : Expr) (thenBranch : List Stmt)
    (elseBranch : Option (List Stmt)) :
    (Stmt.foldedIf condition thenBranch elseBranch).retarget target =
      Stmt.foldedIf (condition.retarget target) (Stmt.retargetAll target thenBranch)
        (Stmt.retargetBranch target elseBranch) := by
  unfold foldedIf
  rw [Expr.boolLiteral?_retarget]
  cases condition.boolLiteral? with
  | none => rfl
  | some value => cases value <;> cases elseBranch <;> rfl

/-- A retargeted statement contributes to its list what the statement contributes, retargeted. -/
theorem Stmt.retargetAll_splice (stmt : Stmt) :
    Stmt.retargetAll target stmt.splice = (stmt.retarget target).splice := by
  cases stmt with
  | block body =>
    have binds : (Stmt.retargetAll target body).any Stmt.isLet = body.any Stmt.isLet := by
      rw [retargetAll_eq_map, List.any_map]
      congr 1
      funext stmt
      exact stmt.isLet_retarget target
    rw [retarget, splice, splice, binds]
    split <;> rfl
  | _ => rfl

/-- Retargeting keeps which lists end in an exit. -/
theorem Stmt.endsInExit_retargetAll (stmts : List Stmt) :
    Stmt.endsInExit (Stmt.retargetAll target stmts) = Stmt.endsInExit stmts := by
  rw [endsInExit, endsInExit, retargetAll_eq_map, List.getLast?_map, Option.any_map]
  congr 1
  funext stmt
  exact stmt.alwaysExits_retarget target

/-- Retargeting goes into the first statement of a folded list and into what is left of the others. -/
theorem Stmt.retargetAll_foldedCons (stmt : Stmt) (rest : List Stmt) :
    Stmt.retargetAll target (Stmt.foldedCons stmt rest) =
      Stmt.foldedCons (stmt.retarget target) (Stmt.retargetAll target rest) := by
  rw [foldedCons, foldedCons, ← retargetAll_splice, endsInExit_retargetAll]
  split
  · rfl
  · rw [retargetAll_eq_map, List.map_append, ← retargetAll_eq_map, ← retargetAll_eq_map]

end Retarget

/-! ## Erasing signatures -/

/-- The statement list without the signatures of its calls. -/
def Stmt.eraseAll (body : List Stmt) : List Stmt := Stmt.retargetAll (fun _ => none) body

/-- An erased node has no signature. -/
theorem Node.signature?_retarget_none (node : Node) :
    (node.retarget fun _ => none).signature? = none := by
  match node with
  | .ofExpr expr => cases expr <;> rfl
  | .ofStmt stmt => rfl

/-- What signatures calls had does not matter once they are erased. -/
theorem Stmt.eraseAll_retargetAll (target : Expr → Option DeclHandle) (body : List Stmt) :
    Stmt.eraseAll (Stmt.retargetAll target body) = Stmt.eraseAll body := by
  apply Stmt.eq_of_nodes
  rw [eraseAll, eraseAll, nodes_retargetAll, nodes_retargetAll, nodes_retargetAll,
    List.forall₂_map_left_iff, List.forall₂_map_left_iff, List.forall₂_map_right_iff,
    List.forall₂_same]
  -- each node keeps its label twice, and loses its signature in the end
  intro node _
  constructor
  · rw [Node.label_retarget, Node.label_retarget, Node.label_retarget]
  · rw [Node.signature?_retarget_none, Node.signature?_retarget_none]

section Fold

variable (context : FoldContext)

mutual
/-- Folding an expression and erasing its signatures commute. -/
theorem Expr.erase_fold : ∀ expr : Expr,
    (expr.fold context).retarget (fun _ => none) = (expr.retarget fun _ => none).fold context
  | .undefined | .null | .bool _ | .number _ | .string _ | .ident _ _ | .this => rfl
  | .template _ parts => by
    rw [Expr.fold, Expr.retarget, Expr.retarget, Expr.fold, Expr.erase_foldAll parts]
  | .member receiver _ _ => by
    rw [Expr.fold, Expr.retarget, Expr.retarget, Expr.fold, Expr.erase_fold receiver]
  | .index receiver key => by
    rw [Expr.fold, Expr.retarget, Expr.retarget, Expr.fold, Expr.erase_fold receiver,
      Expr.erase_fold key]
  | .call callee typeArgs args signature => by
    -- a test is recognised by its callee and its argument, which are identifiers in either case
    have answer : context.answer? (.call (callee.retarget fun _ => none) typeArgs
        (Expr.retargetAll (fun _ => none) args) none) =
          context.answer? (.call callee typeArgs args signature) :=
      context.answer?_retarget (fun _ => none) (.call callee typeArgs args signature)
    rw [Expr.retarget, Expr.fold, Expr.fold, answer]
    cases context.answer? (.call callee typeArgs args signature) with
    | some value => rfl
    | none =>
      rw [Expr.retarget, Expr.erase_fold callee, Expr.erase_foldAll args]
  | .new callee _ args _ => by
    rw [Expr.fold, Expr.retarget, Expr.retarget, Expr.fold, Expr.erase_fold callee,
      Expr.erase_foldAll args]
  | .binary _ left right => by
    rw [Expr.fold, Expr.retarget, Expr.retarget, Expr.fold, Expr.erase_fold left,
      Expr.erase_fold right]
  | .compare _ left right => by
    rw [Expr.fold, Expr.retarget, Expr.retarget, Expr.fold, Expr.erase_fold left,
      Expr.erase_fold right]
  | .logical _ left right => by
    rw [Expr.fold, Expr.retarget_foldedLogical, Expr.retarget, Expr.fold, Expr.erase_fold left,
      Expr.erase_fold right]
  | .unary _ operand => by
    rw [Expr.fold, Expr.retarget_foldedUnary, Expr.retarget, Expr.fold, Expr.erase_fold operand]
  | .conditional condition whenTrue whenFalse => by
    rw [Expr.fold, Expr.retarget_foldedConditional, Expr.retarget, Expr.fold,
      Expr.erase_fold condition, Expr.erase_fold whenTrue, Expr.erase_fold whenFalse]
  | .assign place value => by
    rw [Expr.fold, Expr.retarget, Expr.retarget, Expr.fold, Expr.erase_fold place,
      Expr.erase_fold value]
  | .array items => by
    rw [Expr.fold, Expr.retarget, Expr.retarget, Expr.fold, Expr.erase_foldAll items]
  | .object properties => by
    rw [Expr.fold, Expr.retarget, Expr.retarget, Expr.fold, Expr.erase_foldProperties properties]
  | .spread inner | .cast inner _ | .nonNull inner => by
    rw [Expr.fold, Expr.retarget, Expr.retarget, Expr.fold, Expr.erase_fold inner]
  | .paren inner => by
    rw [Expr.fold, Expr.retarget_foldedParen, Expr.retarget, Expr.fold, Expr.erase_fold inner]
  | .closure _ body => by
    rw [Expr.fold, Expr.retarget, Expr.retarget, Expr.fold, Stmt.erase_foldAll body]
/-- Folding a list of expressions and erasing the signatures in it commute. -/
theorem Expr.erase_foldAll : ∀ exprs : List Expr,
    Expr.retargetAll (fun _ => none) (Expr.foldAll context exprs) =
      Expr.foldAll context (Expr.retargetAll (fun _ => none) exprs)
  | [] => rfl
  | expr :: exprs => by
    rw [Expr.foldAll, Expr.retargetAll, Expr.retargetAll, Expr.foldAll, Expr.erase_fold expr,
      Expr.erase_foldAll exprs]
/-- Folding the properties of an object literal and erasing the signatures in them commute. -/
theorem Expr.erase_foldProperties : ∀ properties : List (String × Expr),
    Expr.retargetProperties (fun _ => none) (Expr.foldProperties context properties) =
      Expr.foldProperties context (Expr.retargetProperties (fun _ => none) properties)
  | [] => rfl
  | (_, value) :: properties => by
    rw [Expr.foldProperties, Expr.retargetProperties, Expr.retargetProperties, Expr.foldProperties,
      Expr.erase_fold value, Expr.erase_foldProperties properties]
/-- Folding an expression that may be missing and erasing the signatures in it commute. -/
theorem Expr.erase_foldOption : ∀ expr : Option Expr,
    Expr.retargetOption (fun _ => none) (Expr.foldOption context expr) =
      Expr.foldOption context (Expr.retargetOption (fun _ => none) expr)
  | none => rfl
  | some expr => congrArg some (Expr.erase_fold expr)
/-- Folding a statement and erasing its signatures commute. -/
theorem Stmt.erase_fold : ∀ stmt : Stmt,
    (stmt.fold context).retarget (fun _ => none) = (stmt.retarget fun _ => none).fold context
  | .letDecl _ _ _ _ value | .ret value => by
    rw [Stmt.fold, Stmt.retarget, Stmt.retarget, Stmt.fold, Expr.erase_foldOption value]
  | .expr value | .throw value => by
    rw [Stmt.fold, Stmt.retarget, Stmt.retarget, Stmt.fold, Expr.erase_fold value]
  | .ifElse condition thenBranch elseBranch => by
    rw [Stmt.fold, Stmt.retarget_foldedIf, Stmt.retarget, Stmt.fold, Expr.erase_fold condition,
      Stmt.erase_foldAll thenBranch, Stmt.erase_foldBranch elseBranch]
  | .whileLoop condition body => by
    rw [Stmt.fold, Stmt.retarget, Stmt.retarget, Stmt.fold, Expr.erase_fold condition,
      Stmt.erase_foldAll body]
  | .forLoop init condition update body => by
    rw [Stmt.fold, Stmt.retarget, Stmt.retarget, Stmt.fold, Stmt.erase_foldOption init,
      Expr.erase_foldOption condition, Expr.erase_foldOption update, Stmt.erase_foldAll body]
  | .breakLoop | .continueLoop | .empty => rfl
  | .tryCatch body handler finalizer => by
    rw [Stmt.fold, Stmt.retarget, Stmt.retarget, Stmt.fold, Stmt.erase_foldAll body,
      CatchClause.erase_foldOption handler, Stmt.erase_foldBranch finalizer]
  | .switch discriminant cases => by
    rw [Stmt.fold, Stmt.retarget, Stmt.retarget, Stmt.fold, Expr.erase_fold discriminant,
      SwitchCase.erase_foldAll cases]
  | .block body => by
    rw [Stmt.fold, Stmt.retarget, Stmt.retarget, Stmt.fold, Stmt.erase_foldAll body]
/-- Folding a statement list and erasing its signatures commute. -/
theorem Stmt.erase_foldAll : ∀ stmts : List Stmt,
    Stmt.retargetAll (fun _ => none) (Stmt.foldAll context stmts) =
      Stmt.foldAll context (Stmt.retargetAll (fun _ => none) stmts)
  | [] => rfl
  | stmt :: stmts => by
    rw [Stmt.foldAll, Stmt.retargetAll_foldedCons, Stmt.retargetAll, Stmt.foldAll,
      Stmt.erase_fold stmt, Stmt.erase_foldAll stmts]
/-- Folding a statement that may be missing and erasing the signatures in it commute. -/
theorem Stmt.erase_foldOption : ∀ stmt : Option Stmt,
    Stmt.retargetOption (fun _ => none) (Stmt.foldOption context stmt) =
      Stmt.foldOption context (Stmt.retargetOption (fun _ => none) stmt)
  | none => rfl
  | some stmt => congrArg some (Stmt.erase_fold stmt)
/-- Folding a branch that may be missing and erasing the signatures in it commute. -/
theorem Stmt.erase_foldBranch : ∀ branch : Option (List Stmt),
    Stmt.retargetBranch (fun _ => none) (Stmt.foldBranch context branch) =
      Stmt.foldBranch context (Stmt.retargetBranch (fun _ => none) branch)
  | none => rfl
  | some body => congrArg some (Stmt.erase_foldAll body)
/-- Folding a handler that may be missing and erasing the signatures in it commute. -/
theorem CatchClause.erase_foldOption : ∀ handler : Option CatchClause,
    CatchClause.retargetOption (fun _ => none) (CatchClause.foldOption context handler) =
      CatchClause.foldOption context (CatchClause.retargetOption (fun _ => none) handler)
  | none => rfl
  | some ⟨_, body⟩ => by
    rw [CatchClause.foldOption, CatchClause.retargetOption, CatchClause.retargetOption,
      CatchClause.foldOption, Stmt.erase_foldAll body]
/-- Folding the arms of a `switch` statement and erasing the signatures in them commute. -/
theorem SwitchCase.erase_foldAll : ∀ cases : List SwitchCase,
    SwitchCase.retargetAll (fun _ => none) (SwitchCase.foldAll context cases) =
      SwitchCase.foldAll context (SwitchCase.retargetAll (fun _ => none) cases)
  | [] => rfl
  | ⟨test, body⟩ :: cases => by
    rw [SwitchCase.foldAll, SwitchCase.retargetAll, SwitchCase.retargetAll, SwitchCase.foldAll,
      Expr.erase_foldOption test, Stmt.erase_foldAll body, SwitchCase.erase_foldAll cases]
end

/-- Calls may as well lose their signatures before a body is folded. -/
theorem Stmt.eraseAll_foldAll (body : List Stmt) :
    Stmt.eraseAll (Stmt.foldAll context body) = Stmt.foldAll context (Stmt.eraseAll body) :=
  Stmt.erase_foldAll context body

end Fold

end Overloading
