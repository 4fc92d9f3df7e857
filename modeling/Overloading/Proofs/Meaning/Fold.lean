import Overloading.Proofs.Fold.Exit
import Overloading.Proofs.Meaning.Exit
import Overloading.Proofs.Specialize
import Overloading.Tree

/-! # Folding and specialization keep the meaning

A folded body means what the body means with its type tests answered, and an emitted method means what the
implementation means for the types of its signature. -/

namespace Overloading

/-! ## Folding

Two facts about the semantics make up the soundness of folding.

* `Interpretation.execAll_foldAll`: a folded body, none of whose calls is answered, means what the body
  means with its type tests answered. No condition is needed. Each constructor function of folding
  means what the plain constructor means (`eval_foldedLogical` to `execAll_foldedCons`).
* `Interpretation.execAll_congr`: the meaning of a body depends on the answers to its own
  subexpressions only. -/

universe u v

namespace Interpretation

variable {State : Type u} {Value : Type v} (interp : Interpretation State Value)
variable (answers : Expr → Option Bool)

/-! ### Boolean literals -/

/-- A boolean literal, in parentheses or not, yields its value. -/
theorem eval_of_boolLiteral? {expr : Expr} {value : Bool} (literal : expr.boolLiteral? = some value) :
    interp.eval answers expr = .pure (interp.ofBool value) := by
  fun_induction Expr.boolLiteral? expr with
  | case1 other =>
    rw [Option.some.injEq] at literal
    rw [literal, eval]
  | case2 inner ih => rw [eval, ih literal]
  | case3 => cases literal

/-! ### Expressions with folded parts -/

/-- What is left of a boolean operator means what the operator means. -/
theorem eval_foldedLogical (op : LogicalOp) (left right : Expr) :
    interp.eval answers (Expr.foldedLogical op left right) =
      interp.eval answers (.logical op left right) := by
  cases literal : left.boolLiteral? with
  | none => cases op <;> simp [Expr.foldedLogical, literal]
  | some value =>
    -- `&&` and `||` are decided or leave the right operand; `??` is rebuilt
    have known := interp.eval_of_boolLiteral? answers literal
    cases op <;> cases value <;>
      simp [Expr.foldedLogical, literal, eval, known, logical, interp.truthy_ofBool]

/-- What is left of an operator on one operand means what the operator means. -/
theorem eval_foldedUnary (op : UnaryOp) (operand : Expr) :
    interp.eval answers (Expr.foldedUnary op operand) =
      interp.eval answers (.unary op operand) := by
  cases literal : operand.boolLiteral? with
  | none => cases op <;> simp [Expr.foldedUnary, literal]
  | some value =>
    have known := interp.eval_of_boolLiteral? answers literal
    cases op <;> simp [Expr.foldedUnary, literal, eval, known, unaryOp, interp.truthy_ofBool]

/-- What is left in parentheses means what the parentheses mean. -/
theorem eval_foldedParen (inner : Expr) :
    interp.eval answers (Expr.foldedParen inner) = interp.eval answers (.paren inner) := by
  cases inner with
  | bool value => rw [Expr.foldedParen, eval, eval, eval]
  | _ => rfl

/-- What is left of a conditional expression means what the conditional expression means. -/
theorem eval_foldedConditional (condition whenTrue whenFalse : Expr) :
    interp.eval answers (Expr.foldedConditional condition whenTrue whenFalse) =
      interp.eval answers (.conditional condition whenTrue whenFalse) := by
  cases literal : condition.boolLiteral? with
  | none => rw [Expr.foldedConditional, literal]
  | some value =>
    have known := interp.eval_of_boolLiteral? answers literal
    cases value <;>
      simp [Expr.foldedConditional, literal, eval, known, conditional, interp.truthy_ofBool]

/-! ### Statements with folded parts -/

/-- What is left of an `if` statement means what the `if` statement means. -/
theorem exec_foldedIf (condition : Expr) (thenBranch : List Stmt)
    (elseBranch : Option (List Stmt)) :
    interp.exec answers (Stmt.foldedIf condition thenBranch elseBranch) =
      interp.exec answers (.ifElse condition thenBranch elseBranch) := by
  cases literal : condition.boolLiteral? with
  | none => simp only [Stmt.foldedIf, literal]
  | some value =>
    -- a block means its statements, and an empty statement means a branch that is left out
    have known := interp.eval_of_boolLiteral? answers literal
    cases value <;> cases elseBranch <;>
      simp [Stmt.foldedIf, literal, exec, execBranch, known, ifElse, interp.truthy_ofBool]

/-- A list of one statement means what the statement means. -/
theorem execAll_singleton (stmt : Stmt) :
    interp.execAll answers [stmt] = interp.exec answers stmt := by
  rw [execAll, execAll, Execution.seq_exit_normal]

/-- Two lists put together mean the one after the other. -/
theorem execAll_append (stmts rest : List Stmt) :
    interp.execAll answers (stmts ++ rest) =
      (interp.execAll answers stmts).seq (interp.execAll answers rest) := by
  induction stmts with
  | nil => rw [List.nil_append, execAll, Execution.exit_normal_seq]
  | cons stmt stmts ih => rw [List.cons_append, execAll, execAll, ih, Execution.seq_assoc]

/-- What a statement contributes to its list means the statement. -/
theorem execAll_splice (stmt : Stmt) :
    interp.execAll answers stmt.splice = interp.exec answers stmt := by
  cases stmt with
  | empty => rw [Stmt.splice, execAll, exec]
  | block body =>
    rw [Stmt.splice]
    split
    -- with a local it stays a block, else its statements take its place
    · rw [execAll_singleton]
    · rw [exec]
  | _ => exact interp.execAll_singleton answers _

/-- A list that ends in an exit never completes normally. -/
theorem neverNormal_of_endsInExit {stmts : List Stmt} (ends : Stmt.endsInExit stmts = true) :
    (interp.execAll answers stmts).NeverNormal :=
  interp.neverNormal_execAll answers (Stmt.someExits_of_endsInExit ends)

/-- The statements that are dropped behind an exit are never reached. -/
theorem execAll_foldedCons (stmt : Stmt) (rest : List Stmt) :
    interp.execAll answers (Stmt.foldedCons stmt rest) =
      (interp.exec answers stmt).seq (interp.execAll answers rest) := by
  rw [Stmt.foldedCons, ← interp.execAll_splice answers stmt]
  split
  -- behind an exit the rest is dropped, and it would not have run
  · next ends => rw [(interp.neverNormal_of_endsInExit answers ends).seq_eq]
  · rw [execAll_append]

/-! ### Folding -/

variable (context : FoldContext)

/-- No call is answered. -/
def unanswered : Expr → Option Bool := fun _ => none

mutual
/-- A folded expression means what the expression means with its type tests answered. -/
theorem eval_fold : ∀ expr : Expr,
    interp.eval unanswered (expr.fold context) = interp.eval context.answer? expr
  | .undefined | .null | .bool _ | .number _ | .string _ | .ident _ _ | .this => rfl
  | .template _ parts => by rw [Expr.fold, eval, eval, evalAll_foldAll parts]
  | .member receiver _ _ => by rw [Expr.fold, eval, eval, eval_fold receiver]
  | .index receiver key => by rw [Expr.fold, eval, eval, eval_fold receiver, eval_fold key]
  | .call callee typeArgs args signature => by
    rw [Expr.fold, eval]
    cases context.answer? (.call callee typeArgs args signature) with
    | some answer => rw [eval]
    | none =>
      -- The folded call may have become a type test, but no call of a folded body is answered.
      simp only [eval, unanswered, eval_fold callee, evalAll_foldAll args]
  | .new callee _ args _ => by rw [Expr.fold, eval, eval, eval_fold callee, evalAll_foldAll args]
  | .binary _ left right => by rw [Expr.fold, eval, eval, eval_fold left, eval_fold right]
  | .compare _ left right => by rw [Expr.fold, eval, eval, eval_fold left, eval_fold right]
  | .logical _ left right => by
    rw [Expr.fold, eval_foldedLogical, eval, eval, eval_fold left, eval_fold right]
  | .unary _ operand => by rw [Expr.fold, eval_foldedUnary, eval, eval, eval_fold operand]
  | .conditional condition whenTrue whenFalse => by
    rw [Expr.fold, eval_foldedConditional, eval, eval, eval_fold condition, eval_fold whenTrue,
      eval_fold whenFalse]
  | .assign place value => by rw [Expr.fold, eval, eval, eval_fold place, eval_fold value]
  | .array items => by rw [Expr.fold, eval, eval, evalAll_foldAll items]
  | .object properties => by rw [Expr.fold, eval, eval, evalProperties_foldProperties properties]
  | .spread inner => by rw [Expr.fold, eval, eval, eval_fold inner]
  | .cast inner _ => by rw [Expr.fold, eval, eval, eval_fold inner]
  | .nonNull inner => by rw [Expr.fold, eval, eval, eval_fold inner]
  | .paren inner => by rw [Expr.fold, eval_foldedParen, eval, eval, eval_fold inner]
  | .closure _ body => by rw [Expr.fold, eval, eval, execAll_foldAll body]
/-- Folded expressions in a list mean what the list means with its type tests answered. -/
theorem evalAll_foldAll : ∀ exprs : List Expr,
    interp.evalAll unanswered (Expr.foldAll context exprs) = interp.evalAll context.answer? exprs
  | [] => rfl
  | expr :: exprs => by rw [Expr.foldAll, evalAll, evalAll, eval_fold expr, evalAll_foldAll exprs]
/-- The folded properties of an object literal mean what the properties mean with their type tests
answered. -/
theorem evalProperties_foldProperties : ∀ properties : List (String × Expr),
    interp.evalProperties unanswered (Expr.foldProperties context properties) =
      interp.evalProperties context.answer? properties
  | [] => rfl
  | (_, value) :: properties => by
    rw [Expr.foldProperties, evalProperties, evalProperties, eval_fold value,
      evalProperties_foldProperties properties]
/-- An expression that may be missing means, once folded, what it means with its type tests answered. -/
theorem evalOption_foldOption : ∀ expr : Option Expr,
    interp.evalOption unanswered (Expr.foldOption context expr) =
      interp.evalOption context.answer? expr
  | none => rfl
  | some expr => by rw [Expr.foldOption, evalOption, evalOption, eval_fold expr]
/-- A folded statement means what the statement means with its type tests answered. -/
theorem exec_fold : ∀ stmt : Stmt,
    interp.exec unanswered (stmt.fold context) = interp.exec context.answer? stmt
  | .letDecl _ _ _ _ init => by rw [Stmt.fold, exec, exec, evalOption_foldOption init]
  | .expr value => by rw [Stmt.fold, exec, exec, eval_fold value]
  | .ret value => by rw [Stmt.fold, exec, exec, evalOption_foldOption value]
  | .ifElse condition thenBranch elseBranch => by
    rw [Stmt.fold, exec_foldedIf, exec, exec, eval_fold condition, execAll_foldAll thenBranch,
      execBranch_foldBranch elseBranch]
  | .whileLoop condition body => by
    rw [Stmt.fold, exec, exec, eval_fold condition, execAll_foldAll body]
  | .forLoop init condition update body => by
    rw [Stmt.fold, exec, exec, execOption_foldOption init, evalOption_foldOption condition,
      evalOption_foldOption update, execAll_foldAll body]
  | .breakLoop | .continueLoop | .empty => rfl
  | .throw value => by rw [Stmt.fold, exec, exec, eval_fold value]
  | .tryCatch body handler finalizer => by
    rw [Stmt.fold, exec, exec, execAll_foldAll body, execHandler_foldOption handler,
      execBranch_foldBranch finalizer]
  | .switch discriminant cases => by
    rw [Stmt.fold, exec, exec, eval_fold discriminant, execCases_foldAll cases]
  | .block body => by rw [Stmt.fold, exec, exec, execAll_foldAll body]
/-- A folded statement list means what the list means with its type tests answered. -/
theorem execAll_foldAll : ∀ stmts : List Stmt,
    interp.execAll unanswered (Stmt.foldAll context stmts) = interp.execAll context.answer? stmts
  | [] => rfl
  | stmt :: stmts => by
    rw [Stmt.foldAll, execAll_foldedCons, execAll, exec_fold stmt, execAll_foldAll stmts]
/-- A statement that may be missing means, once folded, what it means with its type tests answered. -/
theorem execOption_foldOption : ∀ stmt : Option Stmt,
    interp.execOption unanswered (Stmt.foldOption context stmt) =
      interp.execOption context.answer? stmt
  | none => rfl
  | some stmt => by rw [Stmt.foldOption, execOption, execOption, exec_fold stmt]
/-- A branch that may be missing means, once folded, what it means with its type tests answered. -/
theorem execBranch_foldBranch : ∀ branch : Option (List Stmt),
    interp.execBranch unanswered (Stmt.foldBranch context branch) =
      interp.execBranch context.answer? branch
  | none => rfl
  | some body => by rw [Stmt.foldBranch, execBranch, execBranch, execAll_foldAll body]
/-- A handler that may be missing means, once folded, what it means with its type tests answered. -/
theorem execHandler_foldOption : ∀ handler : Option CatchClause,
    interp.execHandler unanswered (CatchClause.foldOption context handler) =
      interp.execHandler context.answer? handler
  | none => rfl
  | some ⟨_, body⟩ => by
    rw [CatchClause.foldOption, execHandler, execHandler, execAll_foldAll body]
/-- The arms of a `switch` statement mean, once folded, what they mean with their type tests answered.
-/
theorem execCases_foldAll : ∀ cases : List SwitchCase,
    interp.execCases unanswered (SwitchCase.foldAll context cases) =
      interp.execCases context.answer? cases
  | [] => rfl
  | ⟨test, body⟩ :: cases => by
    rw [SwitchCase.foldAll, execCases, execCases, evalOption_foldOption test, execAll_foldAll body,
      execCases_foldAll cases]
end

/-! ### Dependence on the answers -/

variable {answers} {others : Expr → Option Bool}

mutual
/-- The meaning of an expression depends on the answers to its subexpressions only. -/
theorem eval_congr : ∀ {expr : Expr}, (∀ sub ∈ expr.subexprs, answers sub = others sub) →
    interp.eval answers expr = interp.eval others expr
  | .undefined, _ | .null, _ | .bool _, _ | .number _, _ | .string _, _ | .ident _ _, _
  | .this, _ => rfl
  | .template _ _, agree | .array _, agree => by
    simp only [Expr.subexprs, List.forall_mem_cons] at agree
    rw [eval, eval, evalAll_congr agree.2]
  | .object _, agree => by
    simp only [Expr.subexprs, List.forall_mem_cons] at agree
    rw [eval, eval, evalProperties_congr agree.2]
  | .closure _ _, agree => by
    simp only [Expr.subexprs, List.forall_mem_cons] at agree
    rw [eval, eval, execAll_congr agree.2]
  | .member _ _ _, agree | .unary _ _, agree | .spread _, agree | .cast _ _, agree
  | .nonNull _, agree | .paren _, agree => by
    simp only [Expr.subexprs, List.forall_mem_cons] at agree
    rw [eval, eval, eval_congr agree.2]
  | .index _ _, agree | .binary _ _ _, agree | .compare _ _ _, agree | .logical _ _ _, agree
  | .assign _ _, agree => by
    simp only [Expr.subexprs, List.forall_mem_cons, List.forall_mem_append] at agree
    rw [eval, eval, eval_congr agree.2.1, eval_congr agree.2.2]
  | .conditional _ _ _, agree => by
    simp only [Expr.subexprs, List.forall_mem_cons, List.forall_mem_append] at agree
    rw [eval, eval, eval_congr agree.2.1, eval_congr agree.2.2.1, eval_congr agree.2.2.2]
  | .call _ _ _ _, agree => by
    -- the one node that asks for an answer: here the agreement on the node itself counts
    simp only [Expr.subexprs, List.forall_mem_cons, List.forall_mem_append] at agree
    rw [eval, eval, agree.1, eval_congr agree.2.1, evalAll_congr agree.2.2]
  | .new _ _ _ _, agree => by
    simp only [Expr.subexprs, List.forall_mem_cons, List.forall_mem_append] at agree
    rw [eval, eval, eval_congr agree.2.1, evalAll_congr agree.2.2]
/-- The meaning of a list of expressions depends on the answers to its expressions only. -/
theorem evalAll_congr : ∀ {exprs : List Expr},
    (∀ sub ∈ Expr.subexprsAll exprs, answers sub = others sub) →
    interp.evalAll answers exprs = interp.evalAll others exprs
  | [], _ => rfl
  | _ :: _, agree => by
    simp only [Expr.subexprsAll, List.forall_mem_append] at agree
    rw [evalAll, evalAll, eval_congr agree.1, evalAll_congr agree.2]
/-- The meaning of the properties of an object literal depends on the answers to their expressions only.
-/
theorem evalProperties_congr : ∀ {properties : List (String × Expr)},
    (∀ sub ∈ Expr.subexprsProperties properties, answers sub = others sub) →
    interp.evalProperties answers properties = interp.evalProperties others properties
  | [], _ => rfl
  | (_, _) :: _, agree => by
    simp only [Expr.subexprsProperties, List.forall_mem_append] at agree
    rw [evalProperties, evalProperties, eval_congr agree.1, evalProperties_congr agree.2]
/-- The meaning of an expression that may be missing depends on the answers to its expressions only. -/
theorem evalOption_congr : ∀ {expr : Option Expr},
    (∀ sub ∈ Expr.subexprsOption expr, answers sub = others sub) →
    interp.evalOption answers expr = interp.evalOption others expr
  | none, _ => rfl
  | some _, agree => by
    rw [Expr.subexprsOption] at agree
    rw [evalOption, evalOption, eval_congr agree]
/-- The meaning of a statement depends on the answers to its expressions only. -/
theorem exec_congr : ∀ {stmt : Stmt}, (∀ sub ∈ stmt.subexprs, answers sub = others sub) →
    interp.exec answers stmt = interp.exec others stmt
  | .letDecl _ _ _ _ _, agree | .ret _, agree => by
    rw [Stmt.subexprs] at agree
    rw [exec, exec, evalOption_congr agree]
  | .expr _, agree | .throw _, agree => by
    rw [Stmt.subexprs] at agree
    rw [exec, exec, eval_congr agree]
  | .ifElse _ _ _, agree => by
    simp only [Stmt.subexprs, List.forall_mem_append] at agree
    rw [exec, exec, eval_congr agree.1, execAll_congr agree.2.1, execBranch_congr agree.2.2]
  | .whileLoop _ _, agree => by
    simp only [Stmt.subexprs, List.forall_mem_append] at agree
    rw [exec, exec, eval_congr agree.1, execAll_congr agree.2]
  | .forLoop _ _ _ _, agree => by
    simp only [Stmt.subexprs, List.forall_mem_append] at agree
    rw [exec, exec, execOption_congr agree.1, evalOption_congr agree.2.1,
      evalOption_congr agree.2.2.1, execAll_congr agree.2.2.2]
  | .breakLoop, _ | .continueLoop, _ | .empty, _ => rfl
  | .tryCatch _ _ _, agree => by
    simp only [Stmt.subexprs, List.forall_mem_append] at agree
    rw [exec, exec, execAll_congr agree.1, execHandler_congr agree.2.1,
      execBranch_congr agree.2.2]
  | .switch _ _, agree => by
    simp only [Stmt.subexprs, List.forall_mem_append] at agree
    rw [exec, exec, eval_congr agree.1, execCases_congr agree.2]
  | .block _, agree => by
    rw [Stmt.subexprs] at agree
    rw [exec, exec, execAll_congr agree]
/-- The meaning of a statement list depends on the answers to its expressions only. -/
theorem execAll_congr : ∀ {stmts : List Stmt},
    (∀ sub ∈ Stmt.subexprsAll stmts, answers sub = others sub) →
    interp.execAll answers stmts = interp.execAll others stmts
  | [], _ => rfl
  | _ :: _, agree => by
    simp only [Stmt.subexprsAll, List.forall_mem_append] at agree
    rw [execAll, execAll, exec_congr agree.1, execAll_congr agree.2]
/-- The meaning of a statement that may be missing depends on the answers to its expressions only. -/
theorem execOption_congr : ∀ {stmt : Option Stmt},
    (∀ sub ∈ Stmt.subexprsOption stmt, answers sub = others sub) →
    interp.execOption answers stmt = interp.execOption others stmt
  | none, _ => rfl
  | some _, agree => by
    rw [Stmt.subexprsOption] at agree
    rw [execOption, execOption, exec_congr agree]
/-- The meaning of a branch that may be missing depends on the answers to its expressions only. -/
theorem execBranch_congr : ∀ {branch : Option (List Stmt)},
    (∀ sub ∈ Stmt.subexprsBranch branch, answers sub = others sub) →
    interp.execBranch answers branch = interp.execBranch others branch
  | none, _ => rfl
  | some _, agree => by
    rw [Stmt.subexprsBranch] at agree
    rw [execBranch, execBranch, execAll_congr agree]
/-- The meaning of a handler that may be missing depends on the answers to its expressions only. -/
theorem execHandler_congr : ∀ {handler : Option CatchClause},
    (∀ sub ∈ CatchClause.subexprsOption handler, answers sub = others sub) →
    interp.execHandler answers handler = interp.execHandler others handler
  | none, _ => rfl
  | some ⟨_, _⟩, agree => by
    rw [CatchClause.subexprsOption] at agree
    rw [execHandler, execHandler, execAll_congr agree]
/-- The meaning of the arms of a `switch` statement depends on the answers to their expressions only. -/
theorem execCases_congr : ∀ {cases : List SwitchCase},
    (∀ sub ∈ SwitchCase.subexprsAll cases, answers sub = others sub) →
    interp.execCases answers cases = interp.execCases others cases
  | [], _ => rfl
  | ⟨_, _⟩ :: _, agree => by
    simp only [SwitchCase.subexprsAll, List.forall_mem_append] at agree
    rw [execCases, execCases, evalOption_congr agree.1, execAll_congr agree.2.1,
      execCases_congr agree.2.2]
end

end Interpretation

/-! ## Specialization

The body of an emitted method means what the body of the implementation means when its type tests are
answered for the types that the signature declares. -/

/-- A type test is a call of the intrinsic. -/
theorem Expr.isIntrinsicCall_of_typeTest? {expr : Expr} {name : String} {test : TypeTest}
    (isTest : expr.typeTest? name = some test) : expr.isIntrinsicCall name = true := by
  obtain ⟨argName, signature, rfl⟩ := Expr.typeTest?_eq_some_iff.mp isTest
  exact Expr.isUnbound_iff.mpr rfl

/-- Only calls of the intrinsic are answered. -/
theorem FoldContext.answer?_eq_none {context : FoldContext} {expr : Expr}
    (other : expr.isIntrinsicCall context.intrinsicName = false) : context.answer? expr = none := by
  rw [answer?_eq_none_iff]
  intro test isTest
  rw [Expr.isIntrinsicCall_of_typeTest? isTest] at other
  cases other

/-- The meaning of a body that does not call the intrinsic does not depend on the answers. -/
theorem Interpretation.execAll_of_not_callsIntrinsic {State : Type u} {Value : Type v}
    (interp : Interpretation State Value) (context : FoldContext) {body : List Stmt}
    (complete : Stmt.callsIntrinsic context.intrinsicName body = false) :
    interp.execAll context.answer? body = interp.execAll unanswered body := by
  refine interp.execAll_congr fun sub mem => ?_
  rw [Stmt.callsIntrinsic, List.any_eq_false] at complete
  exact FoldContext.answer?_eq_none (Bool.eq_false_iff.mpr (complete sub mem))

namespace Specializer

/-- **Specialization keeps the meaning.** Whatever the nodes that folding leaves alone mean, an emitted
body and the body of the implementation mean the same when type tests are answered for the types of
the signature. The emitted body means the same even if no type test is answered. -/
theorem specialize_keeps_meaning {State : Type u} {Value : Type v}
    (interp : Interpretation State Value) (specializer : Specializer) (group : OverloadGroup)
    (signature : FunctionDecl) (specialization : Specialization)
    (emitted : specializer.specialize group signature = .ok specialization) :
    ∃ binding, group.bind specializer.registry signature = .ok binding ∧
      interp.execAll (specializer.foldContext group binding).answer? specialization.method.body =
        interp.execAll (specializer.foldContext group binding).answer?
          (group.implementation.body.getD []) ∧
      interp.execAll Interpretation.unanswered specialization.method.body =
        interp.execAll (specializer.foldContext group binding).answer?
          (group.implementation.body.getD []) := by
  obtain ⟨binding, bound, complete, -, rfl⟩ := specializer.specialize_eq_ok_iff.mp emitted
  have folded : interp.execAll Interpretation.unanswered (specializer.foldBody group binding) =
      interp.execAll (specializer.foldContext group binding).answer?
        (group.implementation.body.getD []) :=
    interp.execAll_foldAll (specializer.foldContext group binding) _
  have residual := interp.execAll_of_not_callsIntrinsic
    (specializer.foldContext group binding) complete
  exact ⟨binding, bound, residual.trans folded, folded⟩

/-- An interpretation for the sample: the state counts the nodes that are evaluated. -/
def countingNodes : Interpretation Nat Bool :=
  let count : Evaluation Nat Bool := fun steps => some (.value true, steps + 1)
  { ofBool := id
    truthy := id
    truthy_ofBool := fun _ => rfl
    noValue := false
    bindError := fun _ _ => count
    undefined := count
    null := count
    number := fun _ => count
    string := fun _ => count
    template := fun _ _ => count
    ident := fun _ _ => count
    this := count
    member := fun receiver _ _ => receiver.bind fun _ => count
    index := fun receiver key => receiver.bind fun _ => key.bind fun _ => count
    call := fun callee _ _ _ => callee.bind fun _ => count
    new := fun callee _ _ _ => callee.bind fun _ => count
    binary := fun _ left right => left.bind fun _ => right.bind fun _ => count
    compare := fun _ left right => left.bind fun _ => right.bind fun _ => count
    coalesce := fun left _ => left
    unary := fun _ operand => operand.bind fun _ => count
    assign := fun place value => place.bind fun _ => value
    array := fun _ => count
    object := fun _ => count
    spread := id
    cast := fun inner _ => inner
    nonNull := id
    closure := fun _ _ => count
    letDecl := fun _ _ _ _ _ => .exit .normal
    expr := fun value => value.run fun _ => .exit .normal
    whileLoop := fun _ _ => .exit .normal
    forLoop := fun _ _ _ _ => .exit .normal
    switch := fun _ _ => .exit .normal }

/-- The method for numbers evaluates as many nodes as the implementation does with its test answered. -/
theorem specialize_keeps_meaning_sample :
    Sample.specializer.specialize Sample.group Sample.ofNumber = .ok ⟨Sample.numberMethod, none⟩ ∧
      ∃ binding, Sample.group.bind Sample.registry Sample.ofNumber = .ok binding ∧
        countingNodes.execAll (Sample.specializer.foldContext Sample.group binding).answer?
            [.ret (some Sample.increment)] =
          countingNodes.execAll (Sample.specializer.foldContext Sample.group binding).answer?
            [.ifElse Sample.isNumber [.ret (some Sample.increment)] none,
              .ret (some Sample.exclaim)] ∧
        countingNodes.execAll Interpretation.unanswered [.ret (some Sample.increment)] =
          countingNodes.execAll (Sample.specializer.foldContext Sample.group binding).answer?
            [.ifElse Sample.isNumber [.ret (some Sample.increment)] none,
              .ret (some Sample.exclaim)] :=
  have emitted : Sample.specializer.specialize Sample.group Sample.ofNumber =
      .ok ⟨Sample.numberMethod, none⟩ := by with_unfolding_all rfl
  ⟨emitted, specialize_keeps_meaning countingNodes _ _ _ _ emitted⟩

end Specializer

end Overloading
