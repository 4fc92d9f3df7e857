import Overloading.Tree

/-! # The meaning of bodies

A compositional semantics of expressions and statements over an arbitrary type of states and an
arbitrary type of values. An expression means an `Evaluation`, a statement or a statement list an
`Execution`: partial functions on states that also say how the run ended.

* The meaning of booleans, parentheses, `&&`, `||`, `!`, `? :`, statement lists, blocks, `if`, `return`,
  `throw`, `try`, `break` and `continue` is fixed: operators short-circuit and give back the value of
  an operand, a list runs in order and stops at the first abrupt completion, a finalizer that
  completes abruptly overrides what it follows.
* An `Interpretation` says what every other node means, as any function of its own data and of the
  meanings of its parts. A closure depends on its body through the meaning of the body alone.
* Some calls are answered without being run: `answers` says which, and how. -/

namespace Overloading

universe u v

/-- How the evaluation of an expression ends. -/
inductive Outcome (Value : Type v)
  | value (result : Value)
  | throw (error : Value)

/-- How the execution of a statement ends. -/
inductive Completion (Value : Type v)
  | normal
  | breakLoop
  | continueLoop
  | ret (value : Value)
  | throw (error : Value)

/-- The meaning of an expression. States from which it does not end have no image. -/
abbrev Evaluation (State : Type u) (Value : Type v) := State → Option (Outcome Value × State)

/-- The meaning of a statement or of a statement list. -/
abbrev Execution (State : Type u) (Value : Type v) := State → Option (Completion Value × State)

variable {State : Type u} {Value : Type v}

/-! ## Sequencing -/

namespace Evaluation

/-- Yields a value and has no effect. -/
def pure (value : Value) : Evaluation State Value := fun state => some (.value value, state)

/-- Evaluates further with the value of an expression, unless that throws. -/
def bind (first : Evaluation State Value) (next : Value → Evaluation State Value) :
    Evaluation State Value := fun state =>
  match first state with
  | none => none
  | some (.value value, state) => next value state
  | some (.throw error, state) => some (.throw error, state)

/-- Executes further with the value of an expression, unless that throws. -/
def run (first : Evaluation State Value) (next : Value → Execution State Value) :
    Execution State Value := fun state =>
  match first state with
  | none => none
  | some (.value value, state) => next value state
  | some (.throw error, state) => some (.throw error, state)

@[simp] theorem bind_pure (value : Value) (next : Value → Evaluation State Value) :
    bind (pure value) next = next value := rfl

@[simp] theorem run_pure (value : Value) (next : Value → Execution State Value) :
    run (pure value) next = next value := rfl

end Evaluation

namespace Execution

/-- Completes in a given way and has no effect. -/
def exit (completion : Completion Value) : Execution State Value := fun state =>
  some (completion, state)

/-- Executes further after a normal completion. -/
def seq (first next : Execution State Value) : Execution State Value := fun state =>
  match first state with
  | some (.normal, state) => next state
  | other => other

/-- Executes a handler with the error of a body that throws. -/
def handle (body : Execution State Value) (handler : Value → Execution State Value) :
    Execution State Value := fun state =>
  match body state with
  | some (.throw error, state) => handler error state
  | other => other

/-- Executes a finalizer after a body, however that completes. The completion of the body stands if the
finalizer completes normally. -/
def finalize (body finalizer : Execution State Value) : Execution State Value := fun state =>
  match body state with
  | none => none
  | some (completion, state) =>
    match finalizer state with
    | some (.normal, state) => some (completion, state)
    | other => other

/-- What does nothing can be left out before a statement. -/
@[simp] theorem exit_normal_seq (next : Execution State Value) :
    seq (exit .normal) next = next := rfl

/-- What does nothing can be left out after a statement. -/
@[simp] theorem seq_exit_normal (first : Execution State Value) :
    seq first (exit .normal) = first := by
  funext state
  rw [seq]
  rcases first state with _ | ⟨completion, state'⟩
  · rfl
  · cases completion <;> rfl

/-- How a sequence is bracketed does not matter. -/
theorem seq_assoc (first second third : Execution State Value) :
    seq (seq first second) third = seq first (seq second third) := by
  funext state
  simp only [seq]
  rcases first state with _ | ⟨completion, state'⟩
  · rfl
  · cases completion <;> rfl

end Execution

/-! ## Interpretations -/

/-- What nodes mean on whose meaning folding does not rely, each as a function of the meanings of its
parts. -/
structure Interpretation (State : Type u) (Value : Type v) where
  /-- The value of a boolean. -/
  ofBool : Bool → Value
  /-- Whether a value counts as true. -/
  truthy : Value → Bool
  /-- A boolean counts as what it is. -/
  truthy_ofBool : ∀ value, truthy (ofBool value) = value
  /-- The value of a `return` without an expression. -/
  noValue : Value
  /-- Binds an error to the parameter of a handler; only the effect counts, and it may throw. -/
  bindError : Option DeclHandle → Value → Evaluation State Value
  undefined : Evaluation State Value
  null : Evaluation State Value
  number : NumberBits → Evaluation State Value
  string : String → Evaluation State Value
  template : List String → List (Evaluation State Value) → Evaluation State Value
  ident : String → Option DeclHandle → Evaluation State Value
  this : Evaluation State Value
  member : Evaluation State Value → String → Option DeclHandle → Evaluation State Value
  index : Evaluation State Value → Evaluation State Value → Evaluation State Value
  /-- A call that is not answered. -/
  call : Evaluation State Value → List DeclaredType → List (Evaluation State Value) →
    Option DeclHandle → Evaluation State Value
  new : Evaluation State Value → List DeclaredType → List (Evaluation State Value) →
    Option DeclHandle → Evaluation State Value
  binary : BinaryOp → Evaluation State Value → Evaluation State Value → Evaluation State Value
  compare : CompareOp → Evaluation State Value → Evaluation State Value → Evaluation State Value
  coalesce : Evaluation State Value → Evaluation State Value → Evaluation State Value
  /-- An operator other than `!`. -/
  unary : UnaryOp → Evaluation State Value → Evaluation State Value
  assign : Evaluation State Value → Evaluation State Value → Evaluation State Value
  array : List (Evaluation State Value) → Evaluation State Value
  object : List (String × Evaluation State Value) → Evaluation State Value
  spread : Evaluation State Value → Evaluation State Value
  cast : Evaluation State Value → DeclaredType → Evaluation State Value
  nonNull : Evaluation State Value → Evaluation State Value
  closure : List DeclHandle → Execution State Value → Evaluation State Value
  letDecl : DeclHandle → String → Option DeclaredType → Bool → Option (Evaluation State Value) →
    Execution State Value
  /-- An expression as a statement. -/
  expr : Evaluation State Value → Execution State Value
  whileLoop : Evaluation State Value → Execution State Value → Execution State Value
  forLoop : Option (Execution State Value) → Option (Evaluation State Value) →
    Option (Evaluation State Value) → Execution State Value → Execution State Value
  switch : Evaluation State Value → List (Option (Evaluation State Value) × Execution State Value) →
    Execution State Value

namespace Interpretation

variable (interp : Interpretation State Value)

/-! ## Nodes with a fixed meaning -/

/-- `&&` and `||` give back the operand that decides. -/
def logical (op : LogicalOp) (left right : Evaluation State Value) : Evaluation State Value :=
  match op with
  | .and => left.bind fun value => if interp.truthy value then right else .pure value
  | .or => left.bind fun value => if interp.truthy value then .pure value else right
  | .coalesce => interp.coalesce left right

/-- `!` gives a boolean. -/
def unaryOp (op : UnaryOp) (operand : Evaluation State Value) : Evaluation State Value :=
  match op with
  | .not => operand.bind fun value => .pure (interp.ofBool !interp.truthy value)
  | op => interp.unary op operand

/-- Evaluates one of two expressions. -/
def conditional (condition whenTrue whenFalse : Evaluation State Value) : Evaluation State Value :=
  condition.bind fun value => if interp.truthy value then whenTrue else whenFalse

/-- Executes one of two branches; a branch that is left out does nothing. -/
def ifElse (condition : Evaluation State Value) (thenBranch : Execution State Value)
    (elseBranch : Option (Execution State Value)) : Execution State Value :=
  condition.run fun value =>
    if interp.truthy value then thenBranch else elseBranch.getD (.exit .normal)

/-- Returns a value. -/
def ret (value : Option (Evaluation State Value)) : Execution State Value :=
  (value.getD (.pure interp.noValue)).run fun value => .exit (.ret value)

/-- Throws the value of an expression. -/
def throw (value : Evaluation State Value) : Execution State Value :=
  value.run fun error => .exit (.throw error)

/-- Executes a body, its handler if the body throws, and the finalizer after both. -/
def tryCatch (body : Execution State Value)
    (handler : Option (Option DeclHandle × Execution State Value))
    (finalizer : Option (Execution State Value)) : Execution State Value :=
  let handled := match handler with
    | none => body
    | some (param, recover) =>
      body.handle fun error => (interp.bindError param error).run fun _ => recover
  match finalizer with
  | none => handled
  | some finalizer => handled.finalize finalizer

/-! ## Meaning -/

variable (answers : Expr → Option Bool)

mutual
/-- The meaning of an expression. -/
def eval : Expr → Evaluation State Value
  | .undefined => interp.undefined
  | .null => interp.null
  | .bool value => .pure (interp.ofBool value)
  | .number bits => interp.number bits
  | .string text => interp.string text
  | .template quasis parts => interp.template quasis (evalAll parts)
  | .ident name decl => interp.ident name decl
  | .this => interp.this
  | .member receiver property decl => interp.member (eval receiver) property decl
  | .index receiver key => interp.index (eval receiver) (eval key)
  | .call callee typeArgs args signature =>
    match answers (.call callee typeArgs args signature) with
    | some answer => .pure (interp.ofBool answer)
    | none => interp.call (eval callee) typeArgs (evalAll args) signature
  | .new callee typeArgs args signature =>
    interp.new (eval callee) typeArgs (evalAll args) signature
  | .binary op left right => interp.binary op (eval left) (eval right)
  | .compare op left right => interp.compare op (eval left) (eval right)
  | .logical op left right => interp.logical op (eval left) (eval right)
  | .unary op operand => interp.unaryOp op (eval operand)
  | .conditional condition whenTrue whenFalse =>
    interp.conditional (eval condition) (eval whenTrue) (eval whenFalse)
  | .assign place value => interp.assign (eval place) (eval value)
  | .array items => interp.array (evalAll items)
  | .object properties => interp.object (evalProperties properties)
  | .spread inner => interp.spread (eval inner)
  | .cast inner type => interp.cast (eval inner) type
  | .nonNull inner => interp.nonNull (eval inner)
  | .paren inner => eval inner
  | .closure params body => interp.closure params (execAll body)
/-- The meanings of several expressions. -/
def evalAll : List Expr → List (Evaluation State Value)
  | [] => []
  | expr :: exprs => eval expr :: evalAll exprs
/-- The meanings of the values of an object literal. -/
def evalProperties : List (String × Expr) → List (String × Evaluation State Value)
  | [] => []
  | (name, value) :: properties => (name, eval value) :: evalProperties properties
/-- The meaning of an expression that may be left out. -/
def evalOption : Option Expr → Option (Evaluation State Value)
  | none => none
  | some expr => some (eval expr)
/-- The meaning of a statement. -/
def exec : Stmt → Execution State Value
  | .letDecl decl name type isMutable init =>
    interp.letDecl decl name type isMutable (evalOption init)
  | .expr value => interp.expr (eval value)
  | .ret value => interp.ret (evalOption value)
  | .ifElse condition thenBranch elseBranch =>
    interp.ifElse (eval condition) (execAll thenBranch) (execBranch elseBranch)
  | .whileLoop condition body => interp.whileLoop (eval condition) (execAll body)
  | .forLoop init condition update body =>
    interp.forLoop (execOption init) (evalOption condition) (evalOption update) (execAll body)
  | .breakLoop => .exit .breakLoop
  | .continueLoop => .exit .continueLoop
  | .throw value => throw (eval value)
  | .tryCatch body handler finalizer =>
    interp.tryCatch (execAll body) (execHandler handler) (execBranch finalizer)
  | .switch discriminant cases => interp.switch (eval discriminant) (execCases cases)
  | .block body => execAll body
  | .empty => .exit .normal
/-- The meaning of a statement list. -/
def execAll : List Stmt → Execution State Value
  | [] => .exit .normal
  | stmt :: stmts => (exec stmt).seq (execAll stmts)
/-- The meaning of a statement that may be left out. -/
def execOption : Option Stmt → Option (Execution State Value)
  | none => none
  | some stmt => some (exec stmt)
/-- The meaning of a statement list that may be left out. -/
def execBranch : Option (List Stmt) → Option (Execution State Value)
  | none => none
  | some body => some (execAll body)
/-- The parameter of a handler and the meaning of its body. -/
def execHandler : Option CatchClause → Option (Option DeclHandle × Execution State Value)
  | none => none
  | some ⟨param, body⟩ => some (param, execAll body)
/-- The meanings of the tests and the bodies of the arms of a `switch` statement. -/
def execCases : List SwitchCase → List (Option (Evaluation State Value) × Execution State Value)
  | [] => []
  | ⟨test, body⟩ :: cases => (evalOption test, execAll body) :: execCases cases
end

end Interpretation

end Overloading
