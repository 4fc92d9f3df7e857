import Overloading.Fold.ParamTypes
import Overloading.Tree
import Overloading.Types

/-! # Folding type tests

Given the types of the parameters, `Stmt.foldAll` answers the type tests of a body and simplifies what
hangs on the answers: boolean operators, conditional expressions and `if` statements with a known
condition, and statements that cannot be reached any more. All else is kept as it is.

Folding goes bottom up. Each kind of node that can be simplified has a constructor function that takes
its parts folded already: `Expr.foldedLogical`, `Expr.foldedUnary`, `Expr.foldedParen`,
`Expr.foldedConditional`, `Stmt.foldedIf`; statement lists are put together by `Stmt.foldedCons`. -/

namespace Overloading

/-! ## Type tests

A type test `isType<T>(p)` asks whether the parameter `p` has the type `T`. The function that it calls
exists only for the compiler: its name is an option, and it has no declaration. -/

/-- A well-formed type test. -/
structure TypeTest where
  /-- The type that is asked for. -/
  target : DeclaredType
  /-- The parameter that is asked about. -/
  param : DeclHandle

namespace Expr

/-- Whether an expression is the identifier of a given name that has no declaration. -/
def isUnbound (name : String) : Expr → Bool
  | .ident other none => other = name
  | _ => false

/-- Whether an expression calls the intrinsic of a given name, be the call well formed or not. -/
def isIntrinsicCall (name : String) : Expr → Bool
  | .call callee _ _ _ => callee.isUnbound name
  | _ => false

/-- The type test that an expression is: a call of the intrinsic with one type argument and one
argument, an identifier that refers to a declaration. -/
def typeTest? (name : String) : Expr → Option TypeTest
  | .call callee [target] [.ident _ (some param)] _ =>
    if callee.isUnbound name then some ⟨target, param⟩ else none
  | _ => none

/-- The unbound expressions of a name are exactly the identifiers of that name without declaration. -/
theorem isUnbound_iff {name : String} {expr : Expr} :
    expr.isUnbound name = true ↔ expr = .ident name none := by
  unfold isUnbound
  split
  · simp
  · next other => simpa using other name

/-- The type tests are the calls of the intrinsic with one type argument and one bound identifier. -/
theorem typeTest?_eq_some_iff {name : String} {expr : Expr} {test : TypeTest} :
    expr.typeTest? name = some test ↔ ∃ argName signature,
      expr = .call (.ident name none) [test.target] [.ident argName (some test.param)] signature := by
  constructor
  · intro isTest
    unfold typeTest? at isTest
    split at isTest
    · next callee target argName param signature =>
      split at isTest
      · next unbound =>
        cases isTest
        exact ⟨argName, signature, by rw [isUnbound_iff.mp unbound]⟩
      · cases isTest
    · cases isTest
  · rintro ⟨argName, signature, rfl⟩
    simp [typeTest?, isUnbound]

end Expr

/-! ## Statements that always exit

`Stmt.alwaysExits` recognises statements after which nothing in the same list runs, because every way
through them ends in a `return` or a `throw`. -/

mutual
/-- Whether a statement ends in a `return` or a `throw` on every path. A `try` statement does so if its
finalizer does, or if its body does and its handler, if there is one, does too. -/
def Stmt.alwaysExits : Stmt → Bool
  | .ret _ => true
  | .throw _ => true
  | .block body => Stmt.someExits body
  | .ifElse _ thenBranch elseBranch => Stmt.someExits thenBranch && Stmt.branchExits elseBranch
  | .tryCatch body handler finalizer =>
    Stmt.branchExits finalizer || (Stmt.someExits body && CatchClause.optionExits handler)
  | _ => false
/-- Whether some statement of a list always exits. -/
def Stmt.someExits : List Stmt → Bool
  | [] => false
  | stmt :: stmts => stmt.alwaysExits || Stmt.someExits stmts
/-- Whether there is a statement list some statement of which always exits. -/
def Stmt.branchExits : Option (List Stmt) → Bool
  | none => false
  | some body => Stmt.someExits body
/-- Whether some statement of a handler always exits, or there is no handler. -/
def CatchClause.optionExits : Option CatchClause → Bool
  | none => true
  | some ⟨_, body⟩ => Stmt.someExits body
end

/-- `Stmt.someExits` as a test on some statement. -/
theorem Stmt.someExits_eq_any (stmts : List Stmt) :
    Stmt.someExits stmts = stmts.any Stmt.alwaysExits := by
  induction stmts with
  | nil => simp [Stmt.someExits]
  | cons stmt stmts ih => simp [Stmt.someExits, ih]

/-! ## Contexts -/

/-- What is known about a body: how its type tests are called, which type parameters are in scope, and
the types of its parameters. -/
structure FoldContext where
  /-- The name of the type test. -/
  intrinsicName : String
  /-- The type parameters in scope. -/
  typeParams : List String
  /-- The types of the parameters. -/
  types : ParamTypes

/-- The answer to an expression that is a type test on a parameter of known type. -/
def FoldContext.answer? (context : FoldContext) (expr : Expr) : Option Bool := do
  let test ← expr.typeTest? context.intrinsicName
  let actual ← context.types.find? test.param
  return actual.equal (.ofDeclared context.typeParams test.target)

namespace FoldContext

variable {context : FoldContext} {expr : Expr}

/-- A type test is answered by comparing the type of its parameter, if that is known, with the lowered
target. -/
theorem answer?_of_typeTest? {test : TypeTest}
    (isTest : expr.typeTest? context.intrinsicName = some test) :
    context.answer? expr = (context.types.find? test.param).map fun actual =>
      actual.equal (.ofDeclared context.typeParams test.target) := by
  cases known : context.types.find? test.param <;> simp [answer?, isTest, known]

/-- The answer to a type test compares the type of the parameter with the one that is asked for. -/
theorem answer?_test {target : DeclaredType} {argName : String} {param : DeclHandle}
    {signature : Option DeclHandle} :
    context.answer? (.call (.ident context.intrinsicName none) [target]
        [.ident argName (some param)] signature) =
      (context.types.find? param).map fun actual =>
        actual.equal (.ofDeclared context.typeParams target) := by
  have isTest : (Expr.call (.ident context.intrinsicName none) [target]
      [.ident argName (some param)] signature).typeTest? context.intrinsicName =
        some ⟨target, param⟩ :=
    Expr.typeTest?_eq_some_iff.mpr ⟨argName, signature, rfl⟩
  exact answer?_of_typeTest? isTest

/-- Only type tests are answered. -/
theorem answer?_of_not_typeTest? (noTest : expr.typeTest? context.intrinsicName = none) :
    context.answer? expr = none := by
  simp [answer?, noTest]

/-- The expressions without an answer are those that are no type test on a parameter of known type. -/
theorem answer?_eq_none_iff :
    context.answer? expr = none ↔ ∀ test, expr.typeTest? context.intrinsicName = some test →
      context.types.find? test.param = none := by
  cases isTest : expr.typeTest? context.intrinsicName with
  | none => simp [answer?_of_not_typeTest? isTest]
  | some test => simp [answer?_of_typeTest? isTest]

end FoldContext

/-! ## Expressions with folded parts -/

/-- A boolean operator. A known left operand decides it or leaves the right operand. -/
def Expr.foldedLogical (op : LogicalOp) (left right : Expr) : Expr :=
  match op, left.boolLiteral? with
  | .and, some false => .bool false
  | .and, some true => right
  | .or, some true => .bool true
  | .or, some false => right
  | _, _ => .logical op left right

/-- An operator on one operand. The negation of a known operand is known. -/
def Expr.foldedUnary (op : UnaryOp) (operand : Expr) : Expr :=
  match op, operand.boolLiteral? with
  | .not, some value => .bool !value
  | _, _ => .unary op operand

/-- An expression in parentheses. A boolean literal needs none. -/
def Expr.foldedParen : Expr → Expr
  | .bool value => .bool value
  | inner => .paren inner

/-- A conditional expression. A known condition leaves one of the others. -/
def Expr.foldedConditional (condition whenTrue whenFalse : Expr) : Expr :=
  match condition.boolLiteral? with
  | some true => whenTrue
  | some false => whenFalse
  | none => .conditional condition whenTrue whenFalse

/-! ## Statements with folded parts -/

/-- An `if` statement. A known condition leaves one branch, as a block. -/
def Stmt.foldedIf (condition : Expr) (thenBranch : List Stmt) (elseBranch : Option (List Stmt)) :
    Stmt :=
  match condition.boolLiteral?, elseBranch with
  | some true, _ => .block thenBranch
  | some false, some body => .block body
  | some false, none => .empty
  | none, _ => .ifElse condition thenBranch elseBranch

/-- What a folded statement contributes to its list: an empty statement nothing, a block that binds no
local its statements, any other statement itself. -/
def Stmt.splice : Stmt → List Stmt
  | .empty => []
  | .block body => if body.any Stmt.isLet then [.block body] else body
  | stmt => [stmt]

/-- Whether a statement list ends in a statement that always exits. -/
def Stmt.endsInExit (stmts : List Stmt) : Bool := stmts.getLast?.any Stmt.alwaysExits

/-- A statement before the rest of its list, which is dropped if it cannot be reached. -/
def Stmt.foldedCons (stmt : Stmt) (rest : List Stmt) : List Stmt :=
  if Stmt.endsInExit stmt.splice then stmt.splice else stmt.splice ++ rest

/-! ## Folding -/

mutual
/-- Folds an expression. -/
def Expr.fold (context : FoldContext) : Expr → Expr
  | .undefined => .undefined
  | .null => .null
  | .bool value => .bool value
  | .number bits => .number bits
  | .string text => .string text
  | .template quasis parts => .template quasis (Expr.foldAll context parts)
  | .ident name decl => .ident name decl
  | .this => .this
  | .member receiver property decl => .member (receiver.fold context) property decl
  | .index receiver key => .index (receiver.fold context) (key.fold context)
  | .call callee typeArgs args signature =>
    match context.answer? (.call callee typeArgs args signature) with
    | some answer => .bool answer
    | none => .call (callee.fold context) typeArgs (Expr.foldAll context args) signature
  | .new callee typeArgs args signature =>
    .new (callee.fold context) typeArgs (Expr.foldAll context args) signature
  | .binary op left right => .binary op (left.fold context) (right.fold context)
  | .compare op left right => .compare op (left.fold context) (right.fold context)
  | .logical op left right => Expr.foldedLogical op (left.fold context) (right.fold context)
  | .unary op operand => Expr.foldedUnary op (operand.fold context)
  | .conditional condition whenTrue whenFalse =>
    Expr.foldedConditional (condition.fold context) (whenTrue.fold context)
      (whenFalse.fold context)
  | .assign place value => .assign (place.fold context) (value.fold context)
  | .array items => .array (Expr.foldAll context items)
  | .object properties => .object (Expr.foldProperties context properties)
  | .spread inner => .spread (inner.fold context)
  | .cast inner type => .cast (inner.fold context) type
  | .nonNull inner => .nonNull (inner.fold context)
  | .paren inner => Expr.foldedParen (inner.fold context)
  | .closure params body => .closure params (Stmt.foldAll context body)
/-- Folds several expressions. -/
def Expr.foldAll (context : FoldContext) : List Expr → List Expr
  | [] => []
  | expr :: exprs => expr.fold context :: Expr.foldAll context exprs
/-- Folds the values of an object literal. -/
def Expr.foldProperties (context : FoldContext) : List (String × Expr) → List (String × Expr)
  | [] => []
  | (name, value) :: properties =>
    (name, value.fold context) :: Expr.foldProperties context properties
/-- Folds an expression that may be left out. -/
def Expr.foldOption (context : FoldContext) : Option Expr → Option Expr
  | none => none
  | some expr => some (expr.fold context)
/-- Folds a statement. -/
def Stmt.fold (context : FoldContext) : Stmt → Stmt
  | .letDecl decl name type isMutable init =>
    .letDecl decl name type isMutable (Expr.foldOption context init)
  | .expr value => .expr (value.fold context)
  | .ret value => .ret (Expr.foldOption context value)
  | .ifElse condition thenBranch elseBranch =>
    Stmt.foldedIf (condition.fold context) (Stmt.foldAll context thenBranch)
      (Stmt.foldBranch context elseBranch)
  | .whileLoop condition body => .whileLoop (condition.fold context) (Stmt.foldAll context body)
  | .forLoop init condition update body =>
    .forLoop (Stmt.foldOption context init) (Expr.foldOption context condition)
      (Expr.foldOption context update) (Stmt.foldAll context body)
  | .breakLoop => .breakLoop
  | .continueLoop => .continueLoop
  | .throw value => .throw (value.fold context)
  | .tryCatch body handler finalizer =>
    .tryCatch (Stmt.foldAll context body) (CatchClause.foldOption context handler)
      (Stmt.foldBranch context finalizer)
  | .switch discriminant cases =>
    .switch (discriminant.fold context) (SwitchCase.foldAll context cases)
  | .block body => .block (Stmt.foldAll context body)
  | .empty => .empty
/-- Folds a statement list. -/
def Stmt.foldAll (context : FoldContext) : List Stmt → List Stmt
  | [] => []
  | stmt :: stmts => Stmt.foldedCons (stmt.fold context) (Stmt.foldAll context stmts)
/-- Folds a statement that may be left out. -/
def Stmt.foldOption (context : FoldContext) : Option Stmt → Option Stmt
  | none => none
  | some stmt => some (stmt.fold context)
/-- Folds a statement list that may be left out. -/
def Stmt.foldBranch (context : FoldContext) : Option (List Stmt) → Option (List Stmt)
  | none => none
  | some body => some (Stmt.foldAll context body)
/-- Folds a handler that may be left out. -/
def CatchClause.foldOption (context : FoldContext) : Option CatchClause → Option CatchClause
  | none => none
  | some ⟨param, body⟩ => some ⟨param, Stmt.foldAll context body⟩
/-- Folds the arms of a `switch` statement. -/
def SwitchCase.foldAll (context : FoldContext) : List SwitchCase → List SwitchCase
  | [] => []
  | ⟨test, body⟩ :: cases =>
    ⟨Expr.foldOption context test, Stmt.foldAll context body⟩ :: SwitchCase.foldAll context cases
end

/-- A type test that is answered folds to its answer. -/
theorem Expr.fold_of_answer? {context : FoldContext} {expr : Expr} {answer : Bool}
    (answered : context.answer? expr = some answer) : expr.fold context = .bool answer := by
  cases expr with
  | call => simp only [Expr.fold, answered]
  | _ => simp [FoldContext.answer?, Expr.typeTest?] at answered

end Overloading
