import Overloading.Fold
import Overloading.Program

/-! # Events of folding

`Stmt.foldEventsAll` lists what folding a body does, in source order: each type test that is answered,
each `if` statement that is reduced to a branch, each statement list that is cut short. Parts that
folding discards report nothing. -/

namespace Overloading

/-- Whether a boolean operator with a known left operand discards its right operand. -/
def LogicalOp.isDecidedBy (op : LogicalOp) (left : Option Bool) : Bool :=
  match op, left with
  | .and, some false => true
  | .or, some true => true
  | _, _ => false

/-- The event of answering an expression that is a type test. -/
def FoldContext.answerEvent (context : FoldContext) (expr : Expr) (answer : Bool) : List Event :=
  match expr.typeTest? context.intrinsicName with
  | some test =>
    [.answeredTest context.intrinsicName (.ofDeclared context.typeParams test.target) test.param
      answer]
  | none => []

mutual
/-- The events of folding an expression. -/
def Expr.foldEvents (context : FoldContext) : Expr → List Event
  | .undefined | .null | .bool _ | .number _ | .string _ | .ident _ _ | .this => []
  | .template _ parts => Expr.foldEventsAll context parts
  | .member receiver _ _ => receiver.foldEvents context
  | .index receiver key => receiver.foldEvents context ++ key.foldEvents context
  | .call callee typeArgs args signature =>
    match context.answer? (.call callee typeArgs args signature) with
    | some answer => context.answerEvent (.call callee typeArgs args signature) answer
    | none => callee.foldEvents context ++ Expr.foldEventsAll context args
  | .new callee _ args _ => callee.foldEvents context ++ Expr.foldEventsAll context args
  | .binary _ left right => left.foldEvents context ++ right.foldEvents context
  | .compare _ left right => left.foldEvents context ++ right.foldEvents context
  | .logical op left right =>
    left.foldEvents context ++
      if op.isDecidedBy (left.fold context).boolLiteral? then [] else right.foldEvents context
  | .unary _ operand => operand.foldEvents context
  | .conditional condition whenTrue whenFalse =>
    condition.foldEvents context ++
      match (condition.fold context).boolLiteral? with
      | some true => whenTrue.foldEvents context
      | some false => whenFalse.foldEvents context
      | none => whenTrue.foldEvents context ++ whenFalse.foldEvents context
  | .assign place value => place.foldEvents context ++ value.foldEvents context
  | .array items => Expr.foldEventsAll context items
  | .object properties => Expr.foldEventsProperties context properties
  | .spread inner => inner.foldEvents context
  | .cast inner _ => inner.foldEvents context
  | .nonNull inner => inner.foldEvents context
  | .paren inner => inner.foldEvents context
  | .closure _ body => Stmt.foldEventsAll context body
/-- The events of folding several expressions. -/
def Expr.foldEventsAll (context : FoldContext) : List Expr → List Event
  | [] => []
  | expr :: exprs => expr.foldEvents context ++ Expr.foldEventsAll context exprs
/-- The events of folding the values of an object literal. -/
def Expr.foldEventsProperties (context : FoldContext) : List (String × Expr) → List Event
  | [] => []
  | (_, value) :: properties =>
    value.foldEvents context ++ Expr.foldEventsProperties context properties
/-- The events of folding an expression that may be left out. -/
def Expr.foldEventsOption (context : FoldContext) : Option Expr → List Event
  | none => []
  | some expr => expr.foldEvents context
/-- The events of folding a statement. -/
def Stmt.foldEvents (context : FoldContext) : Stmt → List Event
  | .letDecl _ _ _ _ init => Expr.foldEventsOption context init
  | .expr value => value.foldEvents context
  | .ret value => Expr.foldEventsOption context value
  | .ifElse condition thenBranch elseBranch =>
    condition.foldEvents context ++
      match (condition.fold context).boolLiteral? with
      | some true => .tookThenBranch :: Stmt.foldEventsAll context thenBranch
      | some false => .tookElseBranch :: Stmt.foldEventsBranch context elseBranch
      | none => Stmt.foldEventsAll context thenBranch ++ Stmt.foldEventsBranch context elseBranch
  | .whileLoop condition body => condition.foldEvents context ++ Stmt.foldEventsAll context body
  | .forLoop init condition update body =>
    Stmt.foldEventsOption context init ++ (Expr.foldEventsOption context condition ++
      (Expr.foldEventsOption context update ++ Stmt.foldEventsAll context body))
  | .breakLoop | .continueLoop | .empty => []
  | .throw value => value.foldEvents context
  | .tryCatch body handler finalizer =>
    Stmt.foldEventsAll context body ++ (CatchClause.foldEventsOption context handler ++
      Stmt.foldEventsBranch context finalizer)
  | .switch discriminant cases =>
    discriminant.foldEvents context ++ SwitchCase.foldEventsAll context cases
  | .block body => Stmt.foldEventsAll context body
/-- The events of folding a statement list. -/
def Stmt.foldEventsAll (context : FoldContext) : List Stmt → List Event
  | [] => []
  | stmt :: stmts =>
    stmt.foldEvents context ++
      if Stmt.endsInExit (stmt.fold context).splice then
        if stmts.isEmpty then [] else [.truncated stmts.length]
      else Stmt.foldEventsAll context stmts
/-- The events of folding a statement that may be left out. -/
def Stmt.foldEventsOption (context : FoldContext) : Option Stmt → List Event
  | none => []
  | some stmt => stmt.foldEvents context
/-- The events of folding a statement list that may be left out. -/
def Stmt.foldEventsBranch (context : FoldContext) : Option (List Stmt) → List Event
  | none => []
  | some body => Stmt.foldEventsAll context body
/-- The events of folding a handler that may be left out. -/
def CatchClause.foldEventsOption (context : FoldContext) : Option CatchClause → List Event
  | none => []
  | some ⟨_, body⟩ => Stmt.foldEventsAll context body
/-- The events of folding the arms of a `switch` statement. -/
def SwitchCase.foldEventsAll (context : FoldContext) : List SwitchCase → List Event
  | [] => []
  | ⟨test, body⟩ :: cases =>
    Expr.foldEventsOption context test ++ (Stmt.foldEventsAll context body ++
      SwitchCase.foldEventsAll context cases)
end

end Overloading
