import Overloading.Types

/-! # Bound trees

The body of a function as a tree of statements and expressions in which names are bound: an
identifier carries the declaration that it refers to, and a call carries the signature that it was
resolved to. Type annotations are kept as written. -/

namespace Overloading

/-! ## Syntax -/

/-- Operators on two values. -/
inductive BinaryOp
  | add
  | sub
  | mul
  | div
  | mod
  | pow
  | bitAnd
  | bitOr
  | bitXor
  | shl
  | shr
  | ushr
deriving DecidableEq

/-- Operators on one value. -/
inductive UnaryOp
  | neg
  | not
  | bitNot
  | pos
  | typeOf
deriving DecidableEq

/-- Comparisons; the loose ones convert their operands. -/
inductive CompareOp
  | eq
  | ne
  | looseEq
  | looseNe
  | lt
  | le
  | gt
  | ge
deriving DecidableEq

/-- Operators that may leave their right operand unevaluated. -/
inductive LogicalOp
  | and
  | or
  /-- `??`. -/
  | coalesce
deriving DecidableEq

mutual
/-- An expression. -/
inductive Expr
  | undefined
  | null
  | bool (value : Bool)
  | number (bits : NumberBits)
  | string (text : String)
  /-- A template literal: the texts around its parts, and the parts. -/
  | template (quasis : List String) (parts : List Expr)
  /-- An identifier and the declaration that it refers to, if any. -/
  | ident (name : String) (decl : Option DeclHandle)
  | this
  /-- `receiver.property`, and the declaration of the property, if known. -/
  | member (receiver : Expr) (property : String) (decl : Option DeclHandle)
  /-- `receiver[key]`. -/
  | index (receiver key : Expr)
  /-- A call with its explicit type arguments, and the signature that it was resolved to, if any. -/
  | call (callee : Expr) (typeArgs : List DeclaredType) (args : List Expr)
      (signature : Option DeclHandle)
  /-- An instantiation `new C(…)`. -/
  | new (callee : Expr) (typeArgs : List DeclaredType) (args : List Expr)
      (signature : Option DeclHandle)
  | binary (op : BinaryOp) (left right : Expr)
  | compare (op : CompareOp) (left right : Expr)
  | logical (op : LogicalOp) (left right : Expr)
  | unary (op : UnaryOp) (operand : Expr)
  /-- `condition ? whenTrue : whenFalse`. -/
  | conditional (condition whenTrue whenFalse : Expr)
  | assign (place value : Expr)
  | array (items : List Expr)
  /-- An object literal; order and repeated names are kept. -/
  | object (properties : List (String × Expr))
  /-- `...inner` in an array literal or an argument list. -/
  | spread (inner : Expr)
  /-- `inner as type`. -/
  | cast (inner : Expr) (type : DeclaredType)
  /-- `inner!`. -/
  | nonNull (inner : Expr)
  /-- `(inner)`. -/
  | paren (inner : Expr)
  /-- A function expression. -/
  | closure (params : List DeclHandle) (body : List Stmt)
/-- A statement. -/
inductive Stmt
  /-- A binding of a local. -/
  | letDecl (decl : DeclHandle) (name : String) (type : Option DeclaredType) (isMutable : Bool)
      (init : Option Expr)
  | expr (value : Expr)
  | ret (value : Option Expr)
  | ifElse (condition : Expr) (thenBranch : List Stmt) (elseBranch : Option (List Stmt))
  | whileLoop (condition : Expr) (body : List Stmt)
  | forLoop (init : Option Stmt) (condition update : Option Expr) (body : List Stmt)
  | breakLoop
  | continueLoop
  | throw (value : Expr)
  | tryCatch (body : List Stmt) (handler : Option CatchClause) (finalizer : Option (List Stmt))
  | switch (discriminant : Expr) (cases : List SwitchCase)
  | block (body : List Stmt)
  | empty
/-- The handler of a `try` statement. -/
inductive CatchClause
  | mk (param : Option DeclHandle) (body : List Stmt)
/-- An arm of a `switch` statement; the default arm has no test. -/
inductive SwitchCase
  | mk (test : Option Expr) (body : List Stmt)
end

instance : Inhabited Expr := ⟨.undefined⟩

instance : Inhabited Stmt := ⟨.empty⟩

/-- The boolean that an expression is, if it is a boolean literal, in parentheses or not. -/
def Expr.boolLiteral? : Expr → Option Bool
  | .bool value => some value
  | .paren inner => inner.boolLiteral?
  | _ => none

/-- Whether a statement is a binding of a local. -/
def Stmt.isLet : Stmt → Bool
  | .letDecl .. => true
  | _ => false

/-! ## Subexpressions

`Stmt.subexprsAll body` lists every expression of a body, those inside closures included. An
expression comes before its parts, and parts come in source order: the callee before the arguments;
the header of a `for` loop before its body; the body of a `try` statement before its handler, and the
handler before the finalizer; the test of a `switch` arm before the body of the arm. -/

mutual
/-- The expression itself and all expressions inside it, outside in and in source order. -/
def Expr.subexprs : Expr → List Expr
  | .undefined => [.undefined]
  | .null => [.null]
  | .bool value => [.bool value]
  | .number bits => [.number bits]
  | .string text => [.string text]
  | .template quasis parts => .template quasis parts :: Expr.subexprsAll parts
  | .ident name decl => [.ident name decl]
  | .this => [.this]
  | .member receiver property decl => .member receiver property decl :: receiver.subexprs
  | .index receiver key => .index receiver key :: (receiver.subexprs ++ key.subexprs)
  | .call callee typeArgs args signature =>
    .call callee typeArgs args signature :: (callee.subexprs ++ Expr.subexprsAll args)
  | .new callee typeArgs args signature =>
    .new callee typeArgs args signature :: (callee.subexprs ++ Expr.subexprsAll args)
  | .binary op left right => .binary op left right :: (left.subexprs ++ right.subexprs)
  | .compare op left right => .compare op left right :: (left.subexprs ++ right.subexprs)
  | .logical op left right => .logical op left right :: (left.subexprs ++ right.subexprs)
  | .unary op operand => .unary op operand :: operand.subexprs
  | .conditional condition whenTrue whenFalse =>
    .conditional condition whenTrue whenFalse ::
      (condition.subexprs ++ (whenTrue.subexprs ++ whenFalse.subexprs))
  | .assign place value => .assign place value :: (place.subexprs ++ value.subexprs)
  | .array items => .array items :: Expr.subexprsAll items
  | .object properties => .object properties :: Expr.subexprsProperties properties
  | .spread inner => .spread inner :: inner.subexprs
  | .cast inner type => .cast inner type :: inner.subexprs
  | .nonNull inner => .nonNull inner :: inner.subexprs
  | .paren inner => .paren inner :: inner.subexprs
  | .closure params body => .closure params body :: Stmt.subexprsAll body
/-- The subexpressions of several expressions. -/
def Expr.subexprsAll : List Expr → List Expr
  | [] => []
  | expr :: exprs => expr.subexprs ++ Expr.subexprsAll exprs
/-- The subexpressions of the values of an object literal. -/
def Expr.subexprsProperties : List (String × Expr) → List Expr
  | [] => []
  | (_, value) :: properties => value.subexprs ++ Expr.subexprsProperties properties
/-- The subexpressions of an expression that may be left out. -/
def Expr.subexprsOption : Option Expr → List Expr
  | none => []
  | some expr => expr.subexprs
/-- The expressions of a statement. -/
def Stmt.subexprs : Stmt → List Expr
  | .letDecl _ _ _ _ init => Expr.subexprsOption init
  | .expr value => value.subexprs
  | .ret value => Expr.subexprsOption value
  | .ifElse condition thenBranch elseBranch =>
    condition.subexprs ++ (Stmt.subexprsAll thenBranch ++ Stmt.subexprsBranch elseBranch)
  | .whileLoop condition body => condition.subexprs ++ Stmt.subexprsAll body
  | .forLoop init condition update body =>
    Stmt.subexprsOption init ++ (Expr.subexprsOption condition ++
      (Expr.subexprsOption update ++ Stmt.subexprsAll body))
  | .breakLoop => []
  | .continueLoop => []
  | .throw value => value.subexprs
  | .tryCatch body handler finalizer =>
    Stmt.subexprsAll body ++ (CatchClause.subexprsOption handler ++ Stmt.subexprsBranch finalizer)
  | .switch discriminant cases => discriminant.subexprs ++ SwitchCase.subexprsAll cases
  | .block body => Stmt.subexprsAll body
  | .empty => []
/-- The expressions of a statement list. -/
def Stmt.subexprsAll : List Stmt → List Expr
  | [] => []
  | stmt :: stmts => stmt.subexprs ++ Stmt.subexprsAll stmts
/-- The expressions of a statement that may be left out. -/
def Stmt.subexprsOption : Option Stmt → List Expr
  | none => []
  | some stmt => stmt.subexprs
/-- The expressions of a statement list that may be left out. -/
def Stmt.subexprsBranch : Option (List Stmt) → List Expr
  | none => []
  | some body => Stmt.subexprsAll body
/-- The expressions of a handler that may be left out. -/
def CatchClause.subexprsOption : Option CatchClause → List Expr
  | none => []
  | some ⟨_, body⟩ => Stmt.subexprsAll body
/-- The expressions of the arms of a `switch` statement. -/
def SwitchCase.subexprsAll : List SwitchCase → List Expr
  | [] => []
  | ⟨test, body⟩ :: cases =>
    Expr.subexprsOption test ++ (Stmt.subexprsAll body ++ SwitchCase.subexprsAll cases)
end

end Overloading
