import Overloading.Tree

/-! # Changing trees

Two ways to change a body: `Stmt.retargetAll` gives each call the signature that a function says, and
`Stmt.rewriteAll` hands every expression to a visitor. -/

namespace Overloading

/-! ## Changing the signatures of calls

`Stmt.retargetAll target body` is the body in which each call and each instantiation has the signature
that `target` gives for it, and in which all else is as it was. The function is asked about the
expression as it stands in the given body. -/

/-- The signature that a call or instantiation was resolved to. -/
def Expr.signature? : Expr → Option DeclHandle
  | .call _ _ _ signature => signature
  | .new _ _ _ signature => signature
  | _ => none

mutual
/-- The expression with the signatures that `target` gives. -/
def Expr.retarget (target : Expr → Option DeclHandle) : Expr → Expr
  | .undefined => .undefined
  | .null => .null
  | .bool value => .bool value
  | .number bits => .number bits
  | .string text => .string text
  | .template quasis parts => .template quasis (Expr.retargetAll target parts)
  | .ident name decl => .ident name decl
  | .this => .this
  | .member receiver property decl => .member (receiver.retarget target) property decl
  | .index receiver key => .index (receiver.retarget target) (key.retarget target)
  | .call callee typeArgs args signature =>
    .call (callee.retarget target) typeArgs (Expr.retargetAll target args)
      (target (.call callee typeArgs args signature))
  | .new callee typeArgs args signature =>
    .new (callee.retarget target) typeArgs (Expr.retargetAll target args)
      (target (.new callee typeArgs args signature))
  | .binary op left right => .binary op (left.retarget target) (right.retarget target)
  | .compare op left right => .compare op (left.retarget target) (right.retarget target)
  | .logical op left right => .logical op (left.retarget target) (right.retarget target)
  | .unary op operand => .unary op (operand.retarget target)
  | .conditional condition whenTrue whenFalse =>
    .conditional (condition.retarget target) (whenTrue.retarget target) (whenFalse.retarget target)
  | .assign place value => .assign (place.retarget target) (value.retarget target)
  | .array items => .array (Expr.retargetAll target items)
  | .object properties => .object (Expr.retargetProperties target properties)
  | .spread inner => .spread (inner.retarget target)
  | .cast inner type => .cast (inner.retarget target) type
  | .nonNull inner => .nonNull (inner.retarget target)
  | .paren inner => .paren (inner.retarget target)
  | .closure params body => .closure params (Stmt.retargetAll target body)
/-- Several expressions with the signatures that `target` gives. -/
def Expr.retargetAll (target : Expr → Option DeclHandle) : List Expr → List Expr
  | [] => []
  | expr :: exprs => expr.retarget target :: Expr.retargetAll target exprs
/-- The properties of an object literal with the signatures that `target` gives. -/
def Expr.retargetProperties (target : Expr → Option DeclHandle) :
    List (String × Expr) → List (String × Expr)
  | [] => []
  | (name, value) :: properties =>
    (name, value.retarget target) :: Expr.retargetProperties target properties
/-- An expression that may be left out, with the signatures that `target` gives. -/
def Expr.retargetOption (target : Expr → Option DeclHandle) : Option Expr → Option Expr
  | none => none
  | some expr => some (expr.retarget target)
/-- The statement with the signatures that `target` gives. -/
def Stmt.retarget (target : Expr → Option DeclHandle) : Stmt → Stmt
  | .letDecl decl name type isMutable init =>
    .letDecl decl name type isMutable (Expr.retargetOption target init)
  | .expr value => .expr (value.retarget target)
  | .ret value => .ret (Expr.retargetOption target value)
  | .ifElse condition thenBranch elseBranch =>
    .ifElse (condition.retarget target) (Stmt.retargetAll target thenBranch)
      (Stmt.retargetBranch target elseBranch)
  | .whileLoop condition body =>
    .whileLoop (condition.retarget target) (Stmt.retargetAll target body)
  | .forLoop init condition update body =>
    .forLoop (Stmt.retargetOption target init) (Expr.retargetOption target condition)
      (Expr.retargetOption target update) (Stmt.retargetAll target body)
  | .breakLoop => .breakLoop
  | .continueLoop => .continueLoop
  | .throw value => .throw (value.retarget target)
  | .tryCatch body handler finalizer =>
    .tryCatch (Stmt.retargetAll target body) (CatchClause.retargetOption target handler)
      (Stmt.retargetBranch target finalizer)
  | .switch discriminant cases =>
    .switch (discriminant.retarget target) (SwitchCase.retargetAll target cases)
  | .block body => .block (Stmt.retargetAll target body)
  | .empty => .empty
/-- The statement list with the signatures that `target` gives. -/
def Stmt.retargetAll (target : Expr → Option DeclHandle) : List Stmt → List Stmt
  | [] => []
  | stmt :: stmts => stmt.retarget target :: Stmt.retargetAll target stmts
/-- A statement that may be left out, with the signatures that `target` gives. -/
def Stmt.retargetOption (target : Expr → Option DeclHandle) : Option Stmt → Option Stmt
  | none => none
  | some stmt => some (stmt.retarget target)
/-- A statement list that may be left out, with the signatures that `target` gives. -/
def Stmt.retargetBranch (target : Expr → Option DeclHandle) :
    Option (List Stmt) → Option (List Stmt)
  | none => none
  | some body => some (Stmt.retargetAll target body)
/-- A handler that may be left out, with the signatures that `target` gives. -/
def CatchClause.retargetOption (target : Expr → Option DeclHandle) :
    Option CatchClause → Option CatchClause
  | none => none
  | some ⟨param, body⟩ => some ⟨param, Stmt.retargetAll target body⟩
/-- The arms of a `switch` statement with the signatures that `target` gives. -/
def SwitchCase.retargetAll (target : Expr → Option DeclHandle) : List SwitchCase → List SwitchCase
  | [] => []
  | ⟨test, body⟩ :: cases =>
    ⟨Expr.retargetOption target test, Stmt.retargetAll target body⟩ ::
      SwitchCase.retargetAll target cases
end

/-! ## Rewriting by a visitor

`Stmt.rewriteAll` hands every expression of a body to a visitor, which may replace it and may keep a
state, and then goes on into the parts of the replacement. The order is that of
`Stmt.subexprsAll`.

A visitor may return an expression with deeper parts than the one that it was given, so the walk takes
a limit on the depth of nesting; it has no result where that is exceeded. -/

universe u

variable {m : Type → Type u} [Monad m]

/-- Applies an action to an expression that may be left out. -/
def Expr.forOption (visit : Expr → m Expr) : Option Expr → m (Option Expr)
  | none => pure none
  | some expr => some <$> visit expr

mutual
/-- Applies an action to the outermost expressions of a statement, in source order. -/
def Stmt.forExprs (visit : Expr → m Expr) : Stmt → m Stmt
  | .letDecl decl name type isMutable init =>
    return .letDecl decl name type isMutable (← Expr.forOption visit init)
  | .expr value => return .expr (← visit value)
  | .ret value => return .ret (← Expr.forOption visit value)
  | .ifElse condition thenBranch elseBranch =>
    return .ifElse (← visit condition) (← Stmt.forExprsAll visit thenBranch)
      (← Stmt.forExprsBranch visit elseBranch)
  | .whileLoop condition body =>
    return .whileLoop (← visit condition) (← Stmt.forExprsAll visit body)
  | .forLoop init condition update body =>
    return .forLoop (← Stmt.forExprsOption visit init) (← Expr.forOption visit condition)
      (← Expr.forOption visit update) (← Stmt.forExprsAll visit body)
  | .breakLoop => return .breakLoop
  | .continueLoop => return .continueLoop
  | .throw value => return .throw (← visit value)
  | .tryCatch body handler finalizer =>
    return .tryCatch (← Stmt.forExprsAll visit body) (← CatchClause.forExprsOption visit handler)
      (← Stmt.forExprsBranch visit finalizer)
  | .switch discriminant cases =>
    return .switch (← visit discriminant) (← SwitchCase.forExprsAll visit cases)
  | .block body => return .block (← Stmt.forExprsAll visit body)
  | .empty => return .empty
/-- Applies an action to the outermost expressions of a statement list. -/
def Stmt.forExprsAll (visit : Expr → m Expr) : List Stmt → m (List Stmt)
  | [] => return []
  | stmt :: stmts => return (← Stmt.forExprs visit stmt) :: (← Stmt.forExprsAll visit stmts)
/-- Applies an action to the outermost expressions of a statement that may be left out. -/
def Stmt.forExprsOption (visit : Expr → m Expr) : Option Stmt → m (Option Stmt)
  | none => return none
  | some stmt => return some (← Stmt.forExprs visit stmt)
/-- Applies an action to the outermost expressions of a statement list that may be left out. -/
def Stmt.forExprsBranch (visit : Expr → m Expr) : Option (List Stmt) → m (Option (List Stmt))
  | none => return none
  | some body => return some (← Stmt.forExprsAll visit body)
/-- Applies an action to the outermost expressions of a handler that may be left out. -/
def CatchClause.forExprsOption (visit : Expr → m Expr) :
    Option CatchClause → m (Option CatchClause)
  | none => return none
  | some ⟨param, body⟩ => return some ⟨param, ← Stmt.forExprsAll visit body⟩
/-- Applies an action to the outermost expressions of the arms of a `switch` statement. -/
def SwitchCase.forExprsAll (visit : Expr → m Expr) : List SwitchCase → m (List SwitchCase)
  | [] => return []
  | ⟨test, body⟩ :: cases =>
    return ⟨← Expr.forOption visit test, ← Stmt.forExprsAll visit body⟩ ::
      (← SwitchCase.forExprsAll visit cases)
end

/-- Applies an action to the expressions directly inside an expression, in source order. -/
def Expr.forParts (visit : Expr → m Expr) : Expr → m Expr
  | .undefined => return .undefined
  | .null => return .null
  | .bool value => return .bool value
  | .number bits => return .number bits
  | .string text => return .string text
  | .template quasis parts => return .template quasis (← parts.mapM visit)
  | .ident name decl => return .ident name decl
  | .this => return .this
  | .member receiver property decl => return .member (← visit receiver) property decl
  | .index receiver key => return .index (← visit receiver) (← visit key)
  | .call callee typeArgs args signature =>
    return .call (← visit callee) typeArgs (← args.mapM visit) signature
  | .new callee typeArgs args signature =>
    return .new (← visit callee) typeArgs (← args.mapM visit) signature
  | .binary op left right => return .binary op (← visit left) (← visit right)
  | .compare op left right => return .compare op (← visit left) (← visit right)
  | .logical op left right => return .logical op (← visit left) (← visit right)
  | .unary op operand => return .unary op (← visit operand)
  | .conditional condition whenTrue whenFalse =>
    return .conditional (← visit condition) (← visit whenTrue) (← visit whenFalse)
  | .assign place value => return .assign (← visit place) (← visit value)
  | .array items => return .array (← items.mapM visit)
  | .object properties =>
    return .object (← properties.mapM fun property => return (property.1, ← visit property.2))
  | .spread inner => return .spread (← visit inner)
  | .cast inner type => return .cast (← visit inner) type
  | .nonNull inner => return .nonNull (← visit inner)
  | .paren inner => return .paren (← visit inner)
  | .closure params body => return .closure params (← Stmt.forExprsAll visit body)

/-- Hands an expression to the visitor, then the parts of what the visitor returned, and so on to at
most `limit` levels. -/
def Expr.rewrite {σ : Type} (visit : Expr → StateM σ Expr) : Nat → Expr → StateT σ Option Expr
  | 0, _ => failure
  | limit + 1, expr => do
    let visited ← fun state => some (visit expr state)
    visited.forParts (Expr.rewrite visit limit)

/-- Hands every expression of a body to the visitor, an expression before the parts of its
replacement, in source order. -/
def Stmt.rewriteAll {σ : Type} (visit : Expr → StateM σ Expr) (limit : Nat) (body : List Stmt) :
    StateT σ Option (List Stmt) :=
  Stmt.forExprsAll (Expr.rewrite visit limit) body

end Overloading
