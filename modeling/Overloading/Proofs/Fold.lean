import Overloading.Fold
import Overloading.Proofs.Tree

/-! # What folding makes of a node

`Node.foldsTo_fold` says once what folding can make of a node: one of its folded parts, or the node
itself, a boolean literal, a block or nothing, with what is left of the folded parts in order.
`Node.folded_fold` draws from it what matters if the order does not: a boolean literal, one of the folded
parts, a call with folded parts, or another node whose parts are spliced from the folded parts. What
folding keeps or removes at every depth follows from either by induction over the parts. In particular no
node is made up: `Node.exists_of_within_fold` traces each node of the result back to one that folds to
it. -/

namespace Overloading

/-! ## Shells -/

/-- An expression without its parts. -/
def Expr.shell : Expr → Expr
  | .template quasis _ => .template quasis []
  | .member _ property decl => .member .undefined property decl
  | .index _ _ => .index .undefined .undefined
  | .call _ typeArgs _ signature => .call .undefined typeArgs [] signature
  | .new _ typeArgs _ signature => .new .undefined typeArgs [] signature
  | .binary op _ _ => .binary op .undefined .undefined
  | .compare op _ _ => .compare op .undefined .undefined
  | .logical op _ _ => .logical op .undefined .undefined
  | .unary op _ => .unary op .undefined
  | .conditional _ _ _ => .conditional .undefined .undefined .undefined
  | .assign _ _ => .assign .undefined .undefined
  | .array _ => .array []
  | .object properties => .object (properties.map fun property => (property.1, .undefined))
  | .spread _ => .spread .undefined
  | .cast _ type => .cast .undefined type
  | .nonNull _ => .nonNull .undefined
  | .paren _ => .paren .undefined
  | .closure params _ => .closure params []
  | leaf => leaf

/-- A handler without its statements. -/
def CatchClause.shell : CatchClause → CatchClause
  | ⟨param, _⟩ => ⟨param, []⟩

/-- A statement without its parts. -/
def Stmt.shell : Stmt → Stmt
  | .letDecl decl name type isMutable _ => .letDecl decl name type isMutable none
  | .expr _ => .expr .undefined
  | .ret _ => .ret none
  | .ifElse _ _ _ => .ifElse .undefined [] none
  | .whileLoop _ _ => .whileLoop .undefined []
  | .forLoop _ _ _ _ => .forLoop none none none []
  | .throw _ => .throw .undefined
  | .tryCatch _ handler _ => .tryCatch [] (handler.map CatchClause.shell) none
  | .switch _ _ => .switch .undefined []
  | .block _ => .block []
  | leaf => leaf

/-- A node without its parts. Boolean literals, blocks and empty statements have none, because folding may
put them in the place of other nodes. -/
def Node.shell? : Node → Option Node
  | .ofExpr (.bool _) | .ofStmt (.block _) | .ofStmt .empty => none
  | .ofExpr expr => some (.ofExpr expr.shell)
  | .ofStmt stmt => some (.ofStmt stmt.shell)

namespace Node

variable (context : FoldContext)

/-- Folds a node. -/
def fold : Node → Node
  | .ofExpr expr => .ofExpr (expr.fold context)
  | .ofStmt stmt => .ofStmt (stmt.fold context)

/-! ## Lists of folded parts -/

/-- Whether a node is another one, or a statement of the block that the other one is. -/
def SplicedFrom (result node : Node) : Prop :=
  result = node ∨ ∃ body, node = .ofStmt (.block body) ∧ result ∈ body.map .ofStmt

/-- Whether each of some nodes is spliced from the folded form of one of the given ones. -/
def FromFold (sources results : List Node) : Prop :=
  ∀ result ∈ results, ∃ source ∈ sources, result.SplicedFrom (source.fold context)

variable {context}

theorem fromFold_nil (sources : List Node) : FromFold context sources [] := by
  simp [FromFold]

theorem FromFold.mono {sources sources' results : List Node}
    (folded : FromFold context sources results) (subset : sources ⊆ sources') :
    FromFold context sources' results := by
  intro result mem
  obtain ⟨source, isSource, spliced⟩ := folded result mem
  exact ⟨source, subset isSource, spliced⟩

/-- Two lists of results, each spliced from sources of its own, can be put together. -/
theorem FromFold.append {sources results sources' results' : List Node}
    (first : FromFold context sources results) (second : FromFold context sources' results') :
    FromFold context (sources ++ sources') (results ++ results') := by
  intro result mem
  rcases List.mem_append.mp mem with mem | mem
  · exact first.mono (List.subset_append_left _ _) result mem
  · exact second.mono (List.subset_append_right _ _) result mem

/-- What holds of the folded sources, and of the statements of a block if it holds of the block, holds of
the results. -/
theorem FromFold.forall_mem {motive : Node → Prop} {sources results : List Node}
    (folded : FromFold context sources results)
    (unblock : ∀ body, motive (.ofStmt (.block body)) → ∀ stmt ∈ body, motive (.ofStmt stmt))
    (each : ∀ source ∈ sources, motive (source.fold context)) : ∀ result ∈ results, motive result := by
  intro result mem
  obtain ⟨source, isSource, same | ⟨body, isBlock, inside⟩⟩ := folded result mem
  · rw [same]
    exact each source isSource
  · obtain ⟨stmt, isStmt, rfl⟩ := List.mem_map.mp inside
    exact unblock body (isBlock ▸ each source isSource) stmt isStmt

/-- A folded expression is spliced from the expression. -/
theorem fromFold_expr (expr : Expr) :
    FromFold context [.ofExpr expr] [.ofExpr (expr.fold context)] := by
  intro result mem
  cases List.mem_singleton.mp mem
  exact ⟨_, List.mem_singleton_self _, .inl rfl⟩

theorem FromFold.cons {expr : Expr} {sources results : List Node}
    (rest : FromFold context sources results) :
    FromFold context (.ofExpr expr :: sources) (.ofExpr (expr.fold context) :: results) :=
  (fromFold_expr expr).append rest

/-! ## Lists of folded parts in order -/

variable (context) in
/-- Whether a list of nodes is what folding leaves of another one: each node of the other list is folded
and then kept, opened if it has become a block, or dropped. -/
inductive Thinned : List Node → List Node → Prop
  | nil : Thinned [] []
  | kept (node : Node) {sources results : List Node} (rest : Thinned sources results) :
    Thinned (node :: sources) (node.fold context :: results)
  | opened {node : Node} {body : List Stmt} {sources results : List Node}
      (isBlock : node.fold context = .ofStmt (.block body)) (rest : Thinned sources results) :
    Thinned (node :: sources) (body.map .ofStmt ++ results)
  | dropped (node : Node) {sources results : List Node} (rest : Thinned sources results) :
    Thinned (node :: sources) results

/-- All nodes may be dropped. -/
theorem thinned_nil : ∀ sources : List Node, Thinned context sources []
  | [] => .nil
  | node :: sources => .dropped node (thinned_nil sources)

/-- What folding leaves of two lists, put together, is left of the two lists put together. -/
theorem Thinned.append {sources results sources' results' : List Node}
    (first : Thinned context sources results) (second : Thinned context sources' results') :
    Thinned context (sources ++ sources') (results ++ results') := by
  induction first with
  | nil => exact second
  | kept node _ ih => exact .kept node ih
  | opened isBlock _ ih =>
    rw [List.append_assoc]
    exact .opened isBlock ih
  | dropped node _ ih => exact .dropped node ih

/-- What is left of a list is spliced from its folded nodes. -/
theorem Thinned.fromFold {sources results : List Node} (thinned : Thinned context sources results) :
    FromFold context sources results := by
  induction thinned with
  | nil => exact fromFold_nil _
  | @kept node sources results _ ih =>
    intro result mem
    rcases List.mem_cons.mp mem with rfl | mem
    · exact ⟨node, List.mem_cons_self, .inl rfl⟩
    · exact ih.mono (List.subset_cons_self _ _) result mem
  | @opened node body _ _ isBlock _ ih =>
    intro result mem
    rcases List.mem_append.mp mem with mem | mem
    · exact ⟨node, List.mem_cons_self, .inr ⟨body, isBlock, mem⟩⟩
    · exact ih.mono (List.subset_cons_self _ _) result mem
  | dropped _ _ ih => exact ih.mono (List.subset_cons_self _ _)

/-- A list of expressions is folded one by one; none is dropped. -/
theorem thinned_exprs (exprs : List Expr) :
    Thinned context (exprs.map .ofExpr) ((Expr.foldAll context exprs).map .ofExpr) := by
  induction exprs with
  | nil => exact .nil
  | cons expr exprs ih => exact .kept (.ofExpr expr) ih

/-- The values of an object literal are folded one by one; none is dropped. -/
theorem thinned_properties (properties : List (String × Expr)) :
    Thinned context (properties.map fun property => .ofExpr property.2)
      ((Expr.foldProperties context properties).map fun property => .ofExpr property.2) := by
  induction properties with
  | nil => exact .nil
  | cons property properties ih => exact .kept (.ofExpr property.2) ih

/-- An expression that may be missing is folded if it is there. -/
theorem thinned_optionExpr (expr : Option Expr) :
    Thinned context (expr.toList.map .ofExpr)
      ((Expr.foldOption context expr).toList.map .ofExpr) := by
  cases expr with
  | none => exact .nil
  | some expr => exact .kept (.ofExpr expr) .nil

/-- What a statement contributes to its list: nothing, its statements if it has become a block, or
itself. -/
theorem Thinned.splice (stmt : Stmt) {sources results : List Node}
    (rest : Thinned context sources results) :
    Thinned context (.ofStmt stmt :: sources)
      ((stmt.fold context).splice.map .ofStmt ++ results) := by
  unfold Stmt.splice
  split
  · exact .dropped _ rest
  · next body isBlock =>
    split
    · rw [← isBlock]
      exact .kept (.ofStmt stmt) rest
    · exact .opened (congrArg ofStmt isBlock) rest
  · exact .kept (.ofStmt stmt) rest

/-- Of a list of statements folding leaves the statements up to the first exit, spliced into the list.
-/
theorem thinned_stmts (stmts : List Stmt) :
    Thinned context (stmts.map .ofStmt) ((Stmt.foldAll context stmts).map .ofStmt) := by
  induction stmts with
  | nil => exact .nil
  | cons stmt stmts ih =>
    rw [Stmt.foldAll, Stmt.foldedCons]
    split
    · -- an exit: the other statements leave nothing
      have others : Thinned context (stmts.map .ofStmt) [] := thinned_nil _
      have leftOver := others.splice stmt
      rwa [List.append_nil] at leftOver
    · rw [List.map_append]
      exact ih.splice stmt

/-- A statement that may be missing is folded if it is there. -/
theorem thinned_optionStmt (stmt : Option Stmt) :
    Thinned context (stmt.toList.map .ofStmt)
      ((Stmt.foldOption context stmt).toList.map .ofStmt) := by
  cases stmt with
  | none => exact .nil
  | some stmt => exact .kept (.ofStmt stmt) .nil

/-- A branch that may be missing is thinned as a list of statements. -/
theorem thinned_branch (branch : Option (List Stmt)) :
    Thinned context ((branch.getD []).map .ofStmt)
      (((Stmt.foldBranch context branch).getD []).map .ofStmt) := by
  cases branch with
  | none => exact .nil
  | some body => exact thinned_stmts body

/-- The body of a handler is thinned as a list of statements. -/
theorem thinned_handler (handler : Option CatchClause) :
    Thinned context ((handler.elim [] CatchClause.body).map .ofStmt)
      (((CatchClause.foldOption context handler).elim [] CatchClause.body).map .ofStmt) := by
  match handler with
  | none => exact .nil
  | some ⟨_, body⟩ => exact thinned_stmts body

/-- The arms of a `switch` statement all stay; the body of each is thinned as a list of statements. -/
theorem thinned_cases (cases : List SwitchCase) :
    Thinned context (cases.flatMap SwitchCase.parts)
      ((SwitchCase.foldAll context cases).flatMap SwitchCase.parts) := by
  induction cases with
  | nil => exact .nil
  | cons arm cases ih =>
    obtain ⟨test, body⟩ := arm
    exact ((thinned_optionExpr test).append (thinned_stmts body)).append ih

/-- Folded expressions are spliced from the expressions. -/
theorem fromFold_exprs (exprs : List Expr) :
    FromFold context (exprs.map .ofExpr) ((Expr.foldAll context exprs).map .ofExpr) :=
  (thinned_exprs exprs).fromFold

theorem fromFold_properties (properties : List (String × Expr)) :
    FromFold context (properties.map fun property => .ofExpr property.2)
      ((Expr.foldProperties context properties).map fun property => .ofExpr property.2) :=
  (thinned_properties properties).fromFold

theorem fromFold_optionExpr (expr : Option Expr) :
    FromFold context (expr.toList.map .ofExpr)
      ((Expr.foldOption context expr).toList.map .ofExpr) :=
  (thinned_optionExpr expr).fromFold

/-- What folding leaves of a list of statements is spliced from the folded statements. -/
theorem fromFold_stmts (stmts : List Stmt) :
    FromFold context (stmts.map .ofStmt) ((Stmt.foldAll context stmts).map .ofStmt) :=
  (thinned_stmts stmts).fromFold

/-! ## Nodes in order -/

variable (context) in
/-- What folding can make of a node, its parts in order. -/
inductive FoldsTo (node : Node) : Node → Prop
  /-- The one part that is left, once the others have decided. -/
  | part {part : Node} (mem : part ∈ node.parts) : FoldsTo node (part.fold context)
  /-- The node itself or a literal, a block or nothing in its place, with what is left of the parts. -/
  | rebuilt {result : Node} (shell : result.shell? = none ∨ result.shell? = node.shell?)
      (parts : Thinned context node.parts result.parts) : FoldsTo node result

/-- Any node may become a boolean literal, which has no parts. -/
theorem foldsTo_bool (node : Node) (value : Bool) : node.FoldsTo context (.ofExpr (.bool value)) :=
  .rebuilt (.inl rfl) (thinned_nil _)

/-- A boolean operator becomes a literal or its right operand if the left operand decides, and stays
otherwise. -/
theorem foldsTo_logical (op : LogicalOp) (left right : Expr) :
    (Node.ofExpr (.logical op left right)).FoldsTo context
      (.ofExpr (Expr.foldedLogical op (left.fold context) (right.fold context))) := by
  have isPart : .ofExpr right ∈ (Node.ofExpr (.logical op left right)).parts := by
    simp [Node.parts, Expr.parts]
  unfold Expr.foldedLogical
  split
  · exact foldsTo_bool _ _
  · exact .part isPart
  · exact foldsTo_bool _ _
  · exact .part isPart
  · exact .rebuilt (.inr rfl) (thinned_exprs [left, right])

/-- The negation of a literal becomes a literal; any other operator stays. -/
theorem foldsTo_unary (op : UnaryOp) (operand : Expr) :
    (Node.ofExpr (.unary op operand)).FoldsTo context
      (.ofExpr (Expr.foldedUnary op (operand.fold context))) := by
  unfold Expr.foldedUnary
  split
  · exact foldsTo_bool _ _
  · exact .rebuilt (.inr rfl) (thinned_exprs [operand])

/-- Parentheses around a literal go, others stay. -/
theorem foldsTo_paren (inner : Expr) :
    (Node.ofExpr (.paren inner)).FoldsTo context
      (.ofExpr (Expr.foldedParen (inner.fold context))) := by
  unfold Expr.foldedParen
  split
  · exact foldsTo_bool _ _
  · exact .rebuilt (.inr rfl) (thinned_exprs [inner])

/-- A conditional expression becomes the operand that its condition selects, and stays if the condition
is not known. -/
theorem foldsTo_conditional (condition whenTrue whenFalse : Expr) :
    (Node.ofExpr (.conditional condition whenTrue whenFalse)).FoldsTo context
      (.ofExpr (Expr.foldedConditional (condition.fold context) (whenTrue.fold context)
        (whenFalse.fold context))) := by
  have truePart : .ofExpr whenTrue ∈
      (Node.ofExpr (.conditional condition whenTrue whenFalse)).parts := by
    simp [Node.parts, Expr.parts]
  have falsePart : .ofExpr whenFalse ∈
      (Node.ofExpr (.conditional condition whenTrue whenFalse)).parts := by
    simp [Node.parts, Expr.parts]
  unfold Expr.foldedConditional
  split
  · exact .part truePart
  · exact .part falsePart
  · exact .rebuilt (.inr rfl) (thinned_exprs [condition, whenTrue, whenFalse])

/-- An `if` statement becomes a block with the branch that its condition selects, nothing if that branch
is missing, and stays if the condition is not known. -/
theorem foldsTo_if (condition : Expr) (thenBranch : List Stmt) (elseBranch : Option (List Stmt)) :
    (Node.ofStmt (.ifElse condition thenBranch elseBranch)).FoldsTo context
      (.ofStmt (Stmt.foldedIf (condition.fold context) (Stmt.foldAll context thenBranch)
        (Stmt.foldBranch context elseBranch))) := by
  have thenParts : Thinned context (thenBranch.map .ofStmt)
      ((Stmt.foldAll context thenBranch).map .ofStmt) := thinned_stmts thenBranch
  have elseParts : Thinned context ((elseBranch.getD []).map .ofStmt)
      (((Stmt.foldBranch context elseBranch).getD []).map .ofStmt) := thinned_branch elseBranch
  unfold Stmt.foldedIf
  split
  -- a known condition: one branch is left as a block, or nothing
  · have leftOver := thenParts.append (thinned_nil ((elseBranch.getD []).map .ofStmt))
    rw [List.append_nil] at leftOver
    exact .rebuilt (.inl rfl) (.dropped _ leftOver)
  · next body _ isBody =>
    rw [isBody] at elseParts
    exact .rebuilt (.inl rfl) (.dropped _ ((thinned_nil (thenBranch.map .ofStmt)).append elseParts))
  · exact .rebuilt (.inl rfl) (thinned_nil _)
  · exact .rebuilt (.inr rfl) (.kept (.ofExpr condition) (thenParts.append elseParts))

/-- An object literal keeps its names. -/
theorem foldsTo_object (properties : List (String × Expr)) :
    (Node.ofExpr (.object properties)).FoldsTo context
      (.ofExpr (.object (Expr.foldProperties context properties))) := by
  have names : (Expr.foldProperties context properties).map (fun property =>
      (property.1, Expr.undefined)) = properties.map fun property => (property.1, .undefined) := by
    induction properties with
    | nil => rfl
    | cons property properties ih => rw [Expr.foldProperties, List.map_cons, ih, List.map_cons]
  refine .rebuilt (.inr ?_) (thinned_properties properties)
  simp only [shell?, Expr.shell, names]

/-- A `try` statement keeps its handler and its finalizer, with what folding leaves of the three bodies.
-/
theorem foldsTo_try (body : List Stmt) (handler : Option CatchClause)
    (finalizer : Option (List Stmt)) :
    (Node.ofStmt (.tryCatch body handler finalizer)).FoldsTo context
      (.ofStmt ((Stmt.tryCatch body handler finalizer).fold context)) := by
  have sameShell : (CatchClause.foldOption context handler).map CatchClause.shell =
      handler.map CatchClause.shell := by
    match handler with
    | none | some ⟨_, _⟩ => rfl
  refine .rebuilt (.inr ?_) ((thinned_stmts body).append
    ((thinned_handler handler).append (thinned_branch finalizer)))
  simp only [Stmt.fold, shell?, Stmt.shell, sameShell]

/-- The expressions, one kind after the other. -/
theorem foldsTo_expr (expr : Expr) :
    (Node.ofExpr expr).FoldsTo context (.ofExpr (expr.fold context)) := by
  cases expr with
  | undefined | null | bool | number | string | ident | this => exact .rebuilt (.inr rfl) .nil
  | template _ exprs | array exprs => exact .rebuilt (.inr rfl) (thinned_exprs exprs)
  | member inner | spread inner | cast inner | nonNull inner =>
    exact .rebuilt (.inr rfl) (thinned_exprs [inner])
  | index first second | binary _ first second | compare _ first second | assign first second =>
    exact .rebuilt (.inr rfl) (thinned_exprs [first, second])
  | call callee typeArgs args signature =>
    rw [Expr.fold]
    split
    · exact foldsTo_bool _ _
    · exact .rebuilt (.inr rfl) (thinned_exprs (callee :: args))
  | new callee typeArgs args signature =>
    exact .rebuilt (.inr rfl) (thinned_exprs (callee :: args))
  | logical op left right => exact foldsTo_logical op left right
  | unary op operand => exact foldsTo_unary op operand
  | conditional condition whenTrue whenFalse =>
    exact foldsTo_conditional condition whenTrue whenFalse
  | object properties => exact foldsTo_object properties
  | paren inner => exact foldsTo_paren inner
  | closure params body => exact .rebuilt (.inr rfl) (thinned_stmts body)

/-- The statements, one kind after the other. -/
theorem foldsTo_stmt (stmt : Stmt) :
    (Node.ofStmt stmt).FoldsTo context (.ofStmt (stmt.fold context)) := by
  cases stmt with
  | breakLoop | continueLoop | empty => exact .rebuilt (.inr rfl) .nil
  | letDecl _ _ _ _ value | ret value => exact .rebuilt (.inr rfl) (thinned_optionExpr value)
  | expr value | throw value => exact .rebuilt (.inr rfl) (thinned_exprs [value])
  | ifElse condition thenBranch elseBranch => exact foldsTo_if condition thenBranch elseBranch
  | whileLoop condition body =>
    exact .rebuilt (.inr rfl) (.kept (.ofExpr condition) (thinned_stmts body))
  | forLoop init condition update body =>
    exact .rebuilt (.inr rfl) ((thinned_optionStmt init).append
      ((thinned_optionExpr condition).append
        ((thinned_optionExpr update).append (thinned_stmts body))))
  | tryCatch body handler finalizer => exact foldsTo_try body handler finalizer
  | switch discriminant cases =>
    exact .rebuilt (.inr rfl) (.kept (.ofExpr discriminant) (thinned_cases cases))
  | block body => exact .rebuilt (.inr rfl) (thinned_stmts body)

/-- Folding makes of a node what it can, with the parts in order. -/
theorem foldsTo_fold (node : Node) : node.FoldsTo context (node.fold context) := by
  cases node with
  | ofExpr expr => exact foldsTo_expr expr
  | ofStmt stmt => exact foldsTo_stmt stmt

/-! ## Nodes -/

/-- Whether a node is a call. -/
def IsCall : Node → Prop
  | .ofExpr (.call ..) => True
  | _ => False

/-- Whether a node is an identifier. -/
def IsIdent : Node → Prop
  | .ofExpr (.ident ..) => True
  | _ => False

variable (context) in
/-- What folding can make of a node. -/
inductive Folded (node : Node) : Node → Prop
  /-- An answered type test, or an operator whose operands decide it. -/
  | literal (value : Bool) : Folded node (.ofExpr (.bool value))
  /-- The one part that is left, once the others have decided. -/
  | part {part : Node} (notCall : ¬ node.IsCall) (mem : part ∈ node.parts) :
    Folded node (part.fold context)
  /-- A call that is not an answered type test. -/
  | call {callee : Expr} {typeArgs : List DeclaredType} {args : List Expr}
      {signature : Option DeclHandle}
      (isCall : node = .ofExpr (.call callee typeArgs args signature))
      (unanswered : context.answer? (.call callee typeArgs args signature) = none) :
    Folded node
      (.ofExpr (.call (callee.fold context) typeArgs (Expr.foldAll context args) signature))
  /-- Any other node; no identifier is made up. -/
  | rebuilt {result : Node} (notCall : ¬ node.IsCall) (stillNotCall : ¬ result.IsCall)
      (ident : result.IsIdent → node = result)
      (parts : FromFold context node.parts result.parts) : Folded node result

/-- A call is told by its shell. -/
theorem isCall_iff {node : Node} :
    node.IsCall ↔ ∃ typeArgs signature,
      node.shell? = some (.ofExpr (.call .undefined typeArgs [] signature)) := by
  match node with
  | .ofExpr expr => cases expr <;> simp [IsCall, shell?, Expr.shell]
  | .ofStmt stmt => cases stmt <;> simp [IsCall, shell?, Stmt.shell]

/-- An identifier is its shell. -/
theorem shell?_eq_ident_iff {node : Node} {name : String} {decl : Option DeclHandle} :
    node.shell? = some (.ofExpr (.ident name decl)) ↔ node = .ofExpr (.ident name decl) := by
  match node with
  | .ofExpr expr => cases expr <;> simp [shell?, Expr.shell]
  | .ofStmt stmt => cases stmt <;> simp [shell?, Stmt.shell]

/-- A call is answered or keeps its place, with the callee and the arguments folded. -/
theorem folded_call (callee : Expr) (typeArgs : List DeclaredType) (args : List Expr)
    (signature : Option DeclHandle) :
    (Node.ofExpr (.call callee typeArgs args signature)).Folded context
      (.ofExpr ((Expr.call callee typeArgs args signature).fold context)) := by
  rw [Expr.fold]
  split
  · exact .literal _
  · next unanswered => exact .call rfl unanswered

/-- For a node other than a call, what is said with the parts in order implies what is said without. -/
theorem FoldsTo.folded {node result : Node} (folds : node.FoldsTo context result)
    (notCall : ¬ node.IsCall) : node.Folded context result := by
  cases folds with
  | part mem => exact .part notCall mem
  | rebuilt shell parts =>
    -- a result that has a shell has that of the node
    have same {made : Node} (isShell : result.shell? = some made) : node.shell? = some made := by
      rcases shell with none | same
      · rw [none] at isShell
        cases isShell
      · rw [← same, isShell]
    refine .rebuilt notCall (fun isCall => ?_) (fun isIdent => ?_) parts.fromFold
    · obtain ⟨typeArgs, signature, isShell⟩ := isCall_iff.mp isCall
      exact notCall (isCall_iff.mpr ⟨typeArgs, signature, same isShell⟩)
    · unfold IsIdent at isIdent
      split at isIdent
      · exact shell?_eq_ident_iff.mp (same rfl)
      · cases isIdent

/-- Folding makes of a node what it can. -/
theorem folded_fold (node : Node) : node.Folded context (node.fold context) := by
  by_cases isCall : node.IsCall
  · unfold IsCall at isCall
    split at isCall
    · exact folded_call _ _ _ _
    · cases isCall
  · exact (foldsTo_fold node).folded isCall

/-- Each node inside a folded node is itself the folded form of a node. -/
theorem exists_of_within_fold {node inner : Node} (within : inner.Within (node.fold context)) :
    ∃ outer : Node, outer.Within node ∧ outer.fold context = inner := by
  induction node using Node.induction with
  | step node ih =>
    -- a part of the result is a folded part, or stands in the block that a folded part is
    have ofParts {results : List Node} (spliced : FromFold context node.parts results)
        {result : Node} (isResult : result ∈ results) (inResult : inner.Within result) :
        ∃ outer : Node, outer.Within node ∧ outer.fold context = inner := by
      obtain ⟨source, isPart, fromSource⟩ := spliced result isResult
      have inFold : inner.Within (source.fold context) := by
        rcases fromSource with same | ⟨body, isBlock, inBody⟩
        · rwa [← same]
        · rw [isBlock]
          exact inResult.tail inBody
      obtain ⟨outer, inSource, folds⟩ := ih source isPart inFold
      exact ⟨outer, inSource.tail isPart, folds⟩
    rcases within.cases_tail with same | ⟨result, inResult, isResult⟩
    · exact ⟨node, .refl, same⟩
    · have folded : node.Folded context (node.fold context) := folded_fold node
      generalize node.fold context = whole at folded isResult
      cases folded with
      | literal value => cases isResult
      | @part source _ isPart =>
        obtain ⟨outer, inSource, folds⟩ := ih source isPart (inResult.tail isResult)
        exact ⟨outer, inSource.tail isPart, folds⟩
      | @call callee _ args _ isCall _ =>
        subst isCall
        exact ofParts (fromFold_exprs args).cons isResult inResult
      | rebuilt _ _ _ parts => exact ofParts parts isResult inResult

end Node

end Overloading
