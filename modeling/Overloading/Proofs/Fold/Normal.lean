import Overloading.Proofs.Fold

/-! # Folded bodies are in normal form

A body is in normal form if folding left nothing to tidy up and nothing to decide, at any depth: its
statement lists hold no empty statement, no block that binds no local, and nothing after a statement that
always exits; and no boolean literal stands where it would decide a condition or an operator.

Each constructor function of folding makes a node that is normal in itself (`Node.normal_fold`), provided
that the parts are. Normality at every depth follows by induction over the parts. -/

namespace Overloading

/-! ## Normal form -/

/-- Whether nothing is left to tidy up in a statement list. -/
structure Stmt.Tidy (stmts : List Stmt) : Prop where
  /-- No statement is empty. -/
  no_empty : .empty ∉ stmts
  /-- Each block binds a local. -/
  blocks_bind : ∀ body, .block body ∈ stmts → ∃ stmt ∈ body, stmt.isLet = true
  /-- No statement always exits, except for the last. -/
  exits_last : ∀ stmt ∈ stmts.dropLast, stmt.alwaysExits = false

/-- The statements of an arm. -/
def SwitchCase.body : SwitchCase → List Stmt
  | ⟨_, body⟩ => body

namespace Node

/-- The statement lists that are fields of a node: branches, loop bodies, the three bodies of a `try`
statement, the bodies of arms, of blocks and of closures. -/
def stmtLists : Node → List (List Stmt)
  | .ofExpr (.closure _ body) => [body]
  | .ofStmt (.ifElse _ thenBranch elseBranch) => thenBranch :: elseBranch.toList
  | .ofStmt (.whileLoop _ body) => [body]
  | .ofStmt (.forLoop _ _ _ body) => [body]
  | .ofStmt (.tryCatch body handler finalizer) =>
    body :: (handler.toList.map CatchClause.body ++ finalizer.toList)
  | .ofStmt (.switch _ cases) => cases.map SwitchCase.body
  | .ofStmt (.block body) => [body]
  | _ => []

/-- The expressions that decide a node, or lose their parentheses, where they are boolean literals. -/
def deciders : Node → List Expr
  | .ofStmt (.ifElse condition _ _) => [condition]
  | .ofExpr (.conditional condition _ _) => [condition]
  | .ofExpr (.logical .and left _) => [left]
  | .ofExpr (.logical .or left _) => [left]
  | .ofExpr (.unary .not operand) => [operand]
  | .ofExpr (.paren inner) => [inner]
  | _ => []

/-- Whether a node is in normal form, apart from what stands inside its parts. -/
structure Normal (node : Node) : Prop where
  tidy : ∀ stmts ∈ node.stmtLists, Stmt.Tidy stmts
  undecided : ∀ expr ∈ node.deciders, expr.boolLiteral? = none

/-- Whether all nodes inside a node are in normal form. -/
def NormalWithin (node : Node) : Prop := ∀ inner : Node, inner.Within node → inner.Normal

end Node

/-- Whether a body is in normal form at every depth. -/
def Stmt.NormalBody (body : List Stmt) : Prop :=
  Stmt.Tidy body ∧ ∀ stmt ∈ body, (Node.ofStmt stmt).NormalWithin

/-! ## Statement lists -/

namespace Stmt

theorem tidy_nil : Stmt.Tidy [] := by
  constructor <;> simp

/-- A tidy list that does not end in an exit has no exit at all. -/
theorem Tidy.not_alwaysExits {stmts : List Stmt} (tidy : Stmt.Tidy stmts)
    (runsOn : Stmt.endsInExit stmts = false) : ∀ stmt ∈ stmts, stmt.alwaysExits = false := by
  intro stmt mem
  have nonempty : stmts ≠ [] := List.ne_nil_of_mem mem
  rw [← List.dropLast_concat_getLast nonempty, List.mem_append, List.mem_singleton] at mem
  rcases mem with earlier | rfl
  · exact tidy.exits_last stmt earlier
  · simpa [Stmt.endsInExit, List.getLast?_eq_some_getLast nonempty] using runsOn

/-- Two tidy lists make up a tidy one if the first does not end in an exit. -/
theorem Tidy.append {stmts others : List Stmt} (first : Stmt.Tidy stmts) (second : Stmt.Tidy others)
    (runsOn : Stmt.endsInExit stmts = false) : Stmt.Tidy (stmts ++ others) where
  no_empty mem := by
    rcases List.mem_append.mp mem with mem | mem
    · exact first.no_empty mem
    · exact second.no_empty mem
  blocks_bind body mem := by
    rcases List.mem_append.mp mem with mem | mem
    · exact first.blocks_bind body mem
    · exact second.blocks_bind body mem
  exits_last stmt mem := by
    rw [List.dropLast_append] at mem
    split at mem
    · exact first.exits_last stmt mem
    · -- the last statement of the first list is not the last one any more
      rcases List.mem_append.mp mem with mem | mem
      · exact first.not_alwaysExits runsOn stmt mem
      · exact second.exits_last stmt mem

/-- What a statement contributes to its list is tidy, if it is so inside the block that the statement
may be. -/
theorem tidy_splice {stmt : Stmt} (normal : (Node.ofStmt stmt).Normal) : Stmt.Tidy stmt.splice := by
  cases stmt with
  | empty => exact tidy_nil
  | block body =>
    rw [splice]
    split
    · next binds =>
      -- a block that binds a local stays, and is the only statement
      have isLet : ∃ stmt ∈ body, stmt.isLet = true := List.any_eq_true.mp binds
      constructor
      · simp
      · simpa using isLet
      · simp
    · exact normal.tidy body (List.mem_singleton_self body)
  | _ => constructor <;> simp [splice]

/-- A folded list is tidy if its folded statements are in normal form. -/
theorem tidy_foldAll {context : FoldContext} {stmts : List Stmt}
    (each : ∀ stmt ∈ stmts, (Node.ofStmt (stmt.fold context)).Normal) :
    Stmt.Tidy (Stmt.foldAll context stmts) := by
  induction stmts with
  | nil => exact tidy_nil
  | cons stmt stmts ih =>
    obtain ⟨first, others⟩ := List.forall_mem_cons.mp each
    rw [foldAll, foldedCons]
    split
    · exact tidy_splice first
    · next runsOn =>
      exact (tidy_splice first).append (ih others) (Bool.not_eq_true _ ▸ runsOn)

end Stmt

/-! ## Nodes -/

/-- In a normal expression a boolean literal stands without parentheses. -/
theorem Expr.eq_bool_of_normal {expr : Expr} {value : Bool} (normal : (Node.ofExpr expr).Normal)
    (literal : expr.boolLiteral? = some value) : expr = .bool value := by
  cases expr with
  | bool other => simpa [boolLiteral?] using literal
  | paren inner =>
    have undecided : inner.boolLiteral? = none := normal.undecided inner (List.mem_singleton_self inner)
    rw [boolLiteral?, undecided] at literal
    cases literal
  | _ => cases literal

namespace Node

variable {context : FoldContext}

theorem normal_bool (value : Bool) : (Node.ofExpr (.bool value)).Normal :=
  ⟨List.forall_mem_nil _, List.forall_mem_nil _⟩

/-- A node without statement lists is normal, once nothing decides it. -/
theorem normal_of_undecided {node : Node} {expr : Expr} (noLists : node.stmtLists = [])
    (decider : node.deciders = [expr]) (undecided : expr.boolLiteral? = none) : node.Normal where
  tidy := by simp [noLists]
  undecided := by simpa [decider] using undecided

/-- What is left of a boolean operator is in normal form. -/
theorem normal_foldedLogical (op : LogicalOp) (left : Expr) {right : Expr}
    (rightNormal : (Node.ofExpr right).Normal) :
    (Node.ofExpr (Expr.foldedLogical op left right)).Normal := by
  unfold Expr.foldedLogical
  -- only a known left operand decides, and a `coalesce` is never decided
  cases known : left.boolLiteral? with
  | none =>
    cases op with
    | and | or => exact normal_of_undecided rfl rfl known
    | coalesce => exact ⟨List.forall_mem_nil _, List.forall_mem_nil _⟩
  | some value =>
    cases op with
    | and =>
      cases value with
      | false => exact normal_bool false
      | true => exact rightNormal
    | or =>
      cases value with
      | false => exact rightNormal
      | true => exact normal_bool true
    | coalesce => exact ⟨List.forall_mem_nil _, List.forall_mem_nil _⟩

/-- What is left of an operator on one operand is in normal form. -/
theorem normal_foldedUnary (op : UnaryOp) (operand : Expr) :
    (Node.ofExpr (Expr.foldedUnary op operand)).Normal := by
  unfold Expr.foldedUnary
  cases op with
  | not =>
    cases known : operand.boolLiteral? with
    | none => exact normal_of_undecided rfl rfl known
    | some value => exact normal_bool _
  | neg | bitNot | pos | typeOf => exact ⟨List.forall_mem_nil _, List.forall_mem_nil _⟩

/-- Only a literal without parentheses loses the ones around it, but in a normal expression there is no
other. -/
theorem normal_foldedParen {inner : Expr} (innerNormal : (Node.ofExpr inner).Normal) :
    (Node.ofExpr inner.foldedParen).Normal := by
  unfold Expr.foldedParen
  split
  · exact normal_bool _
  · next notBool =>
    refine normal_of_undecided rfl rfl ?_
    cases known : inner.boolLiteral? with
    | none => rfl
    | some value => exact absurd (Expr.eq_bool_of_normal innerNormal known) (notBool value)

/-- What is left of a conditional expression is in normal form. -/
theorem normal_foldedConditional (condition : Expr) {whenTrue whenFalse : Expr}
    (trueNormal : (Node.ofExpr whenTrue).Normal) (falseNormal : (Node.ofExpr whenFalse).Normal) :
    (Node.ofExpr (Expr.foldedConditional condition whenTrue whenFalse)).Normal := by
  unfold Expr.foldedConditional
  split
  · exact trueNormal
  · exact falseNormal
  · next unknown => exact normal_of_undecided rfl rfl unknown

/-- A node that nothing can decide is normal, once its statement lists are tidy. -/
theorem normal_of_tidy {node : Node} (noDeciders : node.deciders = [])
    (tidy : ∀ stmts ∈ node.stmtLists, Stmt.Tidy stmts) : node.Normal where
  tidy := tidy
  undecided := by simp [noDeciders]

/-- What is left of an `if` statement is in normal form if its branches are tidy. -/
theorem normal_foldedIf (condition : Expr) {thenBranch : List Stmt} {elseBranch : Option (List Stmt)}
    (thenTidy : Stmt.Tidy thenBranch) (elseTidy : ∀ body ∈ elseBranch, Stmt.Tidy body) :
    (Node.ofStmt (Stmt.foldedIf condition thenBranch elseBranch)).Normal := by
  unfold Stmt.foldedIf
  split
  · exact normal_of_tidy rfl (List.forall_mem_singleton.mpr thenTidy)
  · exact normal_of_tidy rfl (List.forall_mem_singleton.mpr (elseTidy _ rfl))
  · exact normal_of_tidy rfl (List.forall_mem_nil _)
  · next unknown =>
    refine ⟨List.forall_mem_cons.mpr ⟨thenTidy, ?_⟩, List.forall_mem_singleton.mpr unknown⟩
    simpa using elseTidy

/-! ## Folding -/

/-- Folding makes an expression that is normal in itself, if it does so for the parts. -/
theorem normal_fold_expr {expr : Expr} (parts : ∀ part ∈ expr.parts, (part.fold context).Normal) :
    (Node.ofExpr (expr.fold context)).Normal := by
  cases expr with
  | call callee typeArgs args signature =>
    rw [Expr.fold]
    split
    · exact normal_bool _
    · exact normal_of_tidy rfl (List.forall_mem_nil _)
  | logical op left right =>
    exact normal_foldedLogical op _ (parts (.ofExpr right) (by simp [Expr.parts]))
  | unary op operand => exact normal_foldedUnary op _
  | conditional condition whenTrue whenFalse =>
    exact normal_foldedConditional _ (parts (.ofExpr whenTrue) (by simp [Expr.parts]))
      (parts (.ofExpr whenFalse) (by simp [Expr.parts]))
  | paren inner => exact normal_foldedParen (parts (.ofExpr inner) (by simp [Expr.parts]))
  | closure params body =>
    have tidy : Stmt.Tidy (Stmt.foldAll context body) :=
      Stmt.tidy_foldAll fun stmt mem => parts (.ofStmt stmt) (List.mem_map_of_mem mem)
    exact normal_of_tidy rfl (List.forall_mem_singleton.mpr tidy)
  | _ => exact normal_of_tidy rfl (List.forall_mem_nil _)

/-- The statements of a list that is a field of a node are parts of the node. -/
theorem mem_parts_of_mem_stmtLists {node : Node} {stmts : List Stmt} (isList : stmts ∈ node.stmtLists)
    {stmt : Stmt} (mem : stmt ∈ stmts) : .ofStmt stmt ∈ node.parts := by
  unfold stmtLists at isList
  split at isList
  -- closures
  · simp_all [Node.parts, Expr.parts]
  -- branches and loops
  · simp only [List.mem_cons, Option.mem_toList] at isList
    rcases isList with rfl | rfl <;> simp [Node.parts, Stmt.parts, mem]
  · simp_all [Node.parts, Stmt.parts]
  · simp_all [Node.parts, Stmt.parts]
  -- a `try` statement: its body, its handler, its finalizer
  · simp only [List.mem_cons, List.mem_append, List.mem_map, Option.mem_toList] at isList
    rcases isList with rfl | ⟨handler, rfl, rfl⟩ | rfl <;> simp [Node.parts, Stmt.parts, mem]
  -- arms and blocks
  · obtain ⟨⟨test, body⟩, isArm, rfl⟩ := List.mem_map.mp isList
    have inArm : .ofStmt stmt ∈ SwitchCase.parts ⟨test, body⟩ :=
      List.mem_append_right _ (List.mem_map_of_mem mem)
    exact List.mem_cons_of_mem _ (List.mem_flatMap.mpr ⟨_, isArm, inArm⟩)
  · simp_all [Node.parts, Stmt.parts]
  · cases isList

/-- The three bodies of a `try` statement are folded one by one. -/
theorem stmtLists_fold_tryCatch (body : List Stmt) (handler : Option CatchClause)
    (finalizer : Option (List Stmt)) :
    (Node.ofStmt ((Stmt.tryCatch body handler finalizer).fold context)).stmtLists =
      (Node.ofStmt (.tryCatch body handler finalizer)).stmtLists.map (Stmt.foldAll context) := by
  match handler, finalizer with
  | none, none | none, some _ | some ⟨_, _⟩, none | some ⟨_, _⟩, some _ => rfl

/-- The bodies of the arms of a `switch` statement are folded one by one. -/
theorem stmtLists_fold_switch (discriminant : Expr) (cases : List SwitchCase) :
    (Node.ofStmt ((Stmt.switch discriminant cases).fold context)).stmtLists =
      (Node.ofStmt (.switch discriminant cases)).stmtLists.map (Stmt.foldAll context) := by
  simp only [Stmt.fold, stmtLists, List.map_map]
  induction cases with
  | nil => rfl
  | cons arm cases ih =>
    obtain ⟨test, body⟩ := arm
    rw [SwitchCase.foldAll, List.map_cons, ih]
    rfl

/-- Folding makes a statement that is normal in itself, if it does so for the parts. -/
theorem normal_fold_stmt {stmt : Stmt} (parts : ∀ part ∈ stmt.parts, (part.fold context).Normal) :
    (Node.ofStmt (stmt.fold context)).Normal := by
  have tidy : ∀ stmts ∈ (Node.ofStmt stmt).stmtLists, Stmt.Tidy (Stmt.foldAll context stmts) :=
    fun stmts isList => Stmt.tidy_foldAll fun inner mem =>
      parts (.ofStmt inner) (mem_parts_of_mem_stmtLists isList mem)
  -- Every statement list of the result is a folded list, so it is tidy; only `if` needs to be decided
  -- as well.
  cases stmt with
  | letDecl | expr | ret | breakLoop | continueLoop | throw | empty =>
    exact normal_of_tidy rfl (List.forall_mem_nil _)
  | ifElse condition thenBranch elseBranch =>
    obtain ⟨thenTidy, elseTidy⟩ := List.forall_mem_cons.mp tidy
    refine normal_foldedIf _ thenTidy ?_
    cases elseBranch with
    | none => simp [Stmt.foldBranch]
    | some body => simpa [Stmt.foldBranch] using elseTidy
  | whileLoop _ body | forLoop _ _ _ body | block body =>
    exact normal_of_tidy rfl (List.forall_mem_singleton.mpr (tidy body (List.mem_singleton_self body)))
  | tryCatch body handler finalizer =>
    refine normal_of_tidy rfl ?_
    rw [stmtLists_fold_tryCatch]
    exact List.forall_mem_map.mpr tidy
  | switch discriminant cases =>
    refine normal_of_tidy rfl ?_
    rw [stmtLists_fold_switch]
    exact List.forall_mem_map.mpr tidy

/-- All nodes inside a node are in normal form iff the node is and all nodes inside its parts are. -/
theorem normalWithin_iff {node : Node} :
    node.NormalWithin ↔ node.Normal ∧ ∀ part ∈ node.parts, part.NormalWithin := by
  constructor
  · intro normal
    exact ⟨normal node .refl, fun part mem inner within => normal inner (within.tail mem)⟩
  · rintro ⟨self, parts⟩ inner within
    -- the last step of the way out of the inner node leads from a part to the node
    rcases within.cases_tail with rfl | ⟨part, inPart, mem⟩
    · exact self
    · exact parts part mem inner inPart

/-- What is spliced from nodes in normal form is in normal form at every depth. -/
theorem FromFold.normalWithin {sources results : List Node}
    (spliced : FromFold context sources results)
    (folded : ∀ source ∈ sources, (source.fold context).NormalWithin) :
    ∀ result ∈ results, result.NormalWithin :=
  spliced.forall_mem (fun _ normal stmt mem => (normalWithin_iff.mp normal).2 (.ofStmt stmt)
    (List.mem_map_of_mem mem)) folded

/-- Folding makes nodes that are normal at every depth. -/
theorem normalWithin_fold (node : Node) : (node.fold context).NormalWithin := by
  induction node using Node.induction with
  | step node ih =>
    have normal : (node.fold context).Normal := by
      have parts : ∀ part ∈ node.parts, (part.fold context).Normal :=
        fun part mem => (normalWithin_iff.mp (ih part mem)).1
      cases node with
      | ofExpr expr => exact normal_fold_expr parts
      | ofStmt stmt => exact normal_fold_stmt parts
    -- what is left are the parts of the result, which are spliced from folded parts
    have folded : node.Folded context (node.fold context) := folded_fold node
    generalize node.fold context = result at folded normal ⊢
    cases folded with
    | literal value => exact normalWithin_iff.mpr ⟨normal, List.forall_mem_nil _⟩
    | part _ mem => exact ih _ mem
    | @call callee _ args _ isCall _ =>
      subst isCall
      have parts : FromFold context (.ofExpr callee :: args.map .ofExpr)
          (.ofExpr (callee.fold context) :: (Expr.foldAll context args).map .ofExpr) :=
        (fromFold_exprs args).cons
      exact normalWithin_iff.mpr ⟨normal, parts.normalWithin ih⟩
    | rebuilt _ _ _ parts => exact normalWithin_iff.mpr ⟨normal, parts.normalWithin ih⟩

end Node

/-- **Folded bodies are in normal form at every depth.** The body and every statement list inside it hold
no empty statement, no block that binds no local, and nothing after a statement that always exits; no
condition, no left operand of `&&` or `||`, no operand of `!` and nothing in parentheses is a boolean
literal. -/
theorem Stmt.normalBody_foldAll (context : FoldContext) (body : List Stmt) :
    Stmt.NormalBody (Stmt.foldAll context body) := by
  constructor
  · exact tidy_foldAll fun stmt _ =>
      (Node.normalWithin_iff.mp (Node.normalWithin_fold (.ofStmt stmt))).1
  · have inside : ∀ node ∈ (Stmt.foldAll context body).map Node.ofStmt, node.NormalWithin :=
      (Node.fromFold_stmts body).normalWithin fun source _ => Node.normalWithin_fold source
    exact fun stmt mem => inside (.ofStmt stmt) (List.mem_map_of_mem mem)

end Overloading
