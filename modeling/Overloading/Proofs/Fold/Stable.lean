import Mathlib.Data.Finset.Card
import Overloading.Proofs.Fold.Normal
import Overloading.Proofs.Meaning.Fold
import Overloading.Proofs.Tree

/-! # Folding a folded body

Folding once is enough, up to type tests that it brings about: `isType<T>(true ? x : y)` is no type test,
but what it folds to is one. `Stmt.foldAll_stable_iff` says that this is the only reason for which a
folded body may change when it is folded again.

* `Node.fold_eq_self`: what is in normal form and has no type test to answer stays as it is. Each
  constructor function of folding gives back a normal node (`Node.foldedLogical_eq` to
  `Node.foldedIf_eq`), and a tidy list has nothing to drop and nothing to splice.
* `Node.answer?_eq_none_of_fold_eq_self`: what stays as it is has no type test to answer. -/

namespace Overloading

variable {context : FoldContext}

/-! ## Lists of parts -/

/-- A list of expressions that fold to themselves folds to itself. -/
theorem Expr.foldAll_eq_self {exprs : List Expr} (same : ∀ expr ∈ exprs, expr.fold context = expr) :
    Expr.foldAll context exprs = exprs := by
  induction exprs with
  | nil => rfl
  | cons expr exprs ih =>
    obtain ⟨first, others⟩ := List.forall_mem_cons.mp same
    rw [foldAll, first, ih others]

/-- The properties of an object literal fold to themselves if their values do. -/
theorem Expr.foldProperties_eq_self {properties : List (String × Expr)}
    (same : ∀ property ∈ properties, property.2.fold context = property.2) :
    Expr.foldProperties context properties = properties := by
  induction properties with
  | nil => rfl
  | cons property properties ih =>
    obtain ⟨first, others⟩ := List.forall_mem_cons.mp same
    rw [foldProperties, first, ih others]

/-- An expression that may be missing folds to itself if it does so where it is there. -/
theorem Expr.foldOption_eq_self {expr : Option Expr}
    (same : ∀ inner ∈ expr, inner.fold context = inner) : Expr.foldOption context expr = expr := by
  cases expr with
  | none => rfl
  | some expr => rw [foldOption, same expr rfl]

namespace Stmt

/-- A statement that is neither empty nor a block without locals stands in its list as it is. -/
theorem splice_eq_singleton {stmt : Stmt} (notEmpty : stmt ≠ .empty)
    (binds : ∀ body, stmt = .block body → ∃ inner ∈ body, inner.isLet = true) :
    stmt.splice = [stmt] := by
  cases stmt with
  | empty => exact absurd rfl notEmpty
  | block body =>
    have hasLet : body.any Stmt.isLet = true := List.any_eq_true.mpr (binds body rfl)
    rw [splice, if_pos hasLet]
  | _ => rfl

/-- What follows the first statement of a tidy list is tidy. -/
theorem Tidy.tail {stmt : Stmt} {stmts : List Stmt} (tidy : Stmt.Tidy (stmt :: stmts)) :
    Stmt.Tidy stmts where
  no_empty mem := tidy.no_empty (List.mem_cons_of_mem _ mem)
  blocks_bind body mem := tidy.blocks_bind body (List.mem_cons_of_mem _ mem)
  exits_last inner mem := by
    cases stmts with
    | nil => cases mem
    | cons next stmts => exact tidy.exits_last inner (List.mem_cons_of_mem _ mem)

/-- In a tidy list there is nothing to drop and nothing to splice. -/
theorem foldAll_eq_self {stmts : List Stmt} (tidy : Stmt.Tidy stmts)
    (same : ∀ stmt ∈ stmts, stmt.fold context = stmt) : Stmt.foldAll context stmts = stmts := by
  induction stmts with
  | nil => rfl
  | cons stmt stmts ih =>
    obtain ⟨first, others⟩ := List.forall_mem_cons.mp same
    have spliced : stmt.splice = [stmt] := by
      refine splice_eq_singleton ?_ fun body isBlock => tidy.blocks_bind body ?_
      · rintro rfl
        exact tidy.no_empty List.mem_cons_self
      · rw [isBlock]
        exact List.mem_cons_self
    rw [foldAll, first, ih tidy.tail others, foldedCons, spliced]
    cases stmts with
    | nil => rw [List.append_nil, ite_self]
    | cons next stmts =>
      -- a statement before others does not exit
      have runsOn : stmt.alwaysExits = false := tidy.exits_last stmt List.mem_cons_self
      simp [endsInExit, runsOn]

/-- A statement that may be missing folds to itself if it does so where it is there. -/
theorem foldOption_eq_self {stmt : Option Stmt} (same : ∀ inner ∈ stmt, inner.fold context = inner) :
    Stmt.foldOption context stmt = stmt := by
  cases stmt with
  | none => rfl
  | some stmt => rw [foldOption, same stmt rfl]

/-- A branch that may be missing folds to itself if its statements do so where it is there. -/
theorem foldBranch_eq_self {branch : Option (List Stmt)}
    (same : ∀ body ∈ branch, Stmt.foldAll context body = body) :
    Stmt.foldBranch context branch = branch := by
  cases branch with
  | none => rfl
  | some body => rw [foldBranch, same body rfl]

end Stmt

/-- A handler that may be missing folds to itself if its body does so where it is there. -/
theorem CatchClause.foldOption_eq_self {handler : Option CatchClause}
    (same : ∀ clause ∈ handler, Stmt.foldAll context clause.body = clause.body) :
    CatchClause.foldOption context handler = handler := by
  match handler with
  | none => rfl
  | some ⟨param, body⟩ =>
    have sameBody : Stmt.foldAll context body = body := same ⟨param, body⟩ rfl
    rw [foldOption, sameBody]

/-- The arms of a `switch` statement fold to themselves if their tests and their bodies do. -/
theorem SwitchCase.foldAll_eq_self {cases : List SwitchCase}
    (sameTests : ∀ expr, .ofExpr expr ∈ cases.flatMap SwitchCase.parts → expr.fold context = expr)
    (sameBodies : ∀ arm ∈ cases, Stmt.foldAll context arm.body = arm.body) :
    SwitchCase.foldAll context cases = cases := by
  induction cases with
  | nil => rfl
  | cons arm cases ih =>
    obtain ⟨test, body⟩ := arm
    -- the test is a part of the node, the body a list of it
    obtain ⟨first, others⟩ := List.forall_mem_cons.mp sameBodies
    have sameBody : Stmt.foldAll context body = body := first
    have sameTest : Expr.foldOption context test = test := by
      refine Expr.foldOption_eq_self fun expr isTest => sameTests expr ?_
      simp [SwitchCase.parts, Option.mem_def.mp isTest]
    have rest : SwitchCase.foldAll context cases = cases :=
      ih (fun expr mem => sameTests expr (List.mem_append_right _ mem)) others
    rw [foldAll, sameTest, sameBody, rest]

/-! ## Normal nodes -/

namespace Node

/-- Nothing is left to decide in a boolean operator in normal form. -/
theorem foldedLogical_eq {op : LogicalOp} {left right : Expr}
    (normal : (Node.ofExpr (.logical op left right)).Normal) :
    Expr.foldedLogical op left right = .logical op left right := by
  cases op with
  | and | or =>
    have undecided : left.boolLiteral? = none := normal.undecided left (List.mem_singleton_self left)
    simp only [Expr.foldedLogical, undecided]
  | coalesce => rfl

/-- Nothing is left to decide in an operator on one operand in normal form. -/
theorem foldedUnary_eq {op : UnaryOp} {operand : Expr}
    (normal : (Node.ofExpr (.unary op operand)).Normal) :
    Expr.foldedUnary op operand = .unary op operand := by
  cases op with
  | not =>
    have undecided : operand.boolLiteral? = none :=
      normal.undecided operand (List.mem_singleton_self operand)
    simp only [Expr.foldedUnary, undecided]
  | neg | bitNot | pos | typeOf => rfl

/-- Parentheses in normal form are needed. -/
theorem foldedParen_eq {inner : Expr} (normal : (Node.ofExpr (.paren inner)).Normal) :
    inner.foldedParen = .paren inner := by
  have undecided : inner.boolLiteral? = none := normal.undecided inner (List.mem_singleton_self inner)
  cases inner with
  | bool value => cases undecided
  | _ => rfl

/-- Nothing is left to decide in a conditional expression in normal form. -/
theorem foldedConditional_eq {condition whenTrue whenFalse : Expr}
    (normal : (Node.ofExpr (.conditional condition whenTrue whenFalse)).Normal) :
    Expr.foldedConditional condition whenTrue whenFalse =
      .conditional condition whenTrue whenFalse := by
  have undecided : condition.boolLiteral? = none :=
    normal.undecided condition (List.mem_singleton_self condition)
  simp only [Expr.foldedConditional, undecided]

/-- Nothing is left to decide in an `if` statement in normal form. -/
theorem foldedIf_eq {condition : Expr} {thenBranch : List Stmt} {elseBranch : Option (List Stmt)}
    (normal : (Node.ofStmt (.ifElse condition thenBranch elseBranch)).Normal) :
    Stmt.foldedIf condition thenBranch elseBranch = .ifElse condition thenBranch elseBranch := by
  have undecided : condition.boolLiteral? = none :=
    normal.undecided condition (List.mem_singleton_self condition)
  simp only [Stmt.foldedIf, undecided]

/-- A normal expression that is not answered stays as it is, if its parts do. -/
theorem fold_expr_eq_self {expr : Expr} (normal : (Node.ofExpr expr).Normal)
    (unanswered : context.answer? expr = none)
    (same : ∀ part ∈ expr.parts, part.fold context = part) : expr.fold context = expr := by
  -- Only the kinds that can be decided need the normal form, and only a call needs that it is
  -- unanswered.
  cases expr with
  | undefined | null | bool | number | string | ident | this => rfl
  | member | spread | cast | nonNull =>
    simp only [Expr.parts, List.forall_mem_singleton, fold, ofExpr.injEq] at same
    rw [Expr.fold, same]
  | index | binary | compare | assign =>
    simp only [Expr.parts, List.forall_mem_cons, fold, ofExpr.injEq] at same
    rw [Expr.fold, same.1, same.2.1]
  | template | array =>
    simp only [Expr.parts, List.forall_mem_map, fold, ofExpr.injEq] at same
    rw [Expr.fold, Expr.foldAll_eq_self same]
  | object =>
    simp only [Expr.parts, List.forall_mem_map, fold, ofExpr.injEq] at same
    rw [Expr.fold, Expr.foldProperties_eq_self same]
  | new =>
    simp only [Expr.parts, List.forall_mem_cons, List.forall_mem_map, fold, ofExpr.injEq] at same
    rw [Expr.fold, same.1, Expr.foldAll_eq_self same.2]
  | call =>
    simp only [Expr.parts, List.forall_mem_cons, List.forall_mem_map, fold, ofExpr.injEq] at same
    simp only [Expr.fold, unanswered, same.1, Expr.foldAll_eq_self same.2]
  | logical =>
    simp only [Expr.parts, List.forall_mem_cons, fold, ofExpr.injEq] at same
    rw [Expr.fold, same.1, same.2.1, foldedLogical_eq normal]
  | unary =>
    simp only [Expr.parts, List.forall_mem_singleton, fold, ofExpr.injEq] at same
    rw [Expr.fold, same, foldedUnary_eq normal]
  | conditional =>
    simp only [Expr.parts, List.forall_mem_cons, fold, ofExpr.injEq] at same
    rw [Expr.fold, same.1, same.2.1, same.2.2.1, foldedConditional_eq normal]
  | paren =>
    simp only [Expr.parts, List.forall_mem_singleton, fold, ofExpr.injEq] at same
    rw [Expr.fold, same, foldedParen_eq normal]
  | closure params body =>
    simp only [Expr.parts, List.forall_mem_map, fold, ofStmt.injEq] at same
    have tidy : Stmt.Tidy body := normal.tidy body (List.mem_singleton_self body)
    rw [Expr.fold, Stmt.foldAll_eq_self tidy same]

/-- A normal statement stays as it is, if its parts do. -/
theorem fold_stmt_eq_self {stmt : Stmt} (normal : (Node.ofStmt stmt).Normal)
    (same : ∀ part ∈ stmt.parts, part.fold context = part) : stmt.fold context = stmt := by
  have sameExpr : ∀ expr, .ofExpr expr ∈ stmt.parts → expr.fold context = expr :=
    fun expr mem => ofExpr.inj (same (.ofExpr expr) mem)
  have sameList : ∀ stmts ∈ (Node.ofStmt stmt).stmtLists, Stmt.foldAll context stmts = stmts := by
    intro stmts isList
    refine Stmt.foldAll_eq_self (normal.tidy stmts isList) fun inner mem => ?_
    exact ofStmt.inj (same (.ofStmt inner) (mem_parts_of_mem_stmtLists isList mem))
  -- Each field folds to itself, and what then puts the fields together has nothing left to decide.
  cases stmt with
  | breakLoop | continueLoop | empty => rfl
  | letDecl _ _ _ _ value | ret value =>
    have sameValue : Expr.foldOption context value = value :=
      Expr.foldOption_eq_self fun expr mem => sameExpr expr (by simpa [Stmt.parts] using mem)
    rw [Stmt.fold, sameValue]
  | expr value | throw value => rw [Stmt.fold, sameExpr value (List.mem_singleton_self _)]
  | ifElse condition thenBranch elseBranch =>
    have sameElse : Stmt.foldBranch context elseBranch = elseBranch :=
      Stmt.foldBranch_eq_self fun body mem =>
        sameList body (by simp [stmtLists, Option.mem_def.mp mem])
    rw [Stmt.fold, sameExpr condition List.mem_cons_self, sameList thenBranch List.mem_cons_self,
      sameElse, foldedIf_eq normal]
  | whileLoop condition body =>
    rw [Stmt.fold, sameExpr condition List.mem_cons_self,
      sameList body (List.mem_singleton_self body)]
  | forLoop init condition update body =>
    have sameInit : Stmt.foldOption context init = init :=
      Stmt.foldOption_eq_self fun inner mem =>
        ofStmt.inj (same (.ofStmt inner) (by simp [Stmt.parts, Option.mem_def.mp mem]))
    have sameCondition : Expr.foldOption context condition = condition :=
      Expr.foldOption_eq_self fun expr mem =>
        sameExpr expr (by simp [Stmt.parts, Option.mem_def.mp mem])
    have sameUpdate : Expr.foldOption context update = update :=
      Expr.foldOption_eq_self fun expr mem =>
        sameExpr expr (by simp [Stmt.parts, Option.mem_def.mp mem])
    rw [Stmt.fold, sameInit, sameCondition, sameUpdate, sameList body (List.mem_singleton_self body)]
  | tryCatch body handler finalizer =>
    have sameHandler : CatchClause.foldOption context handler = handler :=
      CatchClause.foldOption_eq_self fun clause mem =>
        sameList clause.body (by simp [stmtLists, Option.mem_def.mp mem])
    have sameFinalizer : Stmt.foldBranch context finalizer = finalizer :=
      Stmt.foldBranch_eq_self fun body mem =>
        sameList body (by simp [stmtLists, Option.mem_def.mp mem])
    rw [Stmt.fold, sameList body List.mem_cons_self, sameHandler, sameFinalizer]
  | switch discriminant cases =>
    have sameCases : SwitchCase.foldAll context cases = cases :=
      SwitchCase.foldAll_eq_self (fun expr mem => sameExpr expr (List.mem_cons_of_mem _ mem))
        fun arm mem => sameList arm.body (List.mem_map_of_mem mem)
    rw [Stmt.fold, sameExpr discriminant List.mem_cons_self, sameCases]
  | block body => rw [Stmt.fold, sameList body (List.mem_singleton_self body)]

/-- A node that is normal at every depth and has no type test to answer stays as it is. -/
theorem fold_eq_self {node : Node} (normal : node.NormalWithin)
    (unanswered : ∀ expr : Expr, (Node.ofExpr expr).Within node → context.answer? expr = none) :
    node.fold context = node := by
  induction node using Node.induction with
  | step node ih =>
    obtain ⟨self, parts⟩ := normalWithin_iff.mp normal
    have same : ∀ part ∈ node.parts, part.fold context = part :=
      fun part mem => ih part mem (parts part mem) fun expr within => unanswered expr (within.tail mem)
    cases node with
    | ofExpr expr => exact congrArg ofExpr (fold_expr_eq_self self (unanswered expr .refl) same)
    | ofStmt stmt => exact congrArg ofStmt (fold_stmt_eq_self self same)

/-! ## Nodes that stay as they are -/

/-- Folding permutes the nodes inside a node that it leaves as it is: each of them is the folded form of
one of them, and there are finitely many. -/
theorem bijOn_fold {node : Node} (stable : node.fold context = node) :
    Set.BijOn (fold context) {inner | inner.Within node} {inner | inner.Within node} := by
  classical
  let nodes : Finset Node := node.preorder.toFinset
  have isSet : {inner : Node | inner.Within node} = nodes := by
    ext inner
    rw [Finset.mem_coe, List.mem_toFinset, mem_preorder_iff_within]
    rfl
  -- every node inside comes from one inside, and there are finitely many, so folding permutes them
  have covered : Set.SurjOn (fold context) {inner | inner.Within node} {inner | inner.Within node} := by
    intro inner within
    have inFold : inner.Within (node.fold context) := by rwa [stable]
    exact exists_of_within_fold inFold
  rw [isSet] at covered ⊢
  have subset : nodes ⊆ nodes.image (fold context) := by
    rw [← Finset.coe_subset, Finset.coe_image]
    exact covered
  have same : nodes = nodes.image (fold context) :=
    Finset.eq_of_subset_of_card_le subset Finset.card_image_le
  have mapsTo : Set.MapsTo (fold context) nodes nodes := by
    intro inner mem
    rw [same]
    exact Finset.mem_coe.mpr (Finset.mem_image_of_mem _ mem)
  have injective : Set.InjOn (fold context) nodes :=
    Finset.card_image_iff.mp (congrArg Finset.card same.symm)
  exact ⟨mapsTo, injective, covered⟩

end Node

/-- A node that stays as it is has no type test to answer. -/
theorem Node.answer?_eq_none_of_fold_eq_self {node : Node} (stable : node.fold context = node)
    {expr : Expr} (within : (Node.ofExpr expr).Within node) : context.answer? expr = none := by
  obtain ⟨mapsTo, injective, -⟩ := Node.bijOn_fold stable
  cases answered : context.answer? expr with
  | none => rfl
  | some answer =>
    -- the test and its answer would both fold to the answer
    have folds : fold context (.ofExpr expr) = .ofExpr (.bool answer) :=
      congrArg ofExpr (Expr.fold_of_answer? answered)
    have inside : (Node.ofExpr (.bool answer)).Within node := by
      rw [← folds]
      exact mapsTo within
    have same : Node.ofExpr expr = .ofExpr (.bool answer) := injective within inside folds
    cases same
    cases answered

/-! ## Bodies -/

/-- Whether a body has no type test, at any depth, on a parameter of known type. -/
def Stmt.NoTestLeft (context : FoldContext) (body : List Stmt) : Prop :=
  ∀ expr : Expr, expr.OccursIn body →
    ∀ test, expr.typeTest? context.intrinsicName = some test →
      context.types.find? test.param = none

/-- A body that does not call the intrinsic has no type test. -/
theorem Stmt.noTestLeft_of_not_callsIntrinsic {body : List Stmt}
    (complete : Stmt.callsIntrinsic context.intrinsicName body = false) :
    Stmt.NoTestLeft context body := by
  intro expr occurs test isTest
  have isCall := Expr.isIntrinsicCall_of_typeTest? isTest
  have mem : expr ∈ Stmt.subexprsAll body := Stmt.mem_subexprsAll_iff.mpr occurs
  exact absurd isCall (List.any_eq_false.mp complete expr mem)

/-- What stands inside a body stands inside the body as a block. -/
theorem Expr.occursIn_iff_within_block {expr : Expr} {body : List Stmt} :
    expr.OccursIn body ↔ (Node.ofExpr expr).Within (.ofStmt (.block body)) := by
  constructor
  · rintro ⟨stmt, mem, within⟩
    exact within.tail (List.mem_map_of_mem mem)
  · intro within
    rcases Relation.ReflTransGen.cases_tail within with isBlock | ⟨part, inPart, isPart⟩
    · cases isBlock
    · obtain ⟨stmt, mem, rfl⟩ := List.mem_map.mp isPart
      exact ⟨stmt, mem, inPart⟩

/-- A body that is normal as a block stays as it is iff it has no type test left. -/
theorem Stmt.foldAll_eq_self_iff {body : List Stmt}
    (normal : (Node.ofStmt (.block body)).NormalWithin) :
    Stmt.foldAll context body = body ↔ Stmt.NoTestLeft context body := by
  -- a body is folded as the block that it makes up, which is a node
  have stable_iff : Stmt.foldAll context body = body ↔
      (Node.ofStmt (.block body)).fold context = .ofStmt (.block body) := by
    simp only [Node.fold, Stmt.fold, Node.ofStmt.injEq, Stmt.block.injEq]
  rw [stable_iff]
  constructor
  · intro stable expr occurs
    have unanswered : context.answer? expr = none :=
      Node.answer?_eq_none_of_fold_eq_self stable (Expr.occursIn_iff_within_block.mp occurs)
    exact FoldContext.answer?_eq_none_iff.mp unanswered
  · intro noTest
    refine Node.fold_eq_self normal fun expr within => FoldContext.answer?_eq_none_iff.mpr ?_
    exact noTest expr (Expr.occursIn_iff_within_block.mpr within)

/-- **Folding a folded body changes nothing, unless it brought about a type test.** A folded body stays
as it is exactly if it has no type test on a parameter of known type. In particular it does so if it
passes the check that no call of the intrinsic is left. -/
theorem Stmt.foldAll_stable_iff (context : FoldContext) (body : List Stmt) :
    (Stmt.foldAll context (Stmt.foldAll context body) = Stmt.foldAll context body ↔
      Stmt.NoTestLeft context (Stmt.foldAll context body)) ∧
    ∀ group signature, checkResidual context.intrinsicName group signature
        (Stmt.foldAll context body) = .ok () →
      Stmt.foldAll context (Stmt.foldAll context body) = Stmt.foldAll context body := by
  have normal : (Node.ofStmt (.block (Stmt.foldAll context body))).NormalWithin :=
    Node.normalWithin_fold (.ofStmt (.block body))
  refine ⟨foldAll_eq_self_iff normal, fun group signature accepted => ?_⟩
  refine (foldAll_eq_self_iff normal).mpr (noTestLeft_of_not_callsIntrinsic ?_)
  rw [checkResidual] at accepted
  split at accepted
  · cases accepted
  · next complete => exact Bool.not_eq_true _ ▸ complete

/-- The folded body of the sample passes the residual check, and folding it again changes nothing. -/
theorem Stmt.foldAll_stable_sample :
    checkResidual "isType" "f" ⟨3⟩
        (Stmt.foldAll Sample.numberContext (Sample.implementation.body.getD [])) = .ok () ∧
      Stmt.NoTestLeft Sample.numberContext
        (Stmt.foldAll Sample.numberContext (Sample.implementation.body.getD [])) ∧
      Stmt.foldAll Sample.numberContext
          (Stmt.foldAll Sample.numberContext (Sample.implementation.body.getD [])) =
        [.ret (some Sample.increment)] := by
  have laws := Stmt.foldAll_stable_iff Sample.numberContext (Sample.implementation.body.getD [])
  have folded : Stmt.foldAll Sample.numberContext (Sample.implementation.body.getD []) =
      [.ret (some Sample.increment)] := by with_unfolding_all rfl
  have accepted : checkResidual "isType" "f" ⟨3⟩
      (Stmt.foldAll Sample.numberContext (Sample.implementation.body.getD [])) = .ok () := by
    with_unfolding_all rfl
  have stable := laws.2 "f" ⟨3⟩ accepted
  exact ⟨accepted, laws.1.mp stable, stable.trans folded⟩

/-- A type test that folding brings about is answered the next time only. -/
example : Stmt.foldAll Sample.numberContext
      [.ret (some (.call (.ident "isType" none) [.keyword .number]
        [.conditional (.bool true) (.ident "x" (some ⟨2⟩)) .undefined] none))] =
        [.ret (some Sample.isNumber)] ∧
    Stmt.foldAll Sample.numberContext [.ret (some Sample.isNumber)] =
      [.ret (some (.bool true))] := by
  with_unfolding_all exact ⟨rfl, rfl⟩

end Overloading
