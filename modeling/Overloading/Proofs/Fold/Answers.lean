import Overloading.Proofs.Specialize
import Overloading.Proofs.Tree

/-! # Folding depends on the answers only

Folding looks at the types of the parameters only to answer type tests. So two maps of types that give the
same answers to the tests of a body fold it to the same (`Stmt.foldAll_eq_of_sameAnswer`), even if none of
the types are the same. -/

namespace Overloading

/-! ## Agreement on the subexpressions -/

section Congr

variable {context other : FoldContext}

mutual
/-- An expression is folded to the same if its subexpressions are answered the same. -/
theorem Expr.fold_congr : ∀ {expr : Expr},
    (∀ sub ∈ expr.subexprs, context.answer? sub = other.answer? sub) →
    expr.fold context = expr.fold other
  | .undefined, _ | .null, _ | .bool _, _ | .number _, _ | .string _, _ | .ident _ _, _
  | .this, _ => rfl
  | .template _ _, agree | .array _, agree => by
    simp only [Expr.subexprs, List.forall_mem_cons] at agree
    rw [Expr.fold, Expr.fold, Expr.foldAll_congr agree.2]
  | .object _, agree => by
    simp only [Expr.subexprs, List.forall_mem_cons] at agree
    rw [Expr.fold, Expr.fold, Expr.foldProperties_congr agree.2]
  | .closure _ _, agree => by
    simp only [Expr.subexprs, List.forall_mem_cons] at agree
    rw [Expr.fold, Expr.fold, Stmt.foldAll_congr agree.2]
  | .member _ _ _, agree | .unary _ _, agree | .spread _, agree | .cast _ _, agree
  | .nonNull _, agree | .paren _, agree => by
    simp only [Expr.subexprs, List.forall_mem_cons] at agree
    rw [Expr.fold, Expr.fold, Expr.fold_congr agree.2]
  | .index _ _, agree | .binary _ _ _, agree | .compare _ _ _, agree | .logical _ _ _, agree
  | .assign _ _, agree => by
    simp only [Expr.subexprs, List.forall_mem_cons, List.forall_mem_append] at agree
    rw [Expr.fold, Expr.fold, Expr.fold_congr agree.2.1, Expr.fold_congr agree.2.2]
  | .conditional _ _ _, agree => by
    simp only [Expr.subexprs, List.forall_mem_cons, List.forall_mem_append] at agree
    rw [Expr.fold, Expr.fold, Expr.fold_congr agree.2.1, Expr.fold_congr agree.2.2.1,
      Expr.fold_congr agree.2.2.2]
  | .call _ _ _ _, agree => by
    -- the one node that asks for an answer: here the agreement on the node itself counts
    simp only [Expr.subexprs, List.forall_mem_cons, List.forall_mem_append] at agree
    rw [Expr.fold, Expr.fold, agree.1, Expr.fold_congr agree.2.1, Expr.foldAll_congr agree.2.2]
  | .new _ _ _ _, agree => by
    simp only [Expr.subexprs, List.forall_mem_cons, List.forall_mem_append] at agree
    rw [Expr.fold, Expr.fold, Expr.fold_congr agree.2.1, Expr.foldAll_congr agree.2.2]
/-- A list of expressions is folded to the same if its expressions are answered the same. -/
theorem Expr.foldAll_congr : ∀ {exprs : List Expr},
    (∀ sub ∈ Expr.subexprsAll exprs, context.answer? sub = other.answer? sub) →
    Expr.foldAll context exprs = Expr.foldAll other exprs
  | [], _ => rfl
  | _ :: _, agree => by
    simp only [Expr.subexprsAll, List.forall_mem_append] at agree
    rw [Expr.foldAll, Expr.foldAll, Expr.fold_congr agree.1, Expr.foldAll_congr agree.2]
/-- The list of properties of an object literal is folded to the same if its expressions are answered
the same. -/
theorem Expr.foldProperties_congr : ∀ {properties : List (String × Expr)},
    (∀ sub ∈ Expr.subexprsProperties properties, context.answer? sub = other.answer? sub) →
    Expr.foldProperties context properties = Expr.foldProperties other properties
  | [], _ => rfl
  | (_, _) :: _, agree => by
    simp only [Expr.subexprsProperties, List.forall_mem_append] at agree
    rw [Expr.foldProperties, Expr.foldProperties, Expr.fold_congr agree.1,
      Expr.foldProperties_congr agree.2]
/-- An expression that may be missing is folded to the same if its expressions are answered the same. -/
theorem Expr.foldOption_congr : ∀ {expr : Option Expr},
    (∀ sub ∈ Expr.subexprsOption expr, context.answer? sub = other.answer? sub) →
    Expr.foldOption context expr = Expr.foldOption other expr
  | none, _ => rfl
  | some _, agree => by
    rw [Expr.subexprsOption] at agree
    rw [Expr.foldOption, Expr.foldOption, Expr.fold_congr agree]
/-- A statement is folded to the same if its expressions are answered the same. -/
theorem Stmt.fold_congr : ∀ {stmt : Stmt},
    (∀ sub ∈ stmt.subexprs, context.answer? sub = other.answer? sub) →
    stmt.fold context = stmt.fold other
  | .letDecl _ _ _ _ _, agree | .ret _, agree => by
    rw [Stmt.subexprs] at agree
    rw [Stmt.fold, Stmt.fold, Expr.foldOption_congr agree]
  | .expr _, agree | .throw _, agree => by
    rw [Stmt.subexprs] at agree
    rw [Stmt.fold, Stmt.fold, Expr.fold_congr agree]
  | .ifElse _ _ _, agree => by
    simp only [Stmt.subexprs, List.forall_mem_append] at agree
    rw [Stmt.fold, Stmt.fold, Expr.fold_congr agree.1, Stmt.foldAll_congr agree.2.1,
      Stmt.foldBranch_congr agree.2.2]
  | .whileLoop _ _, agree => by
    simp only [Stmt.subexprs, List.forall_mem_append] at agree
    rw [Stmt.fold, Stmt.fold, Expr.fold_congr agree.1, Stmt.foldAll_congr agree.2]
  | .forLoop _ _ _ _, agree => by
    simp only [Stmt.subexprs, List.forall_mem_append] at agree
    rw [Stmt.fold, Stmt.fold, Stmt.foldOption_congr agree.1, Expr.foldOption_congr agree.2.1,
      Expr.foldOption_congr agree.2.2.1, Stmt.foldAll_congr agree.2.2.2]
  | .breakLoop, _ | .continueLoop, _ | .empty, _ => rfl
  | .tryCatch _ _ _, agree => by
    simp only [Stmt.subexprs, List.forall_mem_append] at agree
    rw [Stmt.fold, Stmt.fold, Stmt.foldAll_congr agree.1, CatchClause.foldOption_congr agree.2.1,
      Stmt.foldBranch_congr agree.2.2]
  | .switch _ _, agree => by
    simp only [Stmt.subexprs, List.forall_mem_append] at agree
    rw [Stmt.fold, Stmt.fold, Expr.fold_congr agree.1, SwitchCase.foldAll_congr agree.2]
  | .block _, agree => by
    rw [Stmt.subexprs] at agree
    rw [Stmt.fold, Stmt.fold, Stmt.foldAll_congr agree]
/-- A statement list is folded to the same if its expressions are answered the same. -/
theorem Stmt.foldAll_congr : ∀ {stmts : List Stmt},
    (∀ sub ∈ Stmt.subexprsAll stmts, context.answer? sub = other.answer? sub) →
    Stmt.foldAll context stmts = Stmt.foldAll other stmts
  | [], _ => rfl
  | _ :: _, agree => by
    simp only [Stmt.subexprsAll, List.forall_mem_append] at agree
    rw [Stmt.foldAll, Stmt.foldAll, Stmt.fold_congr agree.1, Stmt.foldAll_congr agree.2]
/-- A statement that may be missing is folded to the same if its expressions are answered the same. -/
theorem Stmt.foldOption_congr : ∀ {stmt : Option Stmt},
    (∀ sub ∈ Stmt.subexprsOption stmt, context.answer? sub = other.answer? sub) →
    Stmt.foldOption context stmt = Stmt.foldOption other stmt
  | none, _ => rfl
  | some _, agree => by
    rw [Stmt.subexprsOption] at agree
    rw [Stmt.foldOption, Stmt.foldOption, Stmt.fold_congr agree]
/-- A branch that may be missing is folded to the same if its expressions are answered the same. -/
theorem Stmt.foldBranch_congr : ∀ {branch : Option (List Stmt)},
    (∀ sub ∈ Stmt.subexprsBranch branch, context.answer? sub = other.answer? sub) →
    Stmt.foldBranch context branch = Stmt.foldBranch other branch
  | none, _ => rfl
  | some _, agree => by
    rw [Stmt.subexprsBranch] at agree
    rw [Stmt.foldBranch, Stmt.foldBranch, Stmt.foldAll_congr agree]
/-- A handler that may be missing is folded to the same if its expressions are answered the same. -/
theorem CatchClause.foldOption_congr : ∀ {handler : Option CatchClause},
    (∀ sub ∈ CatchClause.subexprsOption handler, context.answer? sub = other.answer? sub) →
    CatchClause.foldOption context handler = CatchClause.foldOption other handler
  | none, _ => rfl
  | some ⟨_, _⟩, agree => by
    rw [CatchClause.subexprsOption] at agree
    rw [CatchClause.foldOption, CatchClause.foldOption, Stmt.foldAll_congr agree]
/-- The list of arms of a `switch` statement is folded to the same if its expressions are answered the
same. -/
theorem SwitchCase.foldAll_congr : ∀ {cases : List SwitchCase},
    (∀ sub ∈ SwitchCase.subexprsAll cases, context.answer? sub = other.answer? sub) →
    SwitchCase.foldAll context cases = SwitchCase.foldAll other cases
  | [], _ => rfl
  | ⟨_, _⟩ :: _, agree => by
    simp only [SwitchCase.subexprsAll, List.forall_mem_append] at agree
    rw [SwitchCase.foldAll, SwitchCase.foldAll, Expr.foldOption_congr agree.1,
      Stmt.foldAll_congr agree.2.1, SwitchCase.foldAll_congr agree.2.2]
end

end Congr

/-! ## Agreement on the type tests -/

/-- Whether two maps of types give the same answer to a type test: they both have the parameter or neither
does, and where both do, both its types equal the one that is asked for or neither does. -/
structure TypeTest.SameAnswer (test : TypeTest) (typeParams : List String) (types others : ParamTypes) :
    Prop where
  known : (types.find? test.param).isSome ↔ (others.find? test.param).isSome
  equal : ∀ type other, types.find? test.param = some type → others.find? test.param = some other →
    type.equal (.ofDeclared typeParams test.target) =
      other.equal (.ofDeclared typeParams test.target)

section SameAnswer

variable {intrinsicName : String} {typeParams : List String} {types others : ParamTypes}
variable {expr : Expr} {test : TypeTest}

/-- A test has the same answer under two tables of types iff folding answers it the same. -/
theorem TypeTest.sameAnswer_iff (isTest : expr.typeTest? intrinsicName = some test) :
    test.SameAnswer typeParams types others ↔
      FoldContext.answer? ⟨intrinsicName, typeParams, types⟩ expr =
        FoldContext.answer? ⟨intrinsicName, typeParams, others⟩ expr := by
  rw [FoldContext.answer?_of_typeTest? isTest, FoldContext.answer?_of_typeTest? isTest]
  constructor
  · rintro ⟨known, equal⟩
    cases ofTypes : types.find? test.param <;> cases ofOthers : others.find? test.param <;> simp_all
  · intro same
    constructor
    · simpa using congrArg Option.isSome same
    · intro type other ofTypes ofOthers
      simpa [ofTypes, ofOthers] using same

/-- A type test folds to its answer, or stays as it is. -/
theorem Expr.fold_of_typeTest? {context : FoldContext}
    (isTest : expr.typeTest? context.intrinsicName = some test) :
    expr.fold context = ((context.answer? expr).map Expr.bool).getD expr := by
  obtain ⟨argName, signature, rfl⟩ := Expr.typeTest?_eq_some_iff.mp isTest
  rw [Expr.fold]
  split
  · next answered => rw [answered, Option.map_some, Option.getD_some]
  · next unanswered => rw [unanswered, Option.map_none, Option.getD_none]; rfl

/-- The answer to a type test shows in what the test folds to. -/
theorem Expr.fold_eq_fold_iff (isTest : expr.typeTest? intrinsicName = some test) :
    expr.fold ⟨intrinsicName, typeParams, types⟩ = expr.fold ⟨intrinsicName, typeParams, others⟩ ↔
      test.SameAnswer typeParams types others := by
  -- a test is not a literal, so an unanswered test folds to something other than an answered one
  have notBool (value : Bool) : expr ≠ .bool value := by
    rintro rfl
    cases isTest
  rw [TypeTest.sameAnswer_iff isTest, Expr.fold_of_typeTest? isTest, Expr.fold_of_typeTest? isTest]
  constructor
  · intro same
    generalize FoldContext.answer? ⟨intrinsicName, typeParams, types⟩ expr = answer at same ⊢
    generalize FoldContext.answer? ⟨intrinsicName, typeParams, others⟩ expr = other at same ⊢
    cases answer with
    | none =>
      cases other with
      | none => rfl
      | some value => exact absurd same (notBool value)
    | some value =>
      cases other with
      | none => exact absurd same.symm (notBool value)
      | some value' => rw [Expr.bool.inj same]
  · intro same
    rw [same]

end SameAnswer

namespace Stmt

theorem foldAll_expr (context : FoldContext) (value : Expr) :
    Stmt.foldAll context [.expr value] = [.expr (value.fold context)] := rfl

/-- **A folded body depends on the types only through the answers to its type tests.** Two maps of types
that give the same answer to each type test of a body fold it to the same. An answer matters where the
body is but the test. -/
theorem foldAll_eq_of_sameAnswer (intrinsicName : String) (typeParams : List String)
    (types others : ParamTypes) :
    (∀ body : List Stmt,
      (∀ expr : Expr, expr.OccursIn body → ∀ test, expr.typeTest? intrinsicName = some test →
        test.SameAnswer typeParams types others) →
      Stmt.foldAll ⟨intrinsicName, typeParams, types⟩ body =
        Stmt.foldAll ⟨intrinsicName, typeParams, others⟩ body) ∧
    ∀ (expr : Expr) (test : TypeTest), expr.typeTest? intrinsicName = some test →
      (Stmt.foldAll ⟨intrinsicName, typeParams, types⟩ [.expr expr] =
          Stmt.foldAll ⟨intrinsicName, typeParams, others⟩ [.expr expr] ↔
        test.SameAnswer typeParams types others) := by
  constructor
  · intro body agree
    refine Stmt.foldAll_congr fun sub mem => ?_
    -- what is not a test is not answered under either table
    cases isTest : sub.typeTest? intrinsicName with
    | none =>
      rw [FoldContext.answer?_of_not_typeTest? isTest, FoldContext.answer?_of_not_typeTest? isTest]
    | some test =>
      have occurs : sub.OccursIn body := mem_subexprsAll_iff.mp mem
      exact (TypeTest.sameAnswer_iff isTest).mp (agree sub occurs test isTest)
  · intro expr test isTest
    rw [foldAll_expr, foldAll_expr, List.singleton_inj, Stmt.expr.injEq]
    exact Expr.fold_eq_fold_iff isTest

end Stmt

/-- The boxed form of a number for `x`, and a type for a parameter that the sample does not test. -/
def Sample.boxedTypes : ParamTypes :=
  .ofList [(⟨2⟩, .nominal none "System.Double" []), (⟨7⟩, .any)]

/-- A parameter that is a number and one that is a boxed number fold the implementation to the same
body. -/
theorem Stmt.foldAll_eq_of_sameAnswer_sample :
    (∀ expr : Expr, expr.OccursIn (Sample.implementation.body.getD []) →
      ∀ test, expr.typeTest? "isType" = some test →
        test.SameAnswer [] Sample.numberContext.types Sample.boxedTypes) ∧
    Stmt.foldAll Sample.numberContext (Sample.implementation.body.getD []) =
      Stmt.foldAll ⟨"isType", [], Sample.boxedTypes⟩ (Sample.implementation.body.getD []) ∧
    Stmt.foldAll ⟨"isType", [], Sample.boxedTypes⟩ (Sample.implementation.body.getD []) =
      [.ret (some Sample.increment)] := by
  have agree : ∀ expr : Expr, expr.OccursIn (Sample.implementation.body.getD []) →
      ∀ test, expr.typeTest? "isType" = some test →
        test.SameAnswer [] Sample.numberContext.types Sample.boxedTypes := by
    intro expr occurs test isTest
    rw [← Stmt.mem_subexprsAll_iff] at occurs
    obtain ⟨argName, signature, rfl⟩ := Expr.typeTest?_eq_some_iff.mp isTest
    -- the one call of the body is the test for a number
    have isNumber : test.target = .keyword .number ∧ (argName = "x" ∧ test.param = ⟨2⟩) ∧
        signature = none := by
      simpa [Sample.implementation, Sample.isNumber, Sample.increment, Sample.exclaim,
        Stmt.subexprsAll, Stmt.subexprs, Stmt.subexprsBranch, Expr.subexprsOption, Expr.subexprs,
        Expr.subexprsAll] using occurs
    obtain ⟨isTarget, ⟨-, isParam⟩, -⟩ := isNumber
    rw [TypeTest.sameAnswer_iff isTest, isTarget, isParam]
    with_unfolding_all rfl
  have laws := Stmt.foldAll_eq_of_sameAnswer "isType" [] Sample.numberContext.types Sample.boxedTypes
  exact ⟨agree, laws.1 _ agree, by with_unfolding_all rfl⟩

end Overloading
