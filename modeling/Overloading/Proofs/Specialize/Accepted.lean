import Overloading.Proofs.Fold
import Overloading.Proofs.Specialize.Complete
import Overloading.Proofs.Specialize.Escape
import Overloading.Proofs.Specialize.Failure

/-! # Signatures that are not refused

A signature is refused if its folded body refers to a parameter that the signature lacks, or still has a
type test. Two properties of the implementation rule that out: uses of such parameters stand behind
guards, and type tests ask about parameters. -/

namespace Overloading

/-! ## Missing parameters behind guards

An implementation may use a parameter that some signature lacks where a type test on such a parameter
guards the use: in the branch, the arm or the operand that is reached only if the test holds. For a
signature that lacks the parameters every such test is answered with false, so folding drops all that the
guards shield, and the signature is not refused for the sake of a missing parameter. -/

/-! ### Guards -/

/-- Whether an expression is a guard on the given declarations: a type test on one of them, or a
conjunction that starts with a guard. Parentheses do not matter. -/
inductive Expr.IsGuard (name : String) (decls : List DeclHandle) : Expr → Prop
  | test {target : DeclaredType} {argName : String} {param : DeclHandle}
      {signature : Option DeclHandle} (mem : param ∈ decls) :
    IsGuard name decls
      (.call (.ident name none) [target] [.ident argName (some param)] signature)
  | paren {inner : Expr} (guard : IsGuard name decls inner) : IsGuard name decls (.paren inner)
  | and {left right : Expr} (guard : IsGuard name decls left) :
    IsGuard name decls (.logical .and left right)

/-- A guard folds to false if the parameters that it asks about are absent. -/
theorem Expr.IsGuard.fold_eq_false {context : FoldContext} {decls : List DeclHandle}
    (absent : ∀ decl ∈ decls, context.types.find? decl = some .absent) {expr : Expr}
    (guard : expr.IsGuard context.intrinsicName decls) : expr.fold context = .bool false := by
  induction guard with
  | @test _ _ param _ mem =>
    refine Expr.fold_of_answer? ?_
    rw [FoldContext.answer?_test, absent param mem, Option.map_some, StaticType.absent_equal]
  | paren _ ih => rw [Expr.fold, ih, Expr.foldedParen]
  | and _ ih =>
    rw [Expr.fold, ih]
    rfl

namespace Node

/-- Whether a node refers to the given declarations only in type tests on them and behind guards. A guard
itself needs no condition, because what follows its test stands behind that test. -/
inductive Shielded (name : String) (decls : List DeclHandle) : Node → Prop
  | test {target : DeclaredType} {argName : String} {param : DeclHandle}
      {signature : Option DeclHandle} (mem : param ∈ decls) :
    Shielded name decls
      (.ofExpr (.call (.ident name none) [target] [.ident argName (some param)] signature))
  | thenBranch {condition : Expr} {thenBranch : List Stmt} {elseBranch : Option (List Stmt)}
      (guard : condition.IsGuard name decls)
      (inElse : ∀ stmt ∈ elseBranch.getD [], Shielded name decls (.ofStmt stmt)) :
    Shielded name decls (.ofStmt (.ifElse condition thenBranch elseBranch))
  | whenTrue {condition whenTrue whenFalse : Expr} (guard : condition.IsGuard name decls)
      (inFalse : Shielded name decls (.ofExpr whenFalse)) :
    Shielded name decls (.ofExpr (.conditional condition whenTrue whenFalse))
  | right {left right : Expr} (guard : left.IsGuard name decls) :
    Shielded name decls (.ofExpr (.logical .and left right))
  | other {node : Node} (notRef : ∀ expr, node = .ofExpr expr → ¬ expr.RefersTo decls)
      (parts : ∀ part ∈ node.parts, Shielded name decls part) : Shielded name decls node

/-- Whether a node refers to one of the given declarations, at any depth. -/
def Refers (decls : List DeclHandle) (node : Node) : Prop :=
  ∃ expr : Expr, (Node.ofExpr expr).Within node ∧ expr.RefersTo decls

variable {decls : List DeclHandle}

/-- A node refers to what its parts refer to. -/
theorem Refers.of_part {node part : Node} (refers : part.Refers decls) (mem : part ∈ node.parts) :
    node.Refers decls := by
  obtain ⟨expr, within, isRef⟩ := refers
  exact ⟨expr, within.tail mem, isRef⟩

/-- A node that is no reference itself, and whose parts do not refer to the declarations, does not refer
to them. -/
theorem not_refers_of_parts {node : Node}
    (notRef : ∀ expr, node = .ofExpr expr → ¬ expr.RefersTo decls)
    (parts : ∀ part ∈ node.parts, ¬ part.Refers decls) : ¬ node.Refers decls := by
  rintro ⟨expr, within, isRef⟩
  rcases Relation.ReflTransGen.cases_tail within with isNode | ⟨part, inPart, mem⟩
  · exact notRef expr isNode isRef
  · exact parts part mem ⟨expr, inPart, isRef⟩

theorem not_refers_bool (value : Bool) : ¬ (Node.ofExpr (.bool value)).Refers decls := by
  refine not_refers_of_parts ?_ (List.forall_mem_nil _)
  rintro _ ⟨⟩ ⟨_, _, _, isIdent⟩
  cases isIdent

/-- What is spliced from nodes without references has none. -/
theorem FromFold.not_refers {context : FoldContext} {sources results : List Node}
    (spliced : FromFold context sources results)
    (folded : ∀ source ∈ sources, ¬ (source.fold context).Refers decls) :
    ∀ result ∈ results, ¬ result.Refers decls := by
  refine spliced.forall_mem (fun body clear stmt mem refers => clear ?_) folded
  exact refers.of_part (List.mem_map_of_mem mem)

/-- Folding under absent types leaves no shielded reference. -/
theorem Shielded.not_refers_fold {context : FoldContext}
    (absent : ∀ decl ∈ decls, context.types.find? decl = some .absent) {node : Node}
    (shielded : node.Shielded context.intrinsicName decls) :
    ¬ (node.fold context).Refers decls := by
  -- Along the derivation, which does not enter what a guard shields.
  induction shielded with
  | test mem =>
    rw [Node.fold, (Expr.IsGuard.test mem).fold_eq_false absent]
    exact not_refers_bool false
  | @thenBranch condition thenBranch elseBranch guard _ ih =>
    rw [Node.fold, Stmt.fold, guard.fold_eq_false absent]
    cases elseBranch with
    | none => exact not_refers_of_parts (by rintro _ ⟨⟩) (List.forall_mem_nil _)
    | some body =>
      refine not_refers_of_parts (by rintro _ ⟨⟩) ?_
      exact (fromFold_stmts body).not_refers (List.forall_mem_map.mpr ih)
  | whenTrue guard _ ih =>
    rw [Node.fold, Expr.fold, guard.fold_eq_false absent]
    exact ih
  | right guard =>
    rw [Node.fold, Expr.fold, guard.fold_eq_false absent]
    exact not_refers_bool false
  | @other node notRef _ ih =>
    have folds : node.FoldsTo context (node.fold context) := foldsTo_fold node
    generalize node.fold context = result at folds ⊢
    cases folds with
    | part mem => exact ih _ mem
    | rebuilt shell parts =>
      refine not_refers_of_parts ?_ (parts.fromFold.not_refers ih)
      -- a reference is an identifier, and folding makes up none
      rintro _ rfl ⟨name, decl, mem, rfl⟩
      have same : node.shell? = some (.ofExpr (.ident name (some decl))) :=
        (shell.resolve_left (Option.some_ne_none _)).symm
      exact notRef _ (shell?_eq_ident_iff.mp same) ⟨name, decl, mem, rfl⟩

end Node

/-- Whether a body refers to the given declarations only in type tests on them and behind guards. -/
def Stmt.Shielded (name : String) (decls : List DeclHandle) (body : List Stmt) : Prop :=
  ∀ stmt ∈ body, (Node.ofStmt stmt).Shielded name decls

/-- A folded body does not refer to absent parameters that were shielded in the body. -/
theorem Stmt.Shielded.not_refersTo_foldAll {context : FoldContext} {decls : List DeclHandle}
    (absent : ∀ decl ∈ decls, context.types.find? decl = some .absent) {body : List Stmt}
    (shielded : Stmt.Shielded context.intrinsicName decls body) :
    ¬ Stmt.RefersTo decls (Stmt.foldAll context body) := by
  rintro ⟨expr, ⟨stmt, mem, within⟩, isRef⟩
  have folded : ∀ stmt ∈ body, ¬ ((Node.ofStmt stmt).fold context).Refers decls :=
    fun stmt isStmt => (shielded stmt isStmt).not_refers_fold absent
  have clear := (Node.fromFold_stmts body).not_refers (List.forall_mem_map.mpr folded)
  exact clear _ (List.mem_map_of_mem mem) ⟨expr, within, isRef⟩

/-! ### Specialization -/

namespace Specializer

/-- **Missing parameters behind guards are never in the way.** If an implementation refers to the
parameters that a bound signature lacks only in type tests on them and behind guards, the folded body does
not refer to them. So the signature is not refused for a missing parameter, the body that is emitted has
none, and a body is emitted unless a call of the type test is left. -/
theorem shielded_parameters_dropped (specializer : Specializer) (group : OverloadGroup)
    (signature : FunctionDecl) (binding : SignatureBinding)
    (bound : group.bind specializer.registry signature = .ok binding)
    (shielded : Stmt.Shielded specializer.options.intrinsicName (group.lacking signature)
      (group.implementation.body.getD [])) :
    ¬ Stmt.RefersTo (group.lacking signature) (specializer.foldBody group binding) ∧
    (∀ name handle param, specializer.specialize group signature ≠
      .error (.missingParameterReference name handle param)) ∧
    (∀ specialization, specializer.specialize group signature = .ok specialization →
      ¬ Stmt.RefersTo (group.lacking signature) specialization.method.body) ∧
    ((∃ specialization, specializer.specialize group signature = .ok specialization ∧
        specialization.method.body = specializer.foldBody group binding) ↔
      ¬ Stmt.CallsUnbound specializer.options.intrinsicName
        (specializer.foldBody group binding)) := by
  have lacks : binding.missing = group.lacking signature :=
    (OverloadGroup.bind_eq_ok_iff.mp bound).2.2.1
  -- what the signature lacks is absent in the context that the body is folded in
  have absent : ∀ decl ∈ group.lacking signature,
      (specializer.foldContext group binding).types.find? decl = some .absent :=
    fun decl mem => OverloadGroup.find?_missing_of_bind bound (lacks ▸ mem)
  have clear : ¬ Stmt.RefersTo (group.lacking signature) (specializer.foldBody group binding) :=
    Stmt.Shielded.not_refersTo_foldAll absent shielded
  have decided := specializer.decidedBy_foldBody bound
  refine ⟨clear, ?_, ?_, decided.emitted.trans (and_iff_left clear)⟩
  · intro name handle param refused
    exact clear (decided.missing.mp ⟨name, handle, param, refused⟩).2
  · intro specialization success
    exact (Emits.completeFor ⟨specialization, success, rfl⟩).not_refers

end Specializer

namespace Sample

/-- `y`, the second parameter of an implementation. -/
def second : Expr := .ident "y" (some ⟨11⟩)

/-- `isType<string>(y)`. -/
def isSecondString : Expr := .call (.ident "isType" none) [.keyword .string] [second] none

/-- `f(x, y) { if ((isType<string>(y)) && y) { return () => y; } return isType<string>(y) ? y : x; }`,
of which `f(x: number)` lacks `y`. -/
def guarding : OverloadGroup where
  owner := none
  name := "f"
  implementation := { implementation with
    params := [⟨2⟩, ⟨11⟩]
    body := some [
      .ifElse (.logical .and (.paren isSecondString) second)
        [.ret (some (.closure [] [.ret (some second)]))] none,
      .ret (some (.conditional isSecondString second (.ident "x" (some ⟨2⟩))))] }
  signatures := [ofNumber]

end Sample

namespace Specializer

/-- Of the sample only `return x` is left for `f(x: number)`. -/
theorem shielded_parameters_dropped_sample :
    Stmt.Shielded "isType" [⟨11⟩] (Sample.guarding.implementation.body.getD []) ∧
      (∀ name handle param, Sample.specializer.specialize Sample.guarding Sample.ofNumber ≠
        .error (.missingParameterReference name handle param)) ∧
      ∃ specialization, Sample.specializer.specialize Sample.guarding Sample.ofNumber =
          .ok specialization ∧
        specialization.method.body = [.ret (some (.ident "x" (some ⟨2⟩)))] := by
  have shielded : Stmt.Shielded "isType" [⟨11⟩] (Sample.guarding.implementation.body.getD []) := by
    have guard : Sample.isSecondString.IsGuard "isType" [⟨11⟩] := .test (List.mem_singleton_self _)
    have first : (Node.ofExpr (.ident "x" (some ⟨2⟩))).Shielded "isType" [⟨11⟩] :=
      .other (by simp [Expr.refersTo_ident]) (List.forall_mem_nil _)
    have value : (Node.ofExpr (.conditional Sample.isSecondString Sample.second
        (.ident "x" (some ⟨2⟩)))).Shielded "isType" [⟨11⟩] := .whenTrue guard first
    refine List.forall_mem_cons.mpr ⟨.thenBranch guard.paren.and (List.forall_mem_nil _), ?_⟩
    exact List.forall_mem_singleton.mpr (.other (by simp) (List.forall_mem_singleton.mpr value))
  have bound : Sample.guarding.bind Sample.registry Sample.ofNumber =
      .ok ⟨.ofParams [⟨⟨2⟩, "x", .primitive .double, false, false⟩] [⟨11⟩],
        [⟨⟨2⟩, "x", .primitive .double, false, false⟩], [⟨11⟩]⟩ := by with_unfolding_all rfl
  obtain ⟨-, accepted, -, -⟩ :=
    shielded_parameters_dropped Sample.specializer _ _ _ bound shielded
  exact ⟨shielded, accepted, _, by with_unfolding_all rfl, by with_unfolding_all rfl⟩

end Specializer

/-! ## Well-formed type tests are all answered

A binding has a type for each parameter of the implementation, those that the signature lacks included.
So every well-formed type test on a parameter is answered, in whatever place of the body it stands, and
no signature of an implementation that has only such tests is refused for a test that is left. -/

/-- Whether type arguments and arguments are those of a test on a parameter of an implementation: one
type, and the parameter itself. -/
def FunctionDecl.AsksParam (implementation : FunctionDecl) (typeArgs : List DeclaredType)
    (args : List Expr) : Prop :=
  ∃ target name, ∃ param ∈ implementation.params,
    typeArgs = [target] ∧ args = [.ident name (some param)]

/-- Under the types of a binding every test on a parameter is answered. -/
theorem Specializer.answer?_ne_none_of_asksParam {specializer : Specializer} {group : OverloadGroup}
    {signature : FunctionDecl} {binding : SignatureBinding}
    (bound : group.bind specializer.registry signature = .ok binding)
    {typeArgs : List DeclaredType} {args : List Expr} {callSignature : Option DeclHandle}
    (asks : group.implementation.AsksParam typeArgs args) :
    (specializer.foldContext group binding).answer?
      (.call (.ident specializer.options.intrinsicName none) typeArgs args callSignature) ≠ none := by
  obtain ⟨target, name, param, isParam, rfl, rfl⟩ := asks
  have known : (binding.types.find? param).isSome :=
    (OverloadGroup.isSome_find?_of_bind bound).mpr isParam
  intro unanswered
  have unknown : binding.types.find? param = none :=
    Option.map_eq_none_iff.mp (FoldContext.answer?_test.symm.trans unanswered)
  rw [unknown] at known
  cases known

/-- A signature that cannot be bound is refused for its parameters. -/
theorem OverloadGroup.bind_ne_residualIntrinsic {group : OverloadGroup} {registry : Registry}
    {signature : FunctionDecl} {name : String} {handle : DeclHandle} :
    group.bind registry signature ≠ .error (.residualIntrinsic name handle) := by
  intro failed
  have first := (group.reports_bind registry signature _).mp failed
  have isViolation := List.mem_of_head? first
  simp [FunctionDecl.paramViolations, Registry.unknownHandles] at isViolation

namespace Specializer

/-- **Well-formed type tests are never left over.** If an implementation has the type test only in calls
with one type argument and one argument, which is a parameter of the implementation, then no signature is
refused for a test that is left, and a folded body does not even have the identifier any more. -/
theorem well_formed_tests_answered (specializer : Specializer) (group : OverloadGroup)
    (signature : FunctionDecl)
    (wellFormed : Stmt.Guarded specializer.options.intrinsicName group.implementation.AsksParam
      (group.implementation.body.getD [])) :
    (∀ name handle, specializer.specialize group signature ≠
      .error (.residualIntrinsic name handle)) ∧
    ∀ binding, group.bind specializer.registry signature = .ok binding →
      ¬ Stmt.MentionsUnbound specializer.options.intrinsicName
        (specializer.foldBody group binding) := by
  have absent : ∀ binding, group.bind specializer.registry signature = .ok binding →
      ¬ Stmt.MentionsUnbound specializer.options.intrinsicName
        (specializer.foldBody group binding) := by
    rintro binding bound ⟨stmt, mem, present⟩
    -- every allowed call is answered, so folding leaves the identifier guarded with no call allowed
    have guarded : Stmt.Guarded specializer.options.intrinsicName (fun _ _ => False)
        (specializer.foldBody group binding) :=
      Stmt.Guarded.foldAll (fun _ _ _ asks => answer?_ne_none_of_asksParam bound asks) wellFormed
    obtain ⟨-, -, -, notAllowed, -⟩ := (guarded stmt mem).call_within present
    exact notAllowed
  refine ⟨fun name handle refused => ?_, absent⟩
  cases bound : group.bind specializer.registry signature with
  | error error =>
    rw [specialize, bound] at refused
    cases refused
    exact OverloadGroup.bind_ne_residualIntrinsic bound
  | ok binding =>
    have calls := (((specializer.decidedBy_foldBody bound).residual name handle).mp refused).1
    exact absent binding bound (Stmt.mentionsUnbound_iff.mpr (.inl calls))

end Specializer

/-- `f(x) { let t = g(isType<number>(x)); while (isType<number>(x)) { return () => isType<number>(x); } }`,
which asks for the type of `x` in an argument, in a loop header and in a closure. -/
def Sample.asking : OverloadGroup where
  owner := none
  name := "f"
  implementation := { implementation with body := some [
    .letDecl ⟨11⟩ "t" none false (some (.call (.ident "g" (some ⟨6⟩)) [] [isNumber] none)),
    .whileLoop isNumber [.ret (some (.closure [] [.ret (some isNumber)]))]] }
  signatures := [ofNumber, ofNothing]

namespace Specializer

/-- In the sample every test is answered for `f()`, which lacks the parameter, so none of them is left.
-/
theorem well_formed_tests_answered_sample :
    Stmt.Guarded "isType" Sample.asking.implementation.AsksParam
        (Sample.asking.implementation.body.getD []) ∧
      (∀ name handle, Sample.specializer.specialize Sample.asking Sample.ofNothing ≠
        .error (.residualIntrinsic name handle)) ∧
      ∃ specialization, Sample.specializer.specialize Sample.asking Sample.ofNothing =
          .ok specialization ∧
        specialization.method.body = [
          .letDecl ⟨11⟩ "t" none false
            (some (.call (.ident "g" (some ⟨6⟩)) [] [.bool false] none)),
          .whileLoop (.bool false) [.ret (some (.closure [] [.ret (some (.bool false))]))]] := by
  have wellFormed : Stmt.Guarded "isType" Sample.asking.implementation.AsksParam
      (Sample.asking.implementation.body.getD []) := by
    have bound (name : String) (decl : DeclHandle) : (Node.ofExpr (.ident name (some decl))).Guarded
        "isType" Sample.asking.implementation.AsksParam := .other (by simp) (List.forall_mem_nil _)
    have test : (Node.ofExpr Sample.isNumber).Guarded "isType"
        Sample.asking.implementation.AsksParam :=
      .call ⟨_, _, ⟨2⟩, by decide, rfl, rfl⟩ (List.forall_mem_singleton.mpr (bound _ _))
    have argument : (Node.ofExpr (.call (.ident "g" (some ⟨6⟩)) [] [Sample.isNumber] none)).Guarded
        "isType" Sample.asking.implementation.AsksParam :=
      .other (by simp)
        (List.forall_mem_cons.mpr ⟨bound _ _, List.forall_mem_singleton.mpr test⟩)
    have closure : (Node.ofExpr (.closure [] [.ret (some Sample.isNumber)])).Guarded "isType"
        Sample.asking.implementation.AsksParam :=
      .other (by simp) (List.forall_mem_singleton.mpr
        (.other (by simp) (List.forall_mem_singleton.mpr test)))
    refine List.forall_mem_cons.mpr
      ⟨.other (by simp) (List.forall_mem_singleton.mpr argument), List.forall_mem_singleton.mpr ?_⟩
    exact .other (by simp) (List.forall_mem_cons.mpr ⟨test, List.forall_mem_singleton.mpr
      (.other (by simp) (List.forall_mem_singleton.mpr closure))⟩)
  obtain ⟨accepted, -⟩ :=
    well_formed_tests_answered Sample.specializer Sample.asking Sample.ofNothing wellFormed
  exact ⟨wellFormed, accepted, _, by with_unfolding_all rfl, by with_unfolding_all rfl⟩

end Specializer

end Overloading
