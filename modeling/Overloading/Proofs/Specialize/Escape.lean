import Overloading.Proofs.Fold
import Overloading.Proofs.Specialize.Complete
import Overloading.Proofs.Tree

/-! # Where the type test can escape

The residual check looks for calls of the type test only. A body that has the identifier elsewhere, say
stored in a local or in parentheses, passes it. Here is what does hold: an emitted method has the
identifier iff it has it in a place other than that of a callee, and an implementation that only ever
calls it has none left. -/

namespace Overloading

/-! ## Identifiers that are only called

An identifier without declaration is guarded in a tree if it stands nowhere but as what an allowed call
calls. Folding keeps it so: it makes up no identifier and keeps the callee of a call in its place. -/

namespace Node

/-- Whether the identifier of a given name that has no declaration stands in a node only as what an
allowed call calls; which calls are allowed is said by their type arguments and arguments. -/
inductive Guarded (name : String) (allowed : List DeclaredType → List Expr → Prop) : Node → Prop
  | call {typeArgs : List DeclaredType} {args : List Expr} {signature : Option DeclHandle}
      (isAllowed : allowed typeArgs args)
      (guardedArgs : ∀ arg ∈ args, Guarded name allowed (.ofExpr arg)) :
    Guarded name allowed (.ofExpr (.call (.ident name none) typeArgs args signature))
  | other {node : Node} (notIdent : node ≠ .ofExpr (.ident name none))
      (guardedParts : ∀ part ∈ node.parts, Guarded name allowed part) : Guarded name allowed node

variable {name : String} {allowed : List DeclaredType → List Expr → Prop}

/-- The parts of a guarded node other than a call are guarded. -/
theorem Guarded.part {node part : Node} (guarded : node.Guarded name allowed)
    (notCall : ¬ node.IsCall) (mem : part ∈ node.parts) : part.Guarded name allowed := by
  cases guarded with
  | call => exact absurd trivial notCall
  | other _ guardedParts => exact guardedParts part mem

theorem guarded_bool (value : Bool) : (Node.ofExpr (.bool value)).Guarded name allowed :=
  .other (by simp) (List.forall_mem_nil _)

/-! ### Folding -/

/-- What is spliced from guarded nodes is guarded. -/
theorem FromFold.guarded {context : FoldContext} {sources results : List Node}
    (spliced : FromFold context sources results)
    (folded : ∀ source ∈ sources, (source.fold context).Guarded name allowed) :
    ∀ result ∈ results, result.Guarded name allowed :=
  spliced.forall_mem (fun _ guarded _ mem => guarded.part id (List.mem_map_of_mem mem)) folded

/-- Folding keeps an identifier guarded, provided that an allowed call is answered or still allowed with
its arguments folded. -/
theorem Guarded.fold {context : FoldContext} {allowed' : List DeclaredType → List Expr → Prop}
    (keeps : ∀ typeArgs args signature, allowed typeArgs args →
      context.answer? (.call (.ident name none) typeArgs args signature) = none →
        allowed' typeArgs (Expr.foldAll context args))
    {node : Node} (guarded : node.Guarded name allowed) :
    (node.fold context).Guarded name allowed' := by
  -- Along the derivation, not along the node: the callee of an allowed call is not guarded itself.
  induction guarded with
  | @call typeArgs args signature isAllowed _ ih =>
    have guardedArgs : ∀ arg ∈ Expr.foldAll context args, Guarded name allowed' (.ofExpr arg) :=
      List.forall_mem_map.mp ((fromFold_exprs args).guarded (List.forall_mem_map.mpr ih))
    rw [Node.fold, Expr.fold]
    split
    · exact guarded_bool _
    · next unanswered =>
      exact .call (keeps _ _ _ isAllowed unanswered) guardedArgs
  | @other node notIdent _ ih =>
    have folded : node.Folded context (node.fold context) := folded_fold node
    generalize node.fold context = result at folded ⊢
    cases folded with
    | literal value => exact guarded_bool value
    | part _ mem => exact ih _ mem
    | @call callee _ args _ isCall _ =>
      subst isCall
      have parts : FromFold context (.ofExpr callee :: args.map .ofExpr)
          (.ofExpr (callee.fold context) :: (Expr.foldAll context args).map .ofExpr) :=
        (fromFold_exprs args).cons
      exact .other (by simp) (parts.guarded ih)
    | rebuilt _ _ ident parts =>
      -- Folding makes up no identifier, so the result is one only if the node was.
      have notIdent' : result ≠ .ofExpr (.ident name none) :=
        fun isIdent => notIdent ((ident (isIdent ▸ trivial)).trans isIdent)
      exact .other notIdent' (parts.guarded ih)

end Node

/-- Whether an identifier is guarded in all statements of a body. -/
def Stmt.Guarded (name : String) (allowed : List DeclaredType → List Expr → Prop)
    (body : List Stmt) : Prop :=
  ∀ stmt ∈ body, (Node.ofStmt stmt).Guarded name allowed

/-- A folded body is guarded if the calls that are left of the allowed ones are allowed once folded. -/
theorem Stmt.Guarded.foldAll {name : String} {context : FoldContext}
    {allowed allowed' : List DeclaredType → List Expr → Prop} {body : List Stmt}
    (keeps : ∀ typeArgs args signature, allowed typeArgs args →
      context.answer? (.call (.ident name none) typeArgs args signature) = none →
        allowed' typeArgs (Expr.foldAll context args))
    (guarded : Stmt.Guarded name allowed body) :
    Stmt.Guarded name allowed' (Stmt.foldAll context body) := by
  have folded : ∀ stmt ∈ body, ((Node.ofStmt stmt).fold context).Guarded name allowed' :=
    fun stmt mem => (guarded stmt mem).fold keeps
  exact List.forall_mem_map.mp
    ((Node.fromFold_stmts body).guarded (List.forall_mem_map.mpr folded))

/-! ## Presence after folding -/

namespace Node

variable {name : String} {allowed : List DeclaredType → List Expr → Prop}

/-- Where an identifier is guarded and present, it is called by an allowed call. -/
theorem Guarded.call_within {node : Node} (guarded : node.Guarded name allowed)
    (present : (Node.ofExpr (.ident name none)).Within node) :
    ∃ typeArgs args signature, allowed typeArgs args ∧
      (Node.ofExpr (.call (.ident name none) typeArgs args signature)).Within node := by
  induction guarded with
  | call isAllowed => exact ⟨_, _, _, isAllowed, .refl⟩
  | other notIdent _ ih =>
    rcases Relation.ReflTransGen.cases_tail present with isIdent | ⟨part, within, isPart⟩
    · exact absurd isIdent notIdent
    · obtain ⟨typeArgs, args, signature, isAllowed, within⟩ := ih part isPart within
      exact ⟨typeArgs, args, signature, isAllowed, within.tail isPart⟩

/-- An identifier that is absent is guarded. -/
theorem guarded_of_not_within {node : Node}
    (absent : ¬ (Node.ofExpr (.ident name none)).Within node) : node.Guarded name allowed := by
  induction node using Node.induction with
  | step node ih =>
    refine .other ?_ fun part isPart => ih part isPart fun within => absent (within.tail isPart)
    rintro rfl
    exact absent .refl

end Node

/-- Whether a body has the identifier of a given name that has no declaration, at any depth. -/
def Stmt.MentionsUnbound (name : String) (body : List Stmt) : Prop :=
  (Expr.ident name none).OccursIn body

/-- Whether a body has the identifier of a given name that has no declaration only as a callee. -/
def Stmt.OnlyCallsUnbound (name : String) (body : List Stmt) : Prop :=
  Stmt.Guarded name (fun _ _ => True) body

/-- A body has the identifier iff it calls it or has it elsewhere. -/
theorem Stmt.mentionsUnbound_iff {name : String} {body : List Stmt} :
    Stmt.MentionsUnbound name body ↔
      Stmt.CallsUnbound name body ∨ ¬ Stmt.OnlyCallsUnbound name body := by
  constructor
  · -- Where it is only called, the call that it stands in is found on the way down to it.
    rintro ⟨stmt, mem, present⟩
    rw [or_iff_not_imp_right, not_not]
    intro onlyCalls
    obtain ⟨typeArgs, args, signature, -, within⟩ := (onlyCalls stmt mem).call_within present
    exact ⟨typeArgs, args, signature, stmt, mem, within⟩
  · rintro (⟨typeArgs, args, signature, stmt, mem, within⟩ | elsewhere)
    · have isPart : Node.ofExpr (.ident name none) ∈
          (Node.ofExpr (.call (.ident name none) typeArgs args signature)).parts :=
        List.mem_cons_self
      exact ⟨stmt, mem, .head isPart within⟩
    · -- an identifier that is nowhere is guarded for want of a place to go wrong
      by_contra absent
      refine elsewhere fun stmt mem => Node.guarded_of_not_within fun within => ?_
      exact absent ⟨stmt, mem, within⟩

/-- Folding keeps an identifier that is only called so. -/
theorem Stmt.OnlyCallsUnbound.foldAll {name : String} {body : List Stmt}
    (onlyCalls : Stmt.OnlyCallsUnbound name body) (context : FoldContext) :
    Stmt.OnlyCallsUnbound name (Stmt.foldAll context body) :=
  Stmt.Guarded.foldAll (fun _ _ _ _ _ => trivial) onlyCalls

/-! ### Compilation -/

namespace Specializer

variable (specializer : Specializer)

/-- Whether compiling a group gets to one of its signatures and can bind it. -/
def Reaches (group : OverloadGroup) (signature : FunctionDecl) (binding : SignatureBinding) : Prop :=
  (∃ before after, group.signatures = before ++ signature :: after ∧
    ∀ earlier ∈ before, ∃ specialization,
      specializer.specialize group earlier = .ok specialization) ∧
  group.bind specializer.registry signature = .ok binding

/-- Whether a group lets nothing of the type test through: its methods do not have the identifier, and
a signature for which it is left in the folded body is rejected for that reason. -/
structure KeepsIntrinsicOut (group : OverloadGroup) : Prop where
  absent : ∀ diagnostics methods, (specializer.compile group diagnostics).1 = .ok methods →
    ∀ method ∈ methods, ¬ Stmt.MentionsUnbound specializer.options.intrinsicName method.body
  rejected : ∀ signature ∈ group.signatures, ∀ binding,
    group.bind specializer.registry signature = .ok binding →
    Stmt.MentionsUnbound specializer.options.intrinsicName (specializer.foldBody group binding) →
    specializer.specialize group signature =
      .error (.residualIntrinsic group.displayName signature.handle)
  fails : ∀ signature binding, specializer.Reaches group signature binding →
    Stmt.MentionsUnbound specializer.options.intrinsicName (specializer.foldBody group binding) →
    ∀ diagnostics, (specializer.compile group diagnostics).1 =
      .error (.residualIntrinsic group.displayName signature.handle)

variable {specializer} {group : OverloadGroup}

/-- Only signatures of the group are reached. -/
theorem Reaches.mem_signatures {signature : FunctionDecl} {binding : SignatureBinding}
    (reaches : specializer.Reaches group signature binding) : signature ∈ group.signatures := by
  obtain ⟨⟨before, after, split, -⟩, -⟩ := reaches
  simp [split]

/-- Compiling a group fails with the error of the first signature that fails. -/
theorem Reaches.compile_eq_error {signature : FunctionDecl} {binding : SignatureBinding}
    {error : SpecializeError} (reaches : specializer.Reaches group signature binding)
    (failed : specializer.specialize group signature = .error error) (diagnostics : Diagnostics) :
    (specializer.compile group diagnostics).1 = .error error := by
  obtain ⟨⟨before, after, split, earlier⟩, -⟩ := reaches
  rw [(specializer.follows_compile group).fst_eq, except_map_eq_error, specializeAll, mapM_eq_error_iff]
  exact ⟨before, signature, after, split, earlier, failed⟩

/-- It is enough to reject every signature that has the identifier left. -/
theorem keepsIntrinsicOut_of_rejected
    (rejected : ∀ signature ∈ group.signatures, ∀ binding,
      group.bind specializer.registry signature = .ok binding →
      Stmt.MentionsUnbound specializer.options.intrinsicName (specializer.foldBody group binding) →
      specializer.specialize group signature =
        .error (.residualIntrinsic group.displayName signature.handle)) :
    specializer.KeepsIntrinsicOut group where
  absent := by
    intro diagnostics methods success method mem mentions
    obtain ⟨signature, isSignature, specialization, emitted, rfl⟩ :=
      exists_of_mem_forall₂ (specializer.emits_of_compile success) mem
    obtain ⟨binding, bound, -, -, rfl⟩ := specializer.specialize_eq_ok_iff.mp emitted
    -- the body of the method is the folded one, so its signature would have been rejected
    rw [rejected signature isSignature binding bound mentions] at emitted
    cases emitted
  rejected := rejected
  fails := by
    intro signature binding reaches mentions diagnostics
    have failed := rejected signature reaches.mem_signatures binding reaches.2 mentions
    exact reaches.compile_eq_error failed diagnostics

/-- A folded body that has the identifier outside a callee gets through unless it also calls it. -/
theorem KeepsIntrinsicOut.called (keepsOut : specializer.KeepsIntrinsicOut group)
    {signature : FunctionDecl} (mem : signature ∈ group.signatures) {binding : SignatureBinding}
    (bound : group.bind specializer.registry signature = .ok binding)
    (elsewhere : ¬ Stmt.OnlyCallsUnbound specializer.options.intrinsicName
      (specializer.foldBody group binding)) :
    Stmt.CallsUnbound specializer.options.intrinsicName (specializer.foldBody group binding) := by
  have mentions := Stmt.mentionsUnbound_iff.mpr (.inr elsewhere)
  have failed := keepsOut.rejected signature mem binding bound mentions
  exact (((specializer.decidedBy_foldBody bound).residual _ _).mp failed).1

/-- A group keeps the intrinsic out of its methods if each folded body that has the identifier outside a
call of it also has such a call, for which it is refused. -/
theorem keepsIntrinsicOut_of_called
    (called : ∀ signature ∈ group.signatures, ∀ binding,
      group.bind specializer.registry signature = .ok binding →
      Stmt.OnlyCallsUnbound specializer.options.intrinsicName (specializer.foldBody group binding) ∨
        Stmt.CallsUnbound specializer.options.intrinsicName (specializer.foldBody group binding)) :
    specializer.KeepsIntrinsicOut group := by
  refine keepsIntrinsicOut_of_rejected fun signature mem binding bound mentions => ?_
  have calls : Stmt.CallsUnbound specializer.options.intrinsicName
      (specializer.foldBody group binding) := by
    rcases called signature mem binding bound with onlyCalls | calls
    · exact (Stmt.mentionsUnbound_iff.mp mentions).resolve_right (not_not.mpr onlyCalls)
    · exact calls
  exact ((specializer.decidedBy_foldBody bound).residual _ _).mpr ⟨calls, rfl, rfl⟩

/-- An emitted method has the identifier iff it has it outside a callee. -/
theorem Emits.mentionsUnbound_iff {signature : FunctionDecl} {method : SpecializedMethod}
    (emits : specializer.Emits group signature method) :
    Stmt.MentionsUnbound specializer.options.intrinsicName method.body ↔
      ¬ Stmt.OnlyCallsUnbound specializer.options.intrinsicName method.body := by
  rw [Stmt.mentionsUnbound_iff, or_iff_right emits.completeFor.not_calls]

/-- **What the residual check keeps out.** Compiled methods have the identifier iff they have it outside
a callee. Nothing of the type test gets through a group iff each folded body that has the identifier
outside a callee also calls it. So it is for an implementation that has it only as a callee, however the
tests are answered. -/
theorem intrinsic_kept_out_iff (specializer : Specializer) (group : OverloadGroup) :
    (∀ diagnostics methods, (specializer.compile group diagnostics).1 = .ok methods →
      ∀ method ∈ methods,
        (Stmt.MentionsUnbound specializer.options.intrinsicName method.body ↔
          ¬ Stmt.OnlyCallsUnbound specializer.options.intrinsicName method.body)) ∧
    (specializer.KeepsIntrinsicOut group ↔
      ∀ signature ∈ group.signatures, ∀ binding,
        group.bind specializer.registry signature = .ok binding →
        Stmt.OnlyCallsUnbound specializer.options.intrinsicName
            (specializer.foldBody group binding) ∨
          Stmt.CallsUnbound specializer.options.intrinsicName
            (specializer.foldBody group binding)) ∧
    (Stmt.OnlyCallsUnbound specializer.options.intrinsicName (group.implementation.body.getD []) →
      specializer.KeepsIntrinsicOut group) := by
  refine ⟨?_, ⟨?_, keepsIntrinsicOut_of_called⟩, ?_⟩
  · intro diagnostics methods success method mem
    obtain ⟨signature, -, emits⟩ := exists_of_mem_forall₂ (specializer.emits_of_compile success) mem
    exact emits.mentionsUnbound_iff
  · intro keepsOut signature mem binding bound
    exact or_iff_not_imp_left.mpr (keepsOut.called mem bound)
  · intro onlyCalls
    refine keepsIntrinsicOut_of_called fun signature _ binding _ => .inl ?_
    exact onlyCalls.foldAll (specializer.foldContext group binding)

end Specializer

namespace Sample

/-- `f(x) { return isType<number>(x); }`. -/
def testing : OverloadGroup where
  owner := none
  name := "f"
  implementation := { implementation with body := some [.ret (some isNumber)] }
  signatures := [ofNumber]

/-- `f(x) { let test = isType; return x; }`. -/
def storing : OverloadGroup where
  owner := none
  name := "f"
  implementation := { implementation with body := some [
    .letDecl ⟨10⟩ "test" none false (some (.ident "isType" none)),
    .ret (some (.ident "x" (some ⟨2⟩)))] }
  signatures := [ofNumber]

/-- The method for `f(x: number)`, in which nothing is folded. -/
def storingMethod : SpecializedMethod :=
  { numberMethod with body := storing.implementation.body.getD [] }

/-- The sample that stores the intrinsic is compiled without failure. -/
theorem compile_storing : (specializer.compile storing ⟨[]⟩).1 = .ok [storingMethod] := by
  with_unfolding_all rfl

end Sample

namespace Specializer

/-- A body that only calls the intrinsic keeps it out; the method of one that stores it has it exactly
because it is not only called. -/
theorem intrinsic_kept_out_sample :
    Stmt.OnlyCallsUnbound "isType" (Sample.testing.implementation.body.getD []) ∧
      Sample.specializer.KeepsIntrinsicOut Sample.testing ∧
      (Sample.specializer.compile Sample.storing ⟨[]⟩).1 = .ok [Sample.storingMethod] ∧
      (Stmt.MentionsUnbound "isType" Sample.storingMethod.body ↔
        ¬ Stmt.OnlyCallsUnbound "isType" Sample.storingMethod.body) := by
  have onlyCalls :
      Stmt.OnlyCallsUnbound "isType" (Sample.testing.implementation.body.getD []) := by
    have param : (Node.ofExpr (.ident "x" (some ⟨2⟩))).Guarded "isType" fun _ _ => True :=
      .other (by simp) (List.forall_mem_nil _)
    have test : (Node.ofExpr Sample.isNumber).Guarded "isType" fun _ _ => True :=
      .call trivial (List.forall_mem_singleton.mpr param)
    exact List.forall_mem_singleton.mpr (.other (by simp) (List.forall_mem_singleton.mpr test))
  exact ⟨onlyCalls, (intrinsic_kept_out_iff Sample.specializer Sample.testing).2.2 onlyCalls,
    Sample.compile_storing, (intrinsic_kept_out_iff Sample.specializer Sample.storing).1 _ _
      Sample.compile_storing _ (List.mem_singleton_self _)⟩

/-- A type test that is stored in a local gets through. -/
theorem stored_intrinsic_gets_through :
    (Sample.specializer.compile Sample.storing ⟨[]⟩).1 = .ok [Sample.storingMethod] ∧
      Stmt.MentionsUnbound "isType" Sample.storingMethod.body := by
  refine ⟨Sample.compile_storing, _, List.mem_cons_self, .single ?_⟩
  simp [Node.parts, Stmt.parts]

end Specializer

end Overloading
