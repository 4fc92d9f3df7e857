import Overloading.Proofs.Specialize
import Overloading.Proofs.Tree

/-! # The checks of a folded body are exact

A signature that can be bound is refused iff the folded body calls the type test, or else refers to a
parameter that the signature lacks; which expressions there are is said by the structure of the tree
alone. So no emitted method calls the type test or refers to a parameter that it does not have. -/

namespace Overloading

/-! ## What the checks look for -/

/-- Whether a body calls the identifier of a given name that has no declaration, at any depth. -/
def Stmt.CallsUnbound (name : String) (body : List Stmt) : Prop :=
  ∃ typeArgs args signature, (Expr.call (.ident name none) typeArgs args signature).OccursIn body

/-- Whether an expression is an identifier that is bound to one of the given declarations. -/
def Expr.RefersTo (decls : List DeclHandle) (expr : Expr) : Prop :=
  ∃ name, ∃ decl ∈ decls, expr = .ident name (some decl)

/-- Whether a body refers to one of the given declarations, at any depth. -/
def Stmt.RefersTo (decls : List DeclHandle) (body : List Stmt) : Prop :=
  ∃ expr : Expr, expr.OccursIn body ∧ expr.RefersTo decls

/-- Whether a declaration is the first of the given ones that a body refers to, in pre-order. -/
def Stmt.FirstReference (decls : List DeclHandle) (body : List Stmt) (decl : DeclHandle) : Prop :=
  decl ∈ decls ∧ ∃ name before after,
    Stmt.preorderExprs body = before ++ .ident name (some decl) :: after ∧
      ∀ expr ∈ before, ¬ expr.RefersTo decls

/-- An expression calls the intrinsic iff it is a call of the identifier without declaration. -/
theorem Expr.isIntrinsicCall_iff {name : String} {expr : Expr} :
    expr.isIntrinsicCall name = true ↔
      ∃ typeArgs args signature, expr = .call (.ident name none) typeArgs args signature := by
  cases expr <;> simp [Expr.isIntrinsicCall, Expr.isUnbound_iff]

/-- The residual check finds a call of the intrinsic iff there is one at any depth. -/
theorem Stmt.callsIntrinsic_iff {name : String} {body : List Stmt} :
    Stmt.callsIntrinsic name body = true ↔ Stmt.CallsUnbound name body := by
  simp only [callsIntrinsic, List.any_eq_true, Expr.isIntrinsicCall_iff, mem_subexprsAll_iff,
    CallsUnbound]
  constructor
  · rintro ⟨_, occurs, typeArgs, args, signature, rfl⟩
    exact ⟨typeArgs, args, signature, occurs⟩
  · rintro ⟨typeArgs, args, signature, occurs⟩
    exact ⟨_, occurs, typeArgs, args, signature, rfl⟩

/-- A bound identifier refers to the given declarations iff its own is one of them. -/
theorem Expr.refersTo_ident {decls : List DeclHandle} {name : String} {decl : DeclHandle} :
    (Expr.ident name (some decl)).RefersTo decls ↔ decl ∈ decls := by
  simp [RefersTo]

/-- Only identifiers are bound to declarations. -/
theorem Expr.boundDecl?_eq_some_iff {expr : Expr} {decl : DeclHandle} :
    expr.boundDecl? = some decl ↔ ∃ name, expr = .ident name (some decl) := by
  cases expr <;> simp [Expr.boundDecl?]

/-- The test for a reference succeeds iff the expression refers to one of the declarations. -/
theorem Expr.boundDecl?_any_iff {decls : List DeclHandle} {expr : Expr} :
    (expr.boundDecl?.any fun decl => decls.contains decl) = true ↔ expr.RefersTo decls := by
  simp only [Option.any_eq_true, List.contains_iff_mem, boundDecl?_eq_some_iff, RefersTo]
  constructor
  · rintro ⟨decl, ⟨name, rfl⟩, mem⟩
    exact ⟨name, decl, mem, rfl⟩
  · rintro ⟨name, decl, mem, rfl⟩
    exact ⟨decl, ⟨name, rfl⟩, mem⟩

/-- No reference is found iff there is none at any depth. -/
theorem Stmt.firstReference?_eq_none_iff {decls : List DeclHandle} {body : List Stmt} :
    Stmt.firstReference? decls body = none ↔ ¬ Stmt.RefersTo decls body := by
  simp only [firstReference?, List.find?_eq_none, List.mem_filterMap, List.contains_iff_mem,
    mem_subexprsAll_iff, Expr.boundDecl?_eq_some_iff]
  constructor
  · rintro clean ⟨_, occurs, name, decl, mem, rfl⟩
    exact clean decl ⟨_, occurs, name, rfl⟩ mem
  · rintro clean decl ⟨_, occurs, name, rfl⟩ mem
    exact clean ⟨_, occurs, name, decl, mem, rfl⟩

/-- The reference that is found is the first one in pre-order. -/
theorem Stmt.firstReference?_eq_some_iff {decls : List DeclHandle} {body : List Stmt}
    {decl : DeclHandle} :
    Stmt.firstReference? decls body = some decl ↔ Stmt.FirstReference decls body decl := by
  -- the search passes over exactly what does not refer to the declarations
  have skipped (expr : Expr) : (!(expr.boundDecl?.any fun decl => decls.contains decl)) = true ↔
      ¬ expr.RefersTo decls := by
    rw [Bool.not_eq_true', ← Bool.not_eq_true, Expr.boundDecl?_any_iff]
  rw [firstReference?, List.find?_filterMap, Option.bind_eq_some_iff, subexprsAll_eq]
  simp only [List.find?_eq_some_iff_append, Expr.boundDecl?_any_iff, skipped,
    Expr.boundDecl?_eq_some_iff]
  constructor
  · rintro ⟨_, ⟨refers, before, after, split, earlier⟩, name, rfl⟩
    exact ⟨Expr.refersTo_ident.mp refers, name, before, after, split, earlier⟩
  · rintro ⟨mem, name, before, after, split, earlier⟩
    exact ⟨_, ⟨Expr.refersTo_ident.mpr mem, before, after, split, earlier⟩, name, rfl⟩

/-- A body that has a first reference has a reference. -/
theorem Stmt.FirstReference.refersTo {decls : List DeclHandle} {body : List Stmt} {decl : DeclHandle}
    (first : Stmt.FirstReference decls body decl) : Stmt.RefersTo decls body := by
  by_contra absent
  have none := Stmt.firstReference?_eq_none_iff.mpr absent
  rw [Stmt.firstReference?_eq_some_iff.mpr first] at none
  cases none

/-! ## Specialization -/

/-- The parameters of the implementation that a signature does not supply. -/
def OverloadGroup.lacking (group : OverloadGroup) (signature : FunctionDecl) : List DeclHandle :=
  group.implementation.params.drop signature.params.length

/-- Whether a method serves a signature of a group with a complete body: one that neither calls the
type test nor refers to a parameter that the signature lacks. -/
structure SpecializedMethod.CompleteFor (method : SpecializedMethod) (intrinsicName : String)
    (group : OverloadGroup) (signature : FunctionDecl) : Prop where
  signature_eq : method.signature = signature.handle
  not_calls : ¬ Stmt.CallsUnbound intrinsicName method.body
  not_refers : ¬ Stmt.RefersTo (group.lacking signature) method.body

namespace Specializer

variable (specializer : Specializer)

/-- How the folded body of a bound signature decides what specialization gives. -/
structure DecidedBy (group : OverloadGroup) (signature : FunctionDecl) (body : List Stmt) : Prop where
  residual : ∀ name handle,
    specializer.specialize group signature = .error (.residualIntrinsic name handle) ↔
      Stmt.CallsUnbound specializer.options.intrinsicName body ∧
        name = group.displayName ∧ handle = signature.handle
  missing : (∃ name handle param, specializer.specialize group signature =
      .error (.missingParameterReference name handle param)) ↔
    ¬ Stmt.CallsUnbound specializer.options.intrinsicName body ∧
      Stmt.RefersTo (group.lacking signature) body
  /-- The parameter is reported by its name, or by its handle if it is not registered. -/
  reported : ∀ name handle param, specializer.specialize group signature =
      .error (.missingParameterReference name handle param) →
    name = group.displayName ∧ handle = signature.handle ∧
      ∃ decl, Stmt.FirstReference (group.lacking signature) body decl ∧
        param = ((specializer.registry.facts? decl).map fun facts => facts.name).getD decl.render
  emitted : (∃ specialization, specializer.specialize group signature = .ok specialization ∧
      specialization.method.body = body) ↔
    ¬ Stmt.CallsUnbound specializer.options.intrinsicName body ∧
      ¬ Stmt.RefersTo (group.lacking signature) body

/-- Once a signature is bound, all that follows is decided by the folded body. -/
theorem decidedBy_foldBody {group : OverloadGroup} {signature : FunctionDecl}
    {binding : SignatureBinding} (bound : group.bind specializer.registry signature = .ok binding) :
    specializer.DecidedBy group signature (specializer.foldBody group binding) := by
  have lacks : binding.missing = group.lacking signature :=
    OverloadGroup.missing_of_bind bound
  have outcome := specializer.specialize_of_bind bound
  rw [lacks] at outcome
  by_cases calls : Stmt.callsIntrinsic specializer.options.intrinsicName
      (specializer.foldBody group binding) = true
  · -- The residual check comes first: a missing parameter is not looked for.
    rw [if_pos calls] at outcome
    have found := Stmt.callsIntrinsic_iff.mp calls
    constructor <;> simp [outcome, found, eq_comm]
  · rw [if_neg calls] at outcome
    have clean := Stmt.callsIntrinsic_iff.not.mp calls
    cases first : Stmt.firstReference? (group.lacking signature)
        (specializer.foldBody group binding) with
    | some decl =>
      -- a missing parameter is referred to: the first reference is the one reported
      rw [first] at outcome
      have isFirst := Stmt.firstReference?_eq_some_iff.mp first
      constructor
      · simp [outcome, clean]
      · simp [outcome, clean, isFirst.refersTo]
      · rintro name handle param reported
        rw [outcome] at reported
        cases reported
        refine ⟨rfl, rfl, decl, isFirst, ?_⟩
        rw [Registry.nameOf]
        cases specializer.registry.facts? decl <;> rfl
      · simp [outcome, isFirst.refersTo]
    | none =>
      -- the body passes both checks
      rw [first] at outcome
      have absent := Stmt.firstReference?_eq_none_iff.mp first
      constructor
      · simp [outcome, clean]
      · simp [outcome, absent]
      · simp [outcome]
      · simp [outcome, clean, absent, emit]

variable {specializer}

/-- An emitted method is complete for its signature. -/
theorem Emits.completeFor {group : OverloadGroup} {signature : FunctionDecl}
    {method : SpecializedMethod} (emits : specializer.Emits group signature method) :
    method.CompleteFor specializer.options.intrinsicName group signature := by
  obtain ⟨specialization, success, rfl⟩ := emits
  obtain ⟨binding, bound, -, -, rfl⟩ := specializer.specialize_eq_ok_iff.mp success
  have decided := specializer.decidedBy_foldBody bound
  obtain ⟨clean, absent⟩ := decided.emitted.mp ⟨_, success, rfl⟩
  exact ⟨rfl, clean, absent⟩

/-- Whether methods serve the signatures of a scope in order, each with a complete body. -/
def CompleteScope (owner : Option String) (decls : List FunctionDecl)
    (methods : List SpecializedMethod) : Prop :=
  ∃ groups, collectGroups owner decls = .ok groups ∧
    List.Forall₂ (fun task method =>
        method.CompleteFor specializer.options.intrinsicName task.1 task.2)
      (served groups) methods

/-- The methods that are emitted for a scope are complete, one for each signature in order. -/
theorem EmitsScope.completeScope {owner : Option String} {decls : List FunctionDecl}
    {methods : List SpecializedMethod} (emits : specializer.EmitsScope owner decls methods) :
    specializer.CompleteScope owner decls methods := by
  obtain ⟨groups, collected, emitted⟩ := emits
  exact ⟨groups, collected, emitted.imp fun _ _ emits => emits.completeFor⟩

/-- **The checks are exact.** What specialization gives for a bound signature is decided by the
expressions of the folded body, and so every method that is emitted for a group or for a module is
complete. -/
theorem specialize_checks_exactly (specializer : Specializer) :
    (∀ group signature binding, group.bind specializer.registry signature = .ok binding →
      specializer.DecidedBy group signature (specializer.foldBody group binding)) ∧
    (∀ group diagnostics methods, (specializer.compile group diagnostics).1 = .ok methods →
      List.Forall₂ (fun signature method =>
          method.CompleteFor specializer.options.intrinsicName group signature)
        group.signatures methods) ∧
    ∀ module result, specializer.specializeModule module = .ok result →
      specializer.CompleteScope none module.functions result.functions ∧
      List.Forall₂ (fun declared emitted =>
          specializer.CompleteScope (some declared.name) declared.members emitted.members)
        module.classes result.classes := by
  refine ⟨fun _ _ _ bound => specializer.decidedBy_foldBody bound, ?_, ?_⟩
  · intro group diagnostics methods success
    exact (specializer.emits_of_compile success).imp fun _ _ emits => emits.completeFor
  · intro module result success
    obtain ⟨functions, classes⟩ := specializer.emits_of_specializeModule success
    exact ⟨functions.completeScope, classes.imp fun _ _ emits => emits.2.completeScope⟩

end Specializer

/-- `f()` lacks the parameter that the sample implementation reads. -/
def Sample.ofNothing : FunctionDecl where
  handle := ⟨10⟩
  name := "f"
  kind := .function

namespace Specializer

/-- The outcome for `f()` is decided by its folded body, and what is emitted for the sample module is
complete. -/
theorem specialize_checks_exactly_sample :
    (∃ binding, Sample.group.bind Sample.registry Sample.ofNothing = .ok binding ∧
      Sample.specializer.DecidedBy Sample.group Sample.ofNothing
        (Sample.specializer.foldBody Sample.group binding)) ∧
    List.Forall₂ (fun signature method =>
        method.CompleteFor "isType" Sample.group signature)
      [Sample.ofNumber, Sample.ofString] [Sample.numberMethod, Sample.stringMethod] ∧
    Sample.specializer.CompleteScope none Sample.module.functions Sample.specialized.functions ∧
    List.Forall₂ (fun declared emitted =>
        Sample.specializer.CompleteScope (some declared.name) declared.members emitted.members)
      Sample.module.classes Sample.specialized.classes := by
  obtain ⟨decided, groups, modules⟩ := specialize_checks_exactly Sample.specializer
  have bound : Sample.group.bind Sample.registry Sample.ofNothing =
      .ok ⟨.ofParams [] [⟨2⟩], [], [⟨2⟩]⟩ := by with_unfolding_all rfl
  have compiled : (Sample.specializer.compile Sample.group ⟨[]⟩).1 =
      .ok [Sample.numberMethod, Sample.stringMethod] := by with_unfolding_all rfl
  exact ⟨⟨_, bound, decided _ _ _ bound⟩, groups _ _ _ compiled,
    modules _ _ Sample.specializeModule_module⟩

end Specializer

end Overloading
