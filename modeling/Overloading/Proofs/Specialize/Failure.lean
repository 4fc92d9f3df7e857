import Overloading.Proofs.Specialize.Complete
import Overloading.Proofs.Specialize.Module

/-! # When specialization fails

A module is specialized iff each of its functions has one body, and each signature fits that body: it has
no more parameters, these and the ones that they are matched with are registered, and the folded body is
complete (`Specializer.Admits`). `Specializer.violations` lists all that is wrong with a module, in the
order in which its scopes, functions and signatures are processed. Specialization fails with the first
of them. -/

namespace Overloading

/-! ## Bodies -/

/-- What is wrong with the declarations of a function unless exactly one of them has a body. -/
def FunctionDecl.bodyViolations (group : String) (members : List FunctionDecl) :
    List SpecializeError :=
  match members.countP FunctionDecl.hasBody with
  | 0 => [.noImplementation group]
  | 1 => []
  | count => [.multipleImplementations group count]

/-- Nothing is wrong with the bodies of a function iff exactly one declaration has one. -/
theorem FunctionDecl.bodyViolations_eq_nil_iff {group : String} {members : List FunctionDecl} :
    FunctionDecl.bodyViolations group members = [] ↔
      ∃ implementation, members.filter FunctionDecl.hasBody = [implementation] := by
  rw [← List.length_eq_one_iff, ← List.countP_eq_length_filter, FunctionDecl.bodyViolations]
  split
  · next none => simp [none]
  · next one => simp [one]
  · next several => simpa using several

/-- Making a group fails for what is wrong with the bodies. -/
theorem OverloadGroup.reports_ofDeclarations (owner : Option String) (name : String)
    (members : List FunctionDecl) :
    Reports (OverloadGroup.ofDeclarations owner name members)
      (FunctionDecl.bodyViolations (qualifiedName owner name) members) := by
  rw [OverloadGroup.ofDeclarations, FunctionDecl.bodyViolations, List.countP_eq_length_filter]
  match members.filter FunctionDecl.hasBody with
  | [] => exact reports_error _ _
  | [_] => exact reports_ok _
  | _ :: _ :: _ => exact reports_error _ _

/-- Collecting the groups of a scope fails for the first function whose bodies are wrong. -/
theorem reports_collectGroups (owner : Option String) (decls : List FunctionDecl) :
    Reports (collectGroups owner decls)
      ((keyedClasses (FunctionDecl.groupKey owner) decls).flatMap fun group =>
        FunctionDecl.bodyViolations (qualifiedName owner group.1.name) group.2) := by
  rw [collectGroups_eq]
  exact reports_mapM fun bucket _ => OverloadGroup.reports_ofDeclarations owner bucket.1.name bucket.2

/-! ## Parameters -/

/-- What is wrong with the given handles: those that are not registered. -/
def Registry.unknownHandles (registry : Registry) (handles : List DeclHandle) :
    List SpecializeError :=
  (handles.filter fun handle => (registry.facts? handle).isNone).map .unknownDeclaration

/-- Nothing is wrong with handles iff they are all registered. -/
theorem Registry.unknownHandles_eq_nil_iff {registry : Registry} {handles : List DeclHandle} :
    registry.unknownHandles handles = [] ↔
      ∀ handle ∈ handles, (registry.facts? handle).isSome := by
  simp [Registry.unknownHandles, List.filter_eq_nil_iff, Option.ne_none_iff_isSome]

/-- Looking up a handle fails if it is not registered. -/
theorem Registry.reports_requireFacts (registry : Registry) (handle : DeclHandle) :
    Reports (registry.requireFacts handle) (registry.unknownHandles [handle]) := by
  rw [Registry.requireFacts, Registry.unknownHandles]
  cases unknown : registry.facts? handle with
  | none => simpa [unknown] using reports_error _ _
  | some facts => simpa [unknown] using reports_ok _

/-- What is wrong with two lists of handles is what is wrong with the one and then with the other. -/
theorem Registry.unknownHandles_append (registry : Registry) (handles others : List DeclHandle) :
    registry.unknownHandles (handles ++ others) =
      registry.unknownHandles handles ++ registry.unknownHandles others := by
  simp [Registry.unknownHandles]

/-- Binding a parameter fails for the first of the two handles that is not registered. -/
theorem MethodParam.reports_bind (registry : Registry) (typeParams : List String)
    (params : DeclHandle × DeclHandle) :
    Reports (MethodParam.bind registry typeParams params)
      (registry.unknownHandles [params.1, params.2]) := by
  have split : registry.unknownHandles [params.1, params.2] =
      registry.unknownHandles [params.1] ++ registry.unknownHandles [params.2] :=
    registry.unknownHandles_append [params.1] [params.2]
  rw [split]
  refine (registry.reports_requireFacts params.1).bind fun declared _ => ?_
  exact (registry.reports_requireFacts params.2).bind_ok

namespace FunctionDecl

variable (implementation signature : FunctionDecl)

/-- The parameters of a signature, each with the one of the implementation at the same position. -/
def matchedHandles : List DeclHandle :=
  (signature.params.zip implementation.params).flatMap fun params => [params.1, params.2]

/-- The parameters of an implementation that a signature lacks. -/
def lackedHandles : List DeclHandle := implementation.params.drop signature.params.length

/-- What is wrong with the parameters of a signature: that there are too many, then those that are not
registered. -/
def paramViolations (registry : Registry) (group : String) : List SpecializeError :=
  (if implementation.params.length < signature.params.length then
    [.signatureTooLong group signature.handle signature.params.length implementation.params.length]
  else []) ++ registry.unknownHandles (implementation.matchedHandles signature)

/-- The types under which a signature has the body of the implementation folded: those that it declares
for the parameters that it has, and none for the others. -/
def typesFor (registry : Registry) : ParamTypes :=
  .ofList ((signature.params.zip implementation.params).map (fun params =>
      (params.2, .ofDeclared? signature.typeParams (registry.declaredType? params.1))) ++
    (implementation.lackedHandles signature).map fun handle => (handle, .absent))

end FunctionDecl

/-- Binding a signature fails for the first thing that is wrong with its parameters. -/
theorem OverloadGroup.reports_bind (group : OverloadGroup) (registry : Registry)
    (signature : FunctionDecl) :
    Reports (group.bind registry signature)
      (group.implementation.paramViolations signature registry group.displayName) := by
  have matched : registry.unknownHandles (group.implementation.matchedHandles signature) =
      (signature.params.zip group.implementation.params).flatMap fun params =>
        registry.unknownHandles [params.1, params.2] := by
    simp [FunctionDecl.matchedHandles, Registry.unknownHandles, List.filter_flatMap,
      List.map_flatMap]
  rw [FunctionDecl.paramViolations, matched]
  refine reports_ite fun _ => ?_
  exact (reports_mapM fun params _ => MethodParam.reports_bind registry _ params).bind_ok

/-- A binding has the types that the signature declares. -/
theorem OverloadGroup.types_of_bind {group : OverloadGroup} {registry : Registry}
    {signature : FunctionDecl} {binding : SignatureBinding}
    (bound : group.bind registry signature = .ok binding) :
    binding.types = group.implementation.typesFor signature registry := by
  obtain ⟨-, -, missing, types⟩ := OverloadGroup.bind_eq_ok_iff.mp bound
  rw [types, ParamTypes.ofParams, OverloadGroup.parameters_of_bind bound, missing]
  rfl

/-! ## Signatures -/

instance (name : String) (body : List Stmt) : Decidable (Stmt.CallsUnbound name body) :=
  decidable_of_iff (Stmt.callsIntrinsic name body = true) Stmt.callsIntrinsic_iff

/-- The references of a body to the given declarations, in pre-order. -/
def Stmt.referencesTo (decls : List DeclHandle) (body : List Stmt) : List DeclHandle :=
  ((Stmt.preorderExprs body).filterMap Expr.boundDecl?).filter fun decl => decls.contains decl

/-- The first of the references is the one that the check finds. -/
theorem Stmt.head?_referencesTo (decls : List DeclHandle) (body : List Stmt) :
    (Stmt.referencesTo decls body).head? = Stmt.firstReference? decls body := by
  rw [Stmt.referencesTo, List.head?_filter, Stmt.firstReference?, Stmt.subexprsAll_eq]

/-- A body has no references in the list iff it does not refer to the declarations. -/
theorem Stmt.referencesTo_eq_nil_iff {decls : List DeclHandle} {body : List Stmt} :
    Stmt.referencesTo decls body = [] ↔ ¬ Stmt.RefersTo decls body := by
  rw [← List.head?_eq_none_iff, Stmt.head?_referencesTo, Stmt.firstReference?_eq_none_iff]

/-- The residual check fails for a call of the type test. -/
theorem reports_checkResidual (name group : String) (signature : DeclHandle) (body : List Stmt) :
    Reports (checkResidual name group signature body)
      (if Stmt.CallsUnbound name body then [.residualIntrinsic group signature] else []) := by
  rw [checkResidual]
  by_cases calls : Stmt.callsIntrinsic name body = true
  · rw [if_pos calls, if_pos (Stmt.callsIntrinsic_iff.mp calls)]
    exact reports_error _ _
  · rw [if_neg calls, if_neg (Stmt.callsIntrinsic_iff.not.mp calls)]
    exact reports_ok ()

/-- The check for missing parameters fails for the first reference to one. -/
theorem reports_checkMissing (registry : Registry) (missing : List DeclHandle) (group : String)
    (signature : DeclHandle) (body : List Stmt) :
    Reports (checkMissing registry missing group signature body)
      ((Stmt.referencesTo missing body).map fun param =>
        .missingParameterReference group signature (registry.nameOf param)) := by
  intro error
  rw [List.head?_map, Stmt.head?_referencesTo, checkMissing]
  cases Stmt.firstReference? missing body <;> simp

namespace Specializer

variable (specializer : Specializer) (implementation signature : FunctionDecl)

/-- The body of an implementation, folded for the types that a signature declares. -/
def bodyFor : List Stmt :=
  Stmt.foldAll
    { intrinsicName := specializer.options.intrinsicName
      typeParams := implementation.typeParams
      types := implementation.typesFor signature specializer.registry }
    (implementation.body.getD [])

/-- What is wrong with a signature: its parameters, then a call of the type test that is left in the
folded body, then the references to parameters that the signature lacks. -/
def signatureViolations (group : String) : List SpecializeError :=
  implementation.paramViolations signature specializer.registry group ++
    ((if Stmt.CallsUnbound specializer.options.intrinsicName
          (specializer.bodyFor implementation signature) then
        [.residualIntrinsic group signature.handle] else []) ++
      (Stmt.referencesTo (implementation.lackedHandles signature)
          (specializer.bodyFor implementation signature)).map fun param =>
        .missingParameterReference group signature.handle (specializer.registry.nameOf param))

/-- Whether a signature can be served by an implementation. -/
structure AdmitsSignature : Prop where
  short : signature.params.length ≤ implementation.params.length
  registered : ∀ params ∈ signature.params.zip implementation.params,
    (specializer.registry.facts? params.1).isSome ∧ (specializer.registry.facts? params.2).isSome
  not_calls : ¬ Stmt.CallsUnbound specializer.options.intrinsicName
    (specializer.bodyFor implementation signature)
  not_refers : ¬ Stmt.RefersTo (implementation.lackedHandles signature)
    (specializer.bodyFor implementation signature)

end Specializer

/-- Nothing is wrong with the parameters of a signature iff they are not too many and all that are
matched are registered. -/
theorem FunctionDecl.paramViolations_eq_nil_iff {implementation signature : FunctionDecl}
    {registry : Registry} {group : String} :
    implementation.paramViolations signature registry group = [] ↔
      signature.params.length ≤ implementation.params.length ∧
        ∀ params ∈ signature.params.zip implementation.params,
          (registry.facts? params.1).isSome ∧ (registry.facts? params.2).isSome := by
  rw [FunctionDecl.paramViolations, List.append_eq_nil_iff, Registry.unknownHandles_eq_nil_iff,
    FunctionDecl.matchedHandles, List.forall_mem_flatMap]
  simp

namespace Specializer

variable (specializer : Specializer)

/-- Nothing is wrong with a signature iff the implementation can serve it. -/
theorem signatureViolations_eq_nil_iff {implementation signature : FunctionDecl} {group : String} :
    specializer.signatureViolations implementation signature group = [] ↔
      specializer.AdmitsSignature implementation signature := by
  rw [signatureViolations, List.append_eq_nil_iff, List.append_eq_nil_iff, List.map_eq_nil_iff,
    FunctionDecl.paramViolations_eq_nil_iff, Stmt.referencesTo_eq_nil_iff]
  constructor
  · rintro ⟨⟨short, registered⟩, residual, missing⟩
    exact ⟨short, registered, by simpa using residual, missing⟩
  · rintro ⟨short, registered, residual, missing⟩
    exact ⟨⟨short, registered⟩, by simpa using residual, missing⟩

/-- A signature is refused for the first thing that is wrong with it. -/
theorem reports_specialize (group : OverloadGroup) (signature : FunctionDecl) :
    Reports (specializer.specialize group signature)
      (specializer.signatureViolations group.implementation signature group.displayName) := by
  refine (group.reports_bind specializer.registry signature).bind fun binding bound => ?_
  -- the body and the missing parameters are those of the signature alone, whatever the binding is
  have folded : specializer.foldBody group binding =
      specializer.bodyFor group.implementation signature := by
    rw [foldBody, foldContext, OverloadGroup.types_of_bind bound, bodyFor]
  have lacks : binding.missing = group.implementation.lackedHandles signature :=
    OverloadGroup.missing_of_bind bound
  rw [folded, lacks]
  refine (reports_checkResidual _ _ _ _).bind fun _ _ => ?_
  exact (reports_checkMissing _ _ _ _ _).bind_ok

/-! ## Scopes and modules -/

/-- What is wrong with a scope: the bodies of its functions, then their signatures. -/
def scopeViolations (owner : Option String) (decls : List FunctionDecl) : List SpecializeError :=
  let groups := keyedClasses (FunctionDecl.groupKey owner) decls
  groups.flatMap (fun group =>
      FunctionDecl.bodyViolations (qualifiedName owner group.1.name) group.2) ++
    groups.flatMap fun group => (FunctionDecl.servedBy group.2).flatMap fun pair =>
      specializer.signatureViolations pair.1 pair.2 (qualifiedName owner group.1.name)

/-- What is wrong with a module: its free functions, then one class after the other. -/
def violations (module : Module) : List SpecializeError :=
  specializer.scopeViolations none module.functions ++
    module.classes.flatMap fun declared =>
      specializer.scopeViolations (some declared.name) declared.members

/-- Whether each function of a scope has one body, which can serve all its signatures. -/
def AdmitsScope (owner : Option String) (decls : List FunctionDecl) : Prop :=
  ∀ members ∈ classesBy (FunctionDecl.groupKey owner) decls, ∃ implementation,
    members.filter FunctionDecl.hasBody = [implementation] ∧
      ∀ signature ∈ FunctionDecl.signaturesOf members,
        specializer.AdmitsSignature implementation signature

/-- Whether each function of a module has one body, which can serve all its signatures. -/
def Admits (module : Module) : Prop :=
  specializer.AdmitsScope none module.functions ∧
    ∀ declared ∈ module.classes, specializer.AdmitsScope (some declared.name) declared.members

/-- Nothing is wrong with a scope iff each function has one body that can serve all signatures. -/
theorem scopeViolations_eq_nil_iff {owner : Option String} {decls : List FunctionDecl} :
    specializer.scopeViolations owner decls = [] ↔ specializer.AdmitsScope owner decls := by
  simp only [scopeViolations, AdmitsScope, List.append_eq_nil_iff, List.flatMap_eq_nil_iff,
    FunctionDecl.bodyViolations_eq_nil_iff, signatureViolations_eq_nil_iff, classesBy,
    List.forall_mem_map, ← forall₂_and]
  refine forall₂_congr fun group _ => ?_
  constructor
  · rintro ⟨⟨implementation, one⟩, served⟩
    refine ⟨implementation, one, fun signature isSignature => served (implementation, signature) ?_⟩
    simpa [FunctionDecl.servedBy, one] using isSignature
  · rintro ⟨implementation, one, admits⟩
    refine ⟨⟨implementation, one⟩, fun pair isServed => ?_⟩
    rw [FunctionDecl.servedBy, one, List.flatMap_singleton] at isServed
    obtain ⟨signature, isSignature, rfl⟩ := List.mem_map.mp isServed
    exact admits signature isSignature

/-- Nothing is wrong with a module iff nothing is wrong with its scopes. -/
theorem violations_eq_nil_iff {module : Module} :
    specializer.violations module = [] ↔ specializer.Admits module := by
  simp only [violations, Admits, List.append_eq_nil_iff, List.flatMap_eq_nil_iff,
    scopeViolations_eq_nil_iff]

/-- Specializing a scope fails for the first thing that is wrong with it. -/
theorem reports_specializeScope (owner : Option String) (decls : List FunctionDecl) :
    Reports (specializer.specializeScope owner decls) (specializer.scopeViolations owner decls) := by
  rw [specializeScope_eq]
  refine (reports_collectGroups owner decls).bind fun groups collected => ?_
  -- once the groups are made, their signatures are those of the classes that they are made of
  have tasks : ((keyedClasses (FunctionDecl.groupKey owner) decls).flatMap fun group =>
        (FunctionDecl.servedBy group.2).flatMap fun pair =>
          specializer.signatureViolations pair.1 pair.2 (qualifiedName owner group.1.name)) =
      (served groups).flatMap fun task =>
        specializer.signatureViolations task.1.implementation task.2 task.1.displayName := by
    rw [served, List.flatMap_assoc]
    refine flatMap_eq_of_forall₂ (fun bucket group made => ?_) (collectGroups_eq_ok_iff.mp collected)
    have display : group.displayName = qualifiedName owner bucket.1.name := by
      rw [OverloadGroup.displayName, made.owner_eq, made.name_eq]
    rw [made.servedBy_eq, List.flatMap_map, List.flatMap_map, ← display]
  rw [tasks]
  exact reports_mapM fun task _ => specializer.reports_specialize task.1 task.2

/-- **Specialization fails with the first violation.** A module is specialized iff all its functions and
signatures are in order, and otherwise the error is that of the first violation in the order of
processing. -/
theorem specializeModule_fails_first (specializer : Specializer) (module : Module) :
    ((∃ result, specializer.specializeModule module = .ok result) ↔ specializer.Admits module) ∧
    ∀ error, specializer.specializeModule module = .error error ↔
      (specializer.violations module).head? = some error := by
  have reports : Reports (specializer.specializeModule module) (specializer.violations module) := by
    rw [specializeModule_eq]
    -- the free functions are done before the first class
    refine (specializer.reports_specializeScope none module.functions).bind fun functions _ => ?_
    exact (reports_mapM fun declared _ =>
      (specializer.reports_specializeScope (some declared.name) declared.members).bind_ok).bind_ok
  exact ⟨reports.ok_iff.trans specializer.violations_eq_nil_iff, reports⟩

end Specializer

end Overloading
