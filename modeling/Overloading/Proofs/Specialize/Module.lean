import Overloading.Proofs.Specialize
import Overloading.Proofs.Specialize.Group

/-! # Specializing a module loses nothing

A module that is specialized has one method for each signature of each overloaded function: free
functions by name, members of a class by name, by whether they are static and by kind, each in order of
first appearance and the signatures in the order of declaration. The parameters of a method are those of
its signature, under the handles and names that the implementation uses. -/

namespace Overloading

universe u

/-! ## One method -/

/-- Whether a parameter of a method stands for one parameter of the signature and one of the
implementation. -/
def MethodParam.Matches (param : MethodParam) (registry : Registry) (typeParams : List String)
    (inSignature inImplementation : DeclHandle) : Prop :=
  ∃ declared implemented, registry.facts? inSignature = some declared ∧
    registry.facts? inImplementation = some implemented ∧
    param.handle = inImplementation ∧ param.name = implemented.name ∧
    param.type = (declared.declaredType.map (StaticType.ofDeclared typeParams)).getD .any ∧
    param.isOptional = declared.isOptional ∧ param.isRest = declared.isRest

/-- Whether a method is for a signature that an implementation serves. -/
structure SpecializedMethod.Serves (method : SpecializedMethod) (registry : Registry)
    (implementation signature : FunctionDecl) : Prop where
  signature_eq : method.signature = signature.handle
  length_eq : method.parameters.length = signature.params.length
  matches_at : ∀ (i : Nat) (param : MethodParam), method.parameters[i]? = some param →
    ∃ inSignature inImplementation, signature.params[i]? = some inSignature ∧
      implementation.params[i]? = some inImplementation ∧
      param.Matches registry signature.typeParams inSignature inImplementation

namespace Specializer

variable {specializer : Specializer}

/-- An emitted method serves its signature. -/
theorem Emits.serves {group : OverloadGroup} {signature : FunctionDecl} {method : SpecializedMethod}
    (emits : specializer.Emits group signature method) :
    method.Serves specializer.registry group.implementation signature := by
  obtain ⟨specialization, success, rfl⟩ := emits
  obtain ⟨binding, bound, -, -, rfl⟩ := specializer.specialize_eq_ok_iff.mp success
  obtain ⟨short, matched, -, -⟩ := OverloadGroup.bind_eq_ok_iff.mp bound
  obtain ⟨sameLength, matched⟩ := List.forall₂_iff_get.mp matched
  refine ⟨rfl, ?_, ?_⟩
  · rw [List.length_zip, Nat.min_eq_left short] at sameLength
    exact sameLength.symm
  · intro i param atIndex
    -- the i-th parameter was made from the i-th pair, which holds the i-th of both lists
    obtain ⟨inRange, rfl⟩ := List.getElem?_eq_some_iff.mp atIndex
    have inZip : i < (signature.params.zip group.implementation.params).length := by
      rw [sameLength]
      exact inRange
    obtain ⟨inSignature, inImplementation⟩ :=
      List.getElem?_zip_eq_some.mp (List.getElem?_eq_getElem inZip)
    obtain ⟨declared, implemented, isDeclared, isImplemented, built⟩ :=
      MethodParam.bind_eq_ok_iff.mp (matched i inZip inRange)
    have parameter : (specializer.emit group signature binding).method.parameters[i] = _ := built
    refine ⟨_, _, inSignature, inImplementation, declared, implemented, isDeclared, isImplemented, ?_⟩
    rw [parameter]
    exact ⟨rfl, rfl, rfl, rfl, rfl⟩

end Specializer

/-! ## One scope -/

/-- The pairs of an implementation and a signature among the declarations of a group. -/
def FunctionDecl.servedBy (members : List FunctionDecl) : List (FunctionDecl × FunctionDecl) :=
  (members.filter FunctionDecl.hasBody).flatMap fun implementation =>
    (FunctionDecl.signaturesOf members).map fun signature => (implementation, signature)

/-- The pairs of implementation and signature that a function has are those of its group. -/
theorem OverloadGroup.MadeOf.servedBy_eq {group : OverloadGroup} {owner : Option String}
    {name : String} {members : List FunctionDecl} (made : group.MadeOf owner name members) :
    FunctionDecl.servedBy members =
      group.signatures.map fun signature => (group.implementation, signature) := by
  rw [FunctionDecl.servedBy, made.implementation_eq, made.signatures_eq, List.flatMap_singleton]

/-- Whether methods are for all signatures of a scope, where a key tells its functions apart. -/
structure ServesScope {Key : Type u} [DecidableEq Key] (registry : Registry)
    (key : FunctionDecl → Key) (decls : List FunctionDecl) (methods : List SpecializedMethod) :
    Prop where
  /-- Each function has one implementation. -/
  implemented : ∀ members ∈ classesBy key decls,
    ∃ implementation, members.filter FunctionDecl.hasBody = [implementation]
  /-- There is one method for each signature, function by function. -/
  signatures_eq : methods.map (fun method => method.signature) =
    (classesBy key decls).flatMap fun members =>
      (FunctionDecl.signaturesOf members).map fun signature => signature.handle
  /-- Each method is for its signature. -/
  serves : List.Forall₂ (fun pair method => method.Serves registry pair.1 pair.2)
    ((classesBy key decls).flatMap FunctionDecl.servedBy) methods

/-- Lists whose members contribute the same in turn are the same when put together. -/
theorem flatMap_eq_of_forall₂ {α β γ : Type} {related : α → β → Prop} {f : α → List γ}
    {g : β → List γ} (same : ∀ a b, related a b → f a = g b) {as : List α} {bs : List β}
    (all : List.Forall₂ related as bs) : as.flatMap f = bs.flatMap g := by
  induction all with
  | nil => rfl
  | cons first _ ih => rw [List.flatMap_cons, List.flatMap_cons, same _ _ first, ih]

namespace Specializer

variable {specializer : Specializer}

/-- The methods of a scope serve its signatures, function by function in the order of first declaration.
-/
theorem EmitsScope.servesScope {Key : Type u} [DecidableEq Key] {owner : Option String}
    {key : FunctionDecl → Key} {decls : List FunctionDecl} {methods : List SpecializedMethod}
    (same : ∀ decl other : FunctionDecl,
      decl.groupKey owner = other.groupKey owner ↔ key decl = key other)
    (emits : specializer.EmitsScope owner decls methods) :
    ServesScope specializer.registry key decls methods := by
  obtain ⟨groups, collected, emitted⟩ := emits
  -- The keys of the scope may be finer data than the given ones, but they make the same classes.
  have made : List.Forall₂ (fun members group => ∃ name, group.MadeOf owner name members)
      (classesBy key decls) groups := by
    rw [← classesBy_congr same, classesBy, List.forall₂_map_left_iff]
    exact (collectGroups_eq_ok_iff.mp collected).imp fun bucket _ made => ⟨_, made⟩
  have pairs : (classesBy key decls).flatMap FunctionDecl.servedBy =
      (served groups).map fun task => (task.1.implementation, task.2) := by
    rw [served, List.map_flatMap]
    refine flatMap_eq_of_forall₂ (fun members group isMade => ?_) made
    obtain ⟨name, made⟩ := isMade
    rw [made.servedBy_eq, List.map_map]
    rfl
  -- the same classes with their signatures only, for the order of the methods
  have handles : (classesBy key decls).flatMap (fun members =>
        (FunctionDecl.signaturesOf members).map fun signature => signature.handle) =
      (served groups).map fun task => task.2.handle := by
    rw [served, List.map_flatMap]
    refine flatMap_eq_of_forall₂ (fun members group isMade => ?_) made
    obtain ⟨name, made⟩ := isMade
    rw [← made.signatures_eq, List.map_map]
    rfl
  refine ⟨?_, ?_, ?_⟩
  · intro members mem
    obtain ⟨group, -, name, made⟩ := exists_of_mem_forall₂ made.flip mem
    exact ⟨group.implementation, made.implementation_eq⟩
  · rw [handles, eq_comm, ← List.forall₂_eq_eq_eq, List.forall₂_map_left_iff,
      List.forall₂_map_right_iff]
    exact emitted.imp fun _ _ emits => emits.serves.signature_eq.symm
  · rw [pairs, List.forall₂_map_left_iff]
    exact emitted.imp fun _ _ emits => emits.serves

/-- **Specializing a module loses, repeats and reorders nothing.** The methods of a specialized module
are for the signatures of its free functions, told apart by name, and of the members of its classes, told
apart by name, by whether they are static and by kind. -/
theorem specializeModule_serves_all (specializer : Specializer) (module : Module)
    (result : SpecializedModule) (success : specializer.specializeModule module = .ok result) :
    ServesScope specializer.registry (fun decl => decl.name) module.functions result.functions ∧
    result.classes.map (fun emitted => emitted.name) =
      module.classes.map (fun declared => declared.name) ∧
    List.Forall₂ (fun declared emitted =>
        ServesScope specializer.registry (fun decl => (decl.name, decl.isStatic, decl.kind))
          declared.members emitted.members)
      module.classes result.classes := by
  obtain ⟨functions, classes⟩ := specializer.emits_of_specializeModule success
  refine ⟨functions.servesScope fun decl other => ?_, ?_, classes.imp fun declared _ emits => ?_⟩
  · simp [FunctionDecl.groupKey]
  · rw [eq_comm, ← List.forall₂_eq_eq_eq, List.forall₂_map_left_iff, List.forall₂_map_right_iff]
    exact classes.imp fun _ _ emits => emits.1.symm
  · exact emits.2.servesScope fun decl other => by simp [FunctionDecl.groupKey]

/-- In the sample the functions are told apart by name, and the members by name, by kind and by whether
they are static. -/
theorem specializeModule_serves_sample :
    Sample.specializer.specializeModule Sample.module = .ok Sample.specialized ∧
    ServesScope Sample.registry (fun decl => decl.name) Sample.module.functions
      Sample.specialized.functions ∧
    Sample.specialized.classes.map (fun emitted => emitted.name) =
      Sample.module.classes.map (fun declared => declared.name) ∧
    List.Forall₂ (fun declared emitted =>
        ServesScope Sample.registry (fun decl => (decl.name, decl.isStatic, decl.kind))
          declared.members emitted.members)
      Sample.module.classes Sample.specialized.classes :=
  ⟨Sample.specializeModule_module, specializeModule_serves_all Sample.specializer Sample.module
    Sample.specialized Sample.specializeModule_module⟩

end Specializer

end Overloading
