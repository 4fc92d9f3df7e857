import Overloading.Proofs.Except
import Overloading.Proofs.Specialize.Reporting

/-! # When specialization succeeds

Each stage of specialization is opened once: what a successful run went through, and what came out. -/

namespace Overloading

/-- Facts are found for a handle iff the registry has them. -/
theorem Registry.requireFacts_eq_ok_iff {registry : Registry} {handle : DeclHandle}
    {facts : DeclFacts} :
    registry.requireFacts handle = .ok facts ↔ registry.facts? handle = some facts := by
  rw [Registry.requireFacts]
  cases registry.facts? handle <;> simp

/-- Two parameters can be matched iff both are registered. -/
theorem MethodParam.bind_eq_ok_iff {registry : Registry} {typeParams : List String}
    {params : DeclHandle × DeclHandle} {param : MethodParam} :
    MethodParam.bind registry typeParams params = .ok param ↔
      ∃ declared implemented, registry.facts? params.1 = some declared ∧
        registry.facts? params.2 = some implemented ∧
        param = ⟨params.2, implemented.name, .ofDeclared? typeParams declared.declaredType,
          declared.isOptional, declared.isRest⟩ := by
  simp only [MethodParam.bind, except_bind_eq_ok, Registry.requireFacts_eq_ok_iff]
  constructor
  · rintro ⟨declared, isDeclared, implemented, isImplemented, built⟩
    cases built
    exact ⟨declared, implemented, isDeclared, isImplemented, rfl⟩
  · rintro ⟨declared, implemented, isDeclared, isImplemented, rfl⟩
    exact ⟨declared, isDeclared, implemented, isImplemented, rfl⟩

/-- A signature can be bound iff the implementation has as many parameters and each pair of parameters
can be matched. -/
theorem OverloadGroup.bind_eq_ok_iff {group : OverloadGroup} {registry : Registry}
    {signature : FunctionDecl} {binding : SignatureBinding} :
    group.bind registry signature = .ok binding ↔
      signature.params.length ≤ group.implementation.params.length ∧
        List.Forall₂ (fun params param =>
            MethodParam.bind registry signature.typeParams params = .ok param)
          (signature.params.zip group.implementation.params) binding.parameters ∧
        binding.missing = group.implementation.params.drop signature.params.length ∧
        binding.types = .ofParams binding.parameters binding.missing := by
  simp only [OverloadGroup.bind]
  by_cases short : group.implementation.params.length < signature.params.length
  · -- a signature that is too long has no binding
    rw [if_pos short]
    simp only [reduceCtorEq, false_iff, not_and]
    omega
  · rw [if_neg short, except_bind_eq_ok]
    simp only [mapM_eq_ok_iff]
    constructor
    · rintro ⟨parameters, matched, built⟩
      cases built
      exact ⟨Nat.le_of_not_lt short, matched, rfl, rfl⟩
    · rintro ⟨-, matched, missing, types⟩
      refine ⟨binding.parameters, matched, ?_⟩
      rw [← missing, ← types]
      rfl

/-- A binding lacks the last parameters of the implementation. -/
theorem OverloadGroup.missing_of_bind {group : OverloadGroup} {registry : Registry}
    {signature : FunctionDecl} {binding : SignatureBinding}
    (bound : group.bind registry signature = .ok binding) :
    binding.missing = group.implementation.params.drop signature.params.length :=
  (OverloadGroup.bind_eq_ok_iff.mp bound).2.2.1

/-- The parameters of a binding have the handles of the implementation and the types that the signature
declares. -/
theorem OverloadGroup.parameters_of_bind {group : OverloadGroup} {registry : Registry}
    {signature : FunctionDecl} {binding : SignatureBinding}
    (bound : group.bind registry signature = .ok binding) :
    binding.parameters.map (fun param => (param.handle, param.type)) =
      (signature.params.zip group.implementation.params).map fun params =>
        (params.2, .ofDeclared? signature.typeParams (registry.declaredType? params.1)) := by
  obtain ⟨-, matched, -, -⟩ := OverloadGroup.bind_eq_ok_iff.mp bound
  rw [eq_comm, ← List.forall₂_eq_eq_eq, List.forall₂_map_left_iff, List.forall₂_map_right_iff]
  refine matched.imp fun params param isBound => ?_
  obtain ⟨facts, _, isDeclared, _, rfl⟩ := MethodParam.bind_eq_ok_iff.mp isBound
  simp [Registry.declaredType?, isDeclared]

/-- A binding has each parameter of the implementation once, supplied or missing, in their order. -/
theorem OverloadGroup.handles_of_bind {group : OverloadGroup} {registry : Registry}
    {signature : FunctionDecl} {binding : SignatureBinding}
    (bound : group.bind registry signature = .ok binding) :
    binding.parameters.map MethodParam.handle ++ binding.missing = group.implementation.params := by
  obtain ⟨short, -, missing, -⟩ := OverloadGroup.bind_eq_ok_iff.mp bound
  have handles : binding.parameters.map MethodParam.handle =
      (signature.params.zip group.implementation.params).map Prod.snd := by
    simpa [Function.comp_def] using
      congrArg (List.map Prod.fst) (OverloadGroup.parameters_of_bind bound)
  have supplied : (signature.params.zip group.implementation.params).map Prod.snd =
      group.implementation.params.take signature.params.length := by
    rw [List.zip_eq_zip_take_min, Nat.min_eq_left short, List.take_length]
    exact List.map_snd_zip (List.length_take_le _ _)
  rw [handles, supplied, missing, List.take_append_drop]

/-- A binding has a type for the parameters of the implementation, and for these only. -/
theorem OverloadGroup.isSome_find?_of_bind {group : OverloadGroup} {registry : Registry}
    {signature : FunctionDecl} {binding : SignatureBinding}
    (bound : group.bind registry signature = .ok binding) {handle : DeclHandle} :
    (binding.types.find? handle).isSome ↔ handle ∈ group.implementation.params := by
  obtain ⟨-, -, -, types⟩ := OverloadGroup.bind_eq_ok_iff.mp bound
  rw [types, ParamTypes.ofParams, ParamTypes.find?_ofList, ParamTypes.isSome_findIn?,
    ← OverloadGroup.handles_of_bind bound]
  simp [or_comm]

/-- The type of a missing parameter is absent, also if the handle is that of a parameter before. -/
theorem OverloadGroup.find?_missing_of_bind {group : OverloadGroup} {registry : Registry}
    {signature : FunctionDecl} {binding : SignatureBinding}
    (bound : group.bind registry signature = .ok binding) {handle : DeclHandle}
    (isMissing : handle ∈ binding.missing) : binding.types.find? handle = some .absent := by
  obtain ⟨-, -, -, types⟩ := OverloadGroup.bind_eq_ok_iff.mp bound
  rw [types, ParamTypes.ofParams, ParamTypes.find?_ofList, List.reverse_append,
    ParamTypes.findIn?_append]
  have found : (ParamTypes.findIn? handle
      (binding.missing.map fun handle => (handle, StaticType.absent)).reverse).isSome := by
    simpa [ParamTypes.isSome_findIn?] using isMissing
  obtain ⟨type, isType⟩ := Option.isSome_iff_exists.mp found
  obtain ⟨-, isAbsent⟩ : handle ∈ binding.missing ∧ type = .absent := by
    simpa [eq_comm] using ParamTypes.mem_of_findIn? isType
  rw [isType, isAbsent, Option.some_or]

namespace Specializer

variable (specializer : Specializer)

/-- Once a signature is bound, the two checks of the folded body decide, the test for calls of the
intrinsic first. -/
theorem specialize_of_bind {group : OverloadGroup} {signature : FunctionDecl}
    {binding : SignatureBinding} (bound : group.bind specializer.registry signature = .ok binding) :
    specializer.specialize group signature =
      if Stmt.callsIntrinsic specializer.options.intrinsicName (specializer.foldBody group binding)
      then .error (.residualIntrinsic group.displayName signature.handle)
      else match Stmt.firstReference? binding.missing (specializer.foldBody group binding) with
        | some param => .error (.missingParameterReference group.displayName signature.handle
            (specializer.registry.nameOf param))
        | none => .ok (specializer.emit group signature binding) := by
  rw [specialize, bound]
  simp only [bind, Except.bind, checkResidual, checkMissing]
  by_cases calls : Stmt.callsIntrinsic specializer.options.intrinsicName
      (specializer.foldBody group binding) = true
  · rw [if_pos calls, if_pos calls]
  · rw [if_neg calls, if_neg calls]
    cases Stmt.firstReference? binding.missing (specializer.foldBody group binding) <;> rfl

/-- A method is emitted iff the signature can be bound and the folded body passes both checks. -/
theorem specialize_eq_ok_iff {group : OverloadGroup} {signature : FunctionDecl}
    {specialization : Specialization} :
    specializer.specialize group signature = .ok specialization ↔
      ∃ binding, group.bind specializer.registry signature = .ok binding ∧
        Stmt.callsIntrinsic specializer.options.intrinsicName
          (specializer.foldBody group binding) = false ∧
        Stmt.firstReference? binding.missing (specializer.foldBody group binding) = none ∧
        specialization = specializer.emit group signature binding := by
  cases bound : group.bind specializer.registry signature with
  | error error => simp [specialize, bound, bind, Except.bind]
  | ok binding =>
    rw [specializer.specialize_of_bind bound]
    split
    -- a body that fails one of the checks gives an error and no method
    · next calls => simp [calls]
    · next calls =>
      split
      · next missing => simp [missing]
      · next missing =>
        simp only [Bool.not_eq_true] at calls
        simp only [Except.ok.injEq, exists_eq_left', calls, missing, true_and]
        exact eq_comm

/-! ## Groups, scopes and modules -/

/-- Whether a method is what a group is specialized to for a signature. -/
def Emits (group : OverloadGroup) (signature : FunctionDecl) (method : SpecializedMethod) : Prop :=
  ∃ specialization, specializer.specialize group signature = .ok specialization ∧
    specialization.method = method

/-- Each successful specialization of a list emits its method. -/
theorem forall₂_emits {Task : Type} {tasks : List Task} {group : Task → OverloadGroup}
    {signature : Task → FunctionDecl} {specializations : List Specialization}
    (success : tasks.mapM (fun task => specializer.specialize (group task) (signature task)) =
      .ok specializations) :
    List.Forall₂ (fun task => specializer.Emits (group task) (signature task)) tasks
      (specializations.map fun specialization => specialization.method) := by
  rw [List.forall₂_map_right_iff]
  refine (mapM_eq_ok_iff.mp success).imp ?_
  intro task specialization emitted
  exact ⟨specialization, emitted, rfl⟩

/-- A group that compiles emits one method for each of its signatures, in their order. -/
theorem emits_of_compile {group : OverloadGroup} {diagnostics : Diagnostics}
    {methods : List SpecializedMethod}
    (success : (specializer.compile group diagnostics).1 = .ok methods) :
    List.Forall₂ (specializer.Emits group) group.signatures methods := by
  rw [(specializer.follows_compile group).fst_eq] at success
  obtain ⟨specializations, emitted, rfl⟩ := except_map_eq_ok.mp success
  exact specializer.forall₂_emits emitted

/-- The signatures of groups in order, each with its group. -/
def served (groups : List OverloadGroup) : List (OverloadGroup × FunctionDecl) :=
  groups.flatMap fun group => group.signatures.map fun signature => (group, signature)

/-- A scope is specialized for one signature after the other, group by group. -/
theorem specializeScope_eq (owner : Option String) (decls : List FunctionDecl) :
    specializer.specializeScope owner decls =
      collectGroups owner decls >>= fun groups =>
        (served groups).mapM fun task => specializer.specialize task.1 task.2 := by
  -- One list of signatures in place of one for each group; the first failure is the same.
  have ofGroups (groups : List OverloadGroup) :
      (do return (← groups.mapM specializer.specializeAll).flatten) =
        (served groups).mapM fun task => specializer.specialize task.1 task.2 := by
    induction groups with
    | nil => rfl
    | cons group groups ih =>
      rw [served, List.flatMap_cons, List.mapM_append, List.mapM_map, ← served, ← ih,
        List.mapM_cons]
      simp [specializeAll, Function.comp_def]
  simp only [specializeScope, ofGroups]

/-- Whether methods are what a scope is specialized to: one for each signature of its groups. -/
def EmitsScope (owner : Option String) (decls : List FunctionDecl)
    (methods : List SpecializedMethod) : Prop :=
  ∃ groups, collectGroups owner decls = .ok groups ∧
    List.Forall₂ (fun task => specializer.Emits task.1 task.2) (served groups) methods

/-- A scope that is specialized without failure emits its methods group by group. -/
theorem emits_of_specializeScope {owner : Option String} {decls : List FunctionDecl}
    {specializations : List Specialization}
    (success : specializer.specializeScope owner decls = .ok specializations) :
    specializer.EmitsScope owner decls
      (specializations.map fun specialization => specialization.method) := by
  rw [specializeScope_eq] at success
  obtain ⟨groups, collected, emitted⟩ := except_bind_eq_ok.mp success
  exact ⟨groups, collected, specializer.forall₂_emits emitted⟩

/-- Whether a class is emitted for a declared one: under the same name, with the methods of its
members. -/
def EmitsClass (declared : ClassDecl) (emitted : SpecializedClass) : Prop :=
  emitted.name = declared.name ∧
    specializer.EmitsScope (some declared.name) declared.members emitted.members

/-- A module that is specialized emits the methods of its free functions, and its classes in order. -/
theorem emits_of_specializeModule {module : Module} {result : SpecializedModule}
    (success : specializer.specializeModule module = .ok result) :
    specializer.EmitsScope none module.functions result.functions ∧
      List.Forall₂ specializer.EmitsClass module.classes result.classes := by
  rw [specializeModule_eq] at success
  obtain ⟨functions, scope, rest⟩ := except_bind_eq_ok.mp success
  obtain ⟨classes, members, built⟩ := except_bind_eq_ok.mp rest
  cases built
  refine ⟨specializer.emits_of_specializeScope scope, ?_⟩
  rw [List.forall₂_map_right_iff]
  refine (mapM_eq_ok_iff.mp members).imp fun declared named emitted => ?_
  obtain ⟨specializations, inClass, built⟩ := except_bind_eq_ok.mp emitted
  cases built
  exact ⟨rfl, specializer.emits_of_specializeScope inClass⟩

end Specializer

/-! ## A sample

`f(x: number)` and `f(x: string)` with one implementation, which tests the type of its parameter. In the
sample module a function `g` stands between the declarations of `f`, and a class has a static and an
instance method of one name. -/

namespace Sample

/-- The parameter `x` three times: of a signature for numbers, of one for strings, and of the
implementation. -/
def registry : Registry where
  decls := #[
    { kind := .param, declaredType := some (.keyword .number), name := "x", symbol := ⟨0⟩ },
    { kind := .param, declaredType := some (.keyword .string), name := "x", symbol := ⟨1⟩ },
    { kind := .param, name := "x", symbol := ⟨2⟩ }]
  symbols := #[{ name := "x", decls := [⟨0⟩] }, { name := "x", decls := [⟨1⟩] },
    { name := "x", decls := [⟨2⟩] }]

/-- The default options, and nothing that could be overridden. -/
def specializer : Specializer := ⟨registry, OverrideDetector.none, {}⟩

/-- `f(x: number)`. -/
def ofNumber : FunctionDecl where
  handle := ⟨3⟩
  name := "f"
  kind := .function
  params := [⟨0⟩]

/-- `f(x: string)`. -/
def ofString : FunctionDecl where
  handle := ⟨4⟩
  name := "f"
  kind := .function
  params := [⟨1⟩]

/-- `isType<number>(x)`. -/
def isNumber : Expr := .call (.ident "isType" none) [.keyword .number] [.ident "x" (some ⟨2⟩)] none

/-- `x + 1`. -/
def increment : Expr := .binary .add (.ident "x" (some ⟨2⟩)) (.number 0x3ff0000000000000)

/-- `x + "!"`. -/
def exclaim : Expr := .binary .add (.ident "x" (some ⟨2⟩)) (.string "!")

/-- `f(x)`, which returns `x + 1` for numbers and `x + "!"` for all else. -/
def implementation : FunctionDecl where
  handle := ⟨5⟩
  name := "f"
  kind := .function
  params := [⟨2⟩]
  body := some [.ifElse isNumber [.ret (some increment)] none, .ret (some exclaim)]

/-- The two signatures of `f` with their implementation. -/
def group : OverloadGroup where
  owner := none
  name := "f"
  implementation := implementation
  signatures := [ofNumber, ofString]

/-- What is known about the implementation for `f(x: number)`. -/
def numberContext : FoldContext := ⟨"isType", [], .ofList [(⟨2⟩, .primitive .double)]⟩

/-- A method of the sample, without any modifiers. -/
def method (name : String) (signature : DeclHandle) (parameters : List MethodParam)
    (body : List Stmt) : SpecializedMethod where
  name := name
  signature := signature
  kind := .function
  parameters := parameters
  returnType := .any
  body := body
  visibility := .publicAccess
  isOverride := false
  isStatic := false

/-- The method for `f(x: number)`: the test is answered, and what follows the `return` is gone. -/
def numberMethod : SpecializedMethod :=
  method "f" ⟨3⟩ [⟨⟨2⟩, "x", .primitive .double, false, false⟩] [.ret (some increment)]

/-- The method for `f(x: string)`: the test is answered, and the branch is gone. -/
def stringMethod : SpecializedMethod :=
  method "f" ⟨4⟩ [⟨⟨2⟩, "x", .primitive .string, false, false⟩] [.ret (some exclaim)]

/-- `g() {}`, which is its own signature. -/
def lone : FunctionDecl where
  handle := ⟨6⟩
  name := "g"
  kind := .function
  body := some []

/-- The functions `f` and `g`, and a class with a static method `g` and another one. -/
def module : Module where
  name := "m"
  functions := [ofNumber, lone, ofString, implementation]
  classes := [{
    handle := ⟨9⟩
    name := "C"
    members := [{ lone with handle := ⟨7⟩, isStatic := true }, { lone with handle := ⟨8⟩ }] }]

/-- What the sample module is specialized to. -/
def specialized : SpecializedModule where
  name := "m"
  functions := [numberMethod, stringMethod, method "g" ⟨6⟩ [] []]
  classes := [⟨"C", [{ method "g" ⟨7⟩ [] [] with isStatic := true }, method "g" ⟨8⟩ [] []]⟩]
  diagnostics := ⟨[]⟩

/-- The sample module is specialized without failure or diagnostic. -/
theorem specializeModule_module : specializer.specializeModule module = .ok specialized := by
  with_unfolding_all rfl

end Sample

end Overloading
