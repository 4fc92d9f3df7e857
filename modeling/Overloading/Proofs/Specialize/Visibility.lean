import Overloading.Proofs.Specialize

/-! # The visibility of overrides

Where the detector requires a visibility of a method, the method gets it, whatever was declared; and for
each signature whose visibility conflicts with the required one there is one report, in the order of the
signatures (`Specializer.visibility_reconciled`). A failure does not take back the reports of the
signatures before it. -/

namespace Overloading

/-! ## Declared and required visibility -/

/-- Whether a declared visibility is neither the required one nor `protected` for `protected internal`. -/
def Visibility.ConflictsWith (declared required : Visibility) : Prop :=
  declared ≠ required ∧ ¬ (declared = .protectedAccess ∧ required = .protectedInternal)

instance (declared required : Visibility) : Decidable (declared.ConflictsWith required) :=
  inferInstanceAs (Decidable (_ ∧ _))

/-- A visibility conflicts with the required one iff it does not satisfy it. -/
theorem Visibility.conflictsWith_iff {declared required : Visibility} :
    declared.ConflictsWith required ↔ declared.satisfies required = false := by
  simp [ConflictsWith, satisfies]

/-- The visibility that is declared for a signature: the one written there, or else the one of the
implementation, or else public. -/
def OverloadGroup.visibilityOf (group : OverloadGroup) (signature : FunctionDecl) : Visibility :=
  match signature.visibility, group.implementation.visibility with
  | some own, _ => own
  | none, some shared => shared
  | none, none => .publicAccess

/-- The visibility that specialization starts from is the declared one. -/
theorem OverloadGroup.visibilityOf_eq (group : OverloadGroup) (signature : FunctionDecl) :
    (Specializer.declaredVisibility group signature).getD default = group.visibilityOf signature := by
  rw [Specializer.declaredVisibility, visibilityOf]
  cases signature.visibility <;> cases group.implementation.visibility <;> rfl

namespace OverrideInfo

variable {info : OverrideInfo} {declared : Option Visibility}

/-- What is not known to be an override with a required visibility keeps the declared one. -/
theorem visibility_eq_declared (free : ∀ required, info ≠ ⟨true, some required⟩) :
    info.visibility declared = declared.getD default := by
  obtain ⟨isOverride, required⟩ := info
  cases isOverride with
  | false => rfl
  | true =>
    cases required with
    | none => rfl
    | some required => exact absurd rfl (free required)

/-- A report is made for an override whose declared visibility conflicts with the required one. -/
theorem diagnostic?_eq_some_iff {member : String} {span : Span} {report : Diagnostic} :
    info.diagnostic? member declared span = some report ↔
      ∃ required, info = ⟨true, some required⟩ ∧ (declared.getD default).ConflictsWith required ∧
        report = .visibilityMismatch member (declared.getD default) required span := by
  obtain ⟨isOverride, required⟩ := info
  cases isOverride with
  | false => simp [diagnostic?, mismatch?, required?]
  | true =>
    cases required with
    | none => simp [diagnostic?, mismatch?, required?]
    | some required =>
      simp only [diagnostic?, mismatch?, required?, if_true, Option.map_eq_some_iff,
        Option.filter_eq_some_iff, Bool.not_eq_true', Visibility.conflictsWith_iff]
      constructor
      · rintro ⟨_, ⟨same, conflict⟩, rfl⟩
        cases same
        exact ⟨required, rfl, conflict, rfl⟩
      · rintro ⟨_, same, conflict, rfl⟩
        cases same
        exact ⟨required, ⟨rfl, conflict⟩, rfl⟩

end OverrideInfo

/-! ## One signature -/

/-- The types that a signature declares for its parameters. -/
def FunctionDecl.paramTypes (signature : FunctionDecl) (registry : Registry) : List StaticType :=
  signature.params.map fun param =>
    .ofDeclared? signature.typeParams (registry.declaredType? param)

/-- A binding has the parameter types that its signature declares. -/
theorem OverloadGroup.paramTypes_of_bind {group : OverloadGroup} {registry : Registry}
    {signature : FunctionDecl} {binding : SignatureBinding}
    (bound : group.bind registry signature = .ok binding) :
    binding.parameters.map (fun param => param.type) = signature.paramTypes registry := by
  obtain ⟨short, -, -, -⟩ := OverloadGroup.bind_eq_ok_iff.mp bound
  have inSignature : (signature.params.zip group.implementation.params).map Prod.fst =
      signature.params := List.map_fst_zip short
  have types := congrArg (List.map Prod.snd) (OverloadGroup.parameters_of_bind bound)
  rw [List.map_map, List.map_map] at types
  rw [FunctionDecl.paramTypes, ← inSignature, List.map_map]
  exact types

namespace Specializer

variable (specializer : Specializer)

/-- Whether the detector says that a signature overrides a member and requires a visibility of it. -/
def Requires (group : OverloadGroup) (signature : FunctionDecl) (required : Visibility) : Prop :=
  specializer.detector group.owner group.name group.implementation.kind
    (signature.paramTypes specializer.registry) = ⟨true, some required⟩

/-- Whether the visibility that is declared for a signature conflicts with the required one. -/
def Mismatched (group : OverloadGroup) (signature : FunctionDecl) : Prop :=
  ∃ required, specializer.Requires group signature required ∧
    (group.visibilityOf signature).ConflictsWith required

/-- Whether a method is for a signature and has the visibility that is required of it, or else the
declared one. -/
structure Reconciled (group : OverloadGroup) (signature : FunctionDecl) (method : SpecializedMethod) :
    Prop where
  signature_eq : method.signature = signature.handle
  types_eq : method.parameters.map (fun param => param.type) = signature.paramTypes specializer.registry
  isOverride_eq : method.isOverride =
    (specializer.detector group.owner group.name group.implementation.kind
      (method.parameters.map fun param => param.type)).isOverride
  required : ∀ required, specializer.Requires group signature required → method.visibility = required
  declared : (∀ required, ¬ specializer.Requires group signature required) →
    method.visibility = group.visibilityOf signature

/-- Whether a diagnostic is the report of a mismatch at a signature. -/
def IsReport (group : OverloadGroup) (signature : FunctionDecl) (report : Diagnostic) : Prop :=
  ∃ required, specializer.Requires group signature required ∧
    report = {
      code := .overrideVisibilityMismatch
      severity := .error
      message := "'" ++ group.displayName ++ "' overrides a member that requires '" ++ required.render ++
        "' visibility but is declared '" ++ (group.visibilityOf signature).render ++ "'"
      help := some ("declare '" ++ group.displayName ++ "' as " ++ required.render)
      span := signature.span
      notes := [("member", group.displayName), ("required", required.render),
        ("declared", (group.visibilityOf signature).render)] }

instance (group : OverloadGroup) (signature : FunctionDecl) :
    Decidable (specializer.Mismatched group signature) :=
  match answer : specializer.detector group.owner group.name group.implementation.kind
      (signature.paramTypes specializer.registry) with
  | ⟨true, some required⟩ =>
    decidable_of_iff ((group.visibilityOf signature).ConflictsWith required) <| by
      simp [Mismatched, Requires, answer]
  | ⟨true, none⟩ => .isFalse <| by simp [Mismatched, Requires, answer]
  | ⟨false, _⟩ => .isFalse <| by simp [Mismatched, Requires, answer]

section Step

variable {specializer} {group : OverloadGroup} {signature : FunctionDecl}

/-- The detector is asked about the types that the signature declares. -/
theorem overrideInfo_of_bind {binding : SignatureBinding}
    (bound : group.bind specializer.registry signature = .ok binding) :
    specializer.overrideInfo group binding =
      specializer.detector group.owner group.name group.implementation.kind
        (signature.paramTypes specializer.registry) := by
  rw [overrideInfo, OverloadGroup.paramTypes_of_bind bound]
  rfl

variable {specialization : Specialization}
  (success : specializer.specialize group signature = .ok specialization)

include success

/-- The visibility of a method is settled when its signature is specialized. -/
theorem reconciled_of_specialize : specializer.Reconciled group signature specialization.method := by
  obtain ⟨binding, bound, -, -, rfl⟩ := specializer.specialize_eq_ok_iff.mp success
  have answer := overrideInfo_of_bind bound
  refine ⟨rfl, OverloadGroup.paramTypes_of_bind bound, rfl, fun required isRequired => ?_, fun free => ?_⟩
  · have visibility : (specializer.overrideInfo group binding).visibility
        (declaredVisibility group signature) = required := by
      rw [answer, isRequired]
      rfl
    exact visibility
  · rw [← group.visibilityOf_eq]
    exact OverrideInfo.visibility_eq_declared (answer ▸ free)

/-- A signature that is specialized is reported iff it is mismatched. -/
theorem mismatch_eq_some_iff {report : Diagnostic} :
    specialization.mismatch = some report ↔
      specializer.Mismatched group signature ∧ specializer.IsReport group signature report := by
  obtain ⟨binding, bound, -, -, rfl⟩ := specializer.specialize_eq_ok_iff.mp success
  have reported : (specializer.emit group signature binding).mismatch = some report ↔ _ :=
    OverrideInfo.diagnostic?_eq_some_iff
  rw [reported, overrideInfo_of_bind bound, group.visibilityOf_eq]
  constructor
  · rintro ⟨required, isRequired, conflict, rfl⟩
    exact ⟨⟨required, isRequired, conflict⟩, required, isRequired, rfl⟩
  · rintro ⟨⟨required, isRequired, conflict⟩, required', isRequired', rfl⟩
    -- the detector gives one answer
    cases isRequired.symm.trans isRequired'
    exact ⟨required, isRequired, conflict, rfl⟩

/-- A signature that is not mismatched is not reported. -/
theorem mismatch_eq_none (matched : ¬ specializer.Mismatched group signature) :
    specialization.mismatch = none := by
  rw [Option.eq_none_iff_forall_ne_some]
  intro report reported
  exact matched ((mismatch_eq_some_iff success).mp reported).1

/-- A mismatched signature is reported. -/
theorem exists_mismatch (mismatched : specializer.Mismatched group signature) :
    ∃ report, specialization.mismatch = some report ∧ specializer.IsReport group signature report := by
  have ⟨required, isRequired, _⟩ := mismatched
  have report : specializer.IsReport group signature _ := ⟨required, isRequired, rfl⟩
  exact ⟨_, (mismatch_eq_some_iff success).mpr ⟨mismatched, report⟩, report⟩

end Step

/-! ## Groups and modules -/

section Run

variable {specializer} {Task : Type} {tasks : List Task} {group : Task → OverloadGroup}
  {signature : Task → FunctionDecl} {specializations : List Specialization}
  (all : List.Forall₂ (fun task specialization =>
    specializer.specialize (group task) (signature task) = .ok specialization) tasks specializations)

include all

/-- Each of the emitted methods has its visibility reconciled with what it overrides. -/
theorem forall₂_reconciled :
    List.Forall₂ (fun task => specializer.Reconciled (group task) (signature task)) tasks
      (specializations.map fun specialization => specialization.method) := by
  rw [List.forall₂_map_right_iff]
  exact all.imp fun _ _ success => reconciled_of_specialize success

/-- The reports of signatures that are specialized in order are those of the mismatched ones. -/
theorem forall₂_isReport :
    List.Forall₂ (fun task => specializer.IsReport (group task) (signature task))
      (tasks.filter fun task => specializer.Mismatched (group task) (signature task))
      (specializations.filterMap fun specialization => specialization.mismatch) := by
  induction all with
  | nil => exact .nil
  | @cons task _ _ _ success _ ih =>
    by_cases mismatched : specializer.Mismatched (group task) (signature task)
    · obtain ⟨report, reported, isReport⟩ := exists_mismatch success mismatched
      rw [List.filter_cons_of_pos (by simpa using mismatched), List.filterMap_cons_some reported]
      exact .cons isReport ih
    · rw [List.filter_cons_of_neg (by simpa using mismatched),
        List.filterMap_cons_none (mismatch_eq_none success mismatched)]
      exact ih

end Run

/-- Compiling a group fails at the first signature that fails, with the mismatches of those before it
reported. -/
theorem compile_of_failing {group : OverloadGroup} {earlier later : List FunctionDecl}
    {failing : FunctionDecl} {specializations : List Specialization} {error : SpecializeError}
    (split : group.signatures = earlier ++ failing :: later)
    (succeeded : earlier.mapM (specializer.specialize group) = .ok specializations)
    (failed : specializer.specialize group failing = .error error) (diagnostics : Diagnostics) :
    specializer.compile group diagnostics =
      (.error error, diagnostics.extend (specializations.filterMap Specialization.mismatch)) := by
  have run := (Reporting.follows_mapM (specializer.follows_compileSignature group) earlier).run_ok
    succeeded diagnostics
  rw [← List.filterMap_eq_flatMap_toList] at run
  rw [compile, split, List.mapM_append, Reporting.bind_ok run, List.mapM_cons]
  refine Reporting.bind_error (Reporting.bind_error ?_)
  exact specializer.compileSignature_error failed _

/-- Whether diagnostics are earlier ones followed by one report for each mismatched signature of a
list. -/
def Reported (group : OverloadGroup) (signatures : List FunctionDecl) (before after : Diagnostics) :
    Prop :=
  ∃ reports, after.items = before.items ++ reports ∧
    List.Forall₂ (specializer.IsReport group)
      (signatures.filter fun signature => specializer.Mismatched group signature) reports

end Specializer

/-- The groups of a module in order: those of its free functions, then those of its classes. -/
def Module.groups (module : Module) : Except SpecializeError (List OverloadGroup) := do
  let functions ← collectGroups none module.functions
  let classes ← module.classes.mapM fun declared => collectGroups (some declared.name) declared.members
  return functions ++ classes.flatten

/-- The methods of a specialized module in order. -/
def SpecializedModule.methods (result : SpecializedModule) : List SpecializedMethod :=
  result.functions ++ result.classes.flatMap fun emitted => emitted.members

namespace Specializer

variable (specializer : Specializer)

/-- A scope is specialized iff its groups can be collected and each signature of each group can be
specialized. -/
theorem specializeScope_eq_ok_iff {owner : Option String} {decls : List FunctionDecl}
    {specializations : List Specialization} :
    specializer.specializeScope owner decls = .ok specializations ↔
      ∃ groups, collectGroups owner decls = .ok groups ∧
        List.Forall₂ (fun task specialization =>
          specializer.specialize task.1 task.2 = .ok specialization)
          (served groups) specializations := by
  simp only [specializeScope_eq, except_bind_eq_ok, mapM_eq_ok_iff]

/-- Classes are specialized for one signature after the other, group by group. -/
theorem exists_of_specializeClasses {classes : List ClassDecl}
    {named : List (String × List Specialization)}
    (success : classes.mapM specializer.specializeClass = .ok named) :
    ∃ groups, classes.mapM (fun declared =>
        collectGroups (some declared.name) declared.members) = .ok groups ∧
      List.Forall₂ (fun task specialization =>
          specializer.specialize task.1 task.2 = .ok specialization)
        (served groups.flatten) (named.flatMap Prod.snd) := by
  simp only [mapM_eq_ok_iff] at success ⊢
  induction success with
  | nil => exact ⟨[], .nil, .nil⟩
  | cons first _ ih =>
    obtain ⟨specializations, inClass, built⟩ := except_bind_eq_ok.mp first
    cases built
    obtain ⟨groups, collected, specialized⟩ := specializer.specializeScope_eq_ok_iff.mp inClass
    obtain ⟨others, othersCollected, othersSpecialized⟩ := ih
    refine ⟨groups :: others, .cons collected othersCollected, ?_⟩
    rw [List.flatten_cons, List.flatMap_cons, served, List.flatMap_append]
    exact List.rel_append specialized othersSpecialized

/-- A module is specialized for one signature after the other, group by group. -/
theorem exists_of_specializeModule {module : Module} {result : SpecializedModule}
    (success : specializer.specializeModule module = .ok result) :
    ∃ groups specializations, module.groups = .ok groups ∧
      List.Forall₂ (fun task specialization =>
          specializer.specialize task.1 task.2 = .ok specialization)
        (served groups) specializations ∧
      result.methods = specializations.map Specialization.method ∧
      result.diagnostics.items = specializations.filterMap Specialization.mismatch := by
  rw [specializeModule_eq] at success
  obtain ⟨functions, scope, rest⟩ := except_bind_eq_ok.mp success
  obtain ⟨named, members, built⟩ := except_bind_eq_ok.mp rest
  cases built
  obtain ⟨free, freeCollected, freeSpecialized⟩ := specializer.specializeScope_eq_ok_iff.mp scope
  obtain ⟨groups, collected, specialized⟩ := specializer.exists_of_specializeClasses members
  -- the free functions come first, then the members of each class
  refine ⟨free ++ groups.flatten, functions ++ named.flatMap Prod.snd, ?_, ?_, ?_, ?_⟩
  · exact except_bind_eq_ok.mpr ⟨free, freeCollected, except_bind_eq_ok.mpr ⟨groups, collected, rfl⟩⟩
  · rw [served, List.flatMap_append]
    exact List.rel_append freeSpecialized specialized
  · rw [SpecializedModule.methods, List.map_append, List.map_flatMap, List.flatMap_map]
  · rw [List.filterMap_append, List.filterMap_flatMap]

/-- **Visibility is reconciled, and each mismatch is reported once.** The methods of a group have the
visibility that is required of them, or else the declared one. Whether the group compiles or fails, its
diagnostics are the given ones and one report for each mismatched signature before the failure, in order.
So the diagnostics of a specialized module are the reports of its mismatched methods. -/
theorem visibility_reconciled (specializer : Specializer) :
    (∀ group diagnostics methods, (specializer.compile group diagnostics).1 = .ok methods →
      List.Forall₂ (specializer.Reconciled group) group.signatures methods ∧
      specializer.Reported group group.signatures diagnostics (specializer.compile group diagnostics).2) ∧
    (∀ group diagnostics error, (specializer.compile group diagnostics).1 = .error error →
      ∃ earlier failing later, group.signatures = earlier ++ failing :: later ∧
        (∀ signature ∈ earlier, ∃ method, specializer.Emits group signature method) ∧
        specializer.specialize group failing = .error error ∧
        specializer.Reported group earlier diagnostics (specializer.compile group diagnostics).2) ∧
    (∀ module result, specializer.specializeModule module = .ok result →
      ∃ groups, module.groups = .ok groups ∧
        List.Forall₂ (fun task => specializer.Reconciled task.1 task.2) (served groups) result.methods ∧
        List.Forall₂ (fun task => specializer.IsReport task.1 task.2)
          ((served groups).filter fun task => specializer.Mismatched task.1 task.2)
          result.diagnostics.items) := by
  refine ⟨fun group diagnostics methods success => ?_, fun group diagnostics error failure => ?_,
    fun module result success => ?_⟩
  · -- on success the diagnostics are extended by the mismatches of all signatures
    have follows := specializer.follows_compile group
    rw [follows.fst_eq] at success
    obtain ⟨specializations, specialized, rfl⟩ := except_map_eq_ok.mp success
    have all := mapM_eq_ok_iff.mp specialized
    rw [follows.run_ok specialized]
    exact ⟨forall₂_reconciled all, _, rfl, forall₂_isReport all⟩
  · -- on failure the signatures before the failing one have been reported already
    rw [(specializer.follows_compile group).fst_eq, except_map_eq_error] at failure
    obtain ⟨earlier, failing, later, split, succeeded, failed⟩ := mapM_eq_error_iff.mp failure
    obtain ⟨specializations, all⟩ := exists_forall₂_iff.mpr succeeded
    refine ⟨earlier, failing, later, split, fun signature mem => ?_, failed, ?_⟩
    · obtain ⟨specialization, success⟩ := succeeded signature mem
      exact ⟨_, specialization, success, rfl⟩
    · rw [specializer.compile_of_failing split (mapM_eq_ok_iff.mpr all) failed]
      exact ⟨_, rfl, forall₂_isReport all⟩
  · obtain ⟨groups, specializations, collected, all, methods, items⟩ :=
      specializer.exists_of_specializeModule success
    rw [methods, items]
    exact ⟨groups, collected, forall₂_reconciled all, forall₂_isReport all⟩

end Specializer

namespace Sample

/-- Class `D` inherits `m(x: number)`, which is protected internal, and `m(x: string)`, which is public. -/
def overriding : Specializer where
  registry := registry
  detector := (BaseMemberTable.mk
    [("D", ⟨"m", .method, [.primitive .double], .protectedInternal⟩),
      ("D", ⟨"m", .method, [.primitive .string], .publicAccess⟩)]).detect
  options := {}

/-- `protected m(x: number)` and `m(x: string)` in `D`, with a private implementation. -/
def derived : OverloadGroup where
  owner := some "D"
  name := "m"
  implementation :=
    { implementation with name := "m", kind := .method, visibility := some .privateAccess }
  signatures := [
    { ofNumber with name := "m", kind := .method, visibility := some .protectedAccess },
    { ofString with name := "m", kind := .method }]

/-- The same with a third signature, which has too many parameters. -/
def overlong : OverloadGroup :=
  { derived with signatures := derived.signatures ++ [{ ofNumber with params := [⟨0⟩, ⟨1⟩] }] }

/-- A module with `D`. -/
def inheriting : Module where
  name := "m"
  classes := [{ handle := ⟨9⟩, name := "D", members := derived.signatures ++ [derived.implementation] }]

end Sample

open Sample in
/-- The first method of `D` gets a visibility that its own one satisfies, and the second one that it does
not. The report of the second is there whether or not a later signature fails. -/
theorem Specializer.visibility_reconciled_derived :
    (∃ methods, (overriding.compile derived ⟨[]⟩).1 = .ok methods ∧
      methods.map (fun method => method.visibility) = [.protectedInternal, .publicAccess] ∧
      List.Forall₂ (overriding.Reconciled derived) derived.signatures methods) ∧
    (∃ error, (overriding.compile overlong ⟨[]⟩).1 = .error error ∧
      (overriding.compile overlong ⟨[]⟩).2.items.map (fun report => report.notes) =
        [[("member", "D.m"), ("required", "public"), ("declared", "private")]] ∧
      ∃ earlier failing later, overlong.signatures = earlier ++ failing :: later ∧
        (∀ signature ∈ earlier, ∃ method, overriding.Emits overlong signature method) ∧
        overriding.specialize overlong failing = .error error ∧
        overriding.Reported overlong earlier ⟨[]⟩ (overriding.compile overlong ⟨[]⟩).2) ∧
    (∃ result, overriding.specializeModule inheriting = .ok result ∧ result.diagnostics.size = 1 ∧
      ∃ groups, inheriting.groups = .ok groups ∧
        List.Forall₂ (fun task => overriding.Reconciled task.1 task.2) (served groups) result.methods ∧
        List.Forall₂ (fun task => overriding.IsReport task.1 task.2)
          ((served groups).filter fun task => overriding.Mismatched task.1 task.2)
          result.diagnostics.items) := by
  obtain ⟨compiled, failed, modules⟩ := visibility_reconciled overriding
  have compiles : ∃ methods, (overriding.compile derived ⟨[]⟩).1 = .ok methods ∧
      methods.map (fun method => method.visibility) = [.protectedInternal, .publicAccess] :=
    ⟨_, by with_unfolding_all rfl, by with_unfolding_all rfl⟩
  have fails : ∃ error, (overriding.compile overlong ⟨[]⟩).1 = .error error :=
    ⟨_, by with_unfolding_all rfl⟩
  have specializes : ∃ result, overriding.specializeModule inheriting = .ok result ∧
      result.diagnostics.size = 1 := ⟨_, by with_unfolding_all rfl, by with_unfolding_all rfl⟩
  obtain ⟨methods, ofDerived, visibilities⟩ := compiles
  obtain ⟨error, ofOverlong⟩ := fails
  obtain ⟨result, ofModule, one⟩ := specializes
  exact ⟨⟨methods, ofDerived, visibilities, (compiled _ _ _ ofDerived).1⟩,
    ⟨error, ofOverlong, by with_unfolding_all rfl, failed _ _ _ ofOverlong⟩,
    result, ofModule, one, modules _ _ ofModule⟩

end Overloading
