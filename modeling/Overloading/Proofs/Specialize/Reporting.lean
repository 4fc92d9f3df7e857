import Mathlib.Data.List.Basic
import Overloading.Specialize.Module

/-! # Work that reports

Specialization reports mismatches while it runs, into diagnostics that are passed from one signature to the
next. What it emits does not depend on them, so it can be told apart from what it reports:
`Reporting.Follows` relates work to a computation without diagnostics, whose value says what the work gives
and what it adds to the diagnostics.

By `Specializer.follows_compile` and `Specializer.specializeModule_eq` the methods of a group and of a module
are those of its specializations, and the diagnostics added are their mismatches, in the same order. -/

namespace Overloading

namespace Diagnostics

/-- Reporting nothing leaves the diagnostics as they are. -/
theorem extend_nil (diagnostics : Diagnostics) : diagnostics.extend [] = diagnostics :=
  congrArg Diagnostics.mk (List.append_nil _)

/-- Reporting twice is reporting all at once. -/
theorem extend_extend (diagnostics : Diagnostics) (first second : List Diagnostic) :
    (diagnostics.extend first).extend second = diagnostics.extend (first ++ second) :=
  congrArg Diagnostics.mk (List.append_assoc _ _ _)

end Diagnostics

namespace Reporting

variable {α β γ : Type} {work : Reporting α} {next : α → Reporting β}
  {diagnostics after : Diagnostics}

/-- After work that succeeds, the next one goes on with its value and its diagnostics. -/
theorem bind_ok {value : α} (run : work diagnostics = (.ok value, after)) :
    (work >>= next) diagnostics = next value after := by
  have step : (work >>= next) diagnostics = ExceptT.bindCont next (work diagnostics).1
      (work diagnostics).2 := rfl
  rw [step, run]
  rfl

/-- Work that fails is the last, and its diagnostics stay. -/
theorem bind_error {error : SpecializeError} (run : work diagnostics = (.error error, after)) :
    (work >>= next) diagnostics = (.error error, after) := by
  have step : (work >>= next) diagnostics = ExceptT.bindCont next (work diagnostics).1
      (work diagnostics).2 := rfl
  rw [step, run]
  rfl

/-- Whether work does what a computation without diagnostics says: if that has a value, the work gives
what belongs to the value and reports what belongs to it; if that fails, the work fails in the same way. -/
structure Follows (work : Reporting α) (plain : Except SpecializeError γ) (value : γ → α)
    (reports : γ → List Diagnostic) : Prop where
  run_ok : ∀ {result}, plain = .ok result → ∀ diagnostics,
    work diagnostics = (.ok (value result), diagnostics.extend (reports result))
  run_error : ∀ {error}, plain = .error error → ∀ diagnostics, (work diagnostics).1 = .error error

variable {plain : Except SpecializeError γ} {value : γ → α} {reports : γ → List Diagnostic}

/-- Work follows a value if it gives and reports what belongs to the value. -/
theorem follows_ok {result : γ}
    (run : ∀ diagnostics, work diagnostics = (.ok (value result), diagnostics.extend (reports result))) :
    work.Follows (.ok result) value reports where
  run_ok isOk diagnostics := by
    cases isOk
    exact run diagnostics
  run_error isError := by cases isError

/-- Work follows a failure if it fails in the same way, whatever it reports. -/
theorem follows_error {error : SpecializeError}
    (failed : ∀ diagnostics, (work diagnostics).1 = .error error) :
    work.Follows (.error error) value reports where
  run_ok isOk := by cases isOk
  run_error isError diagnostics := by
    cases isError
    exact failed diagnostics

/-- What the work gives does not depend on the diagnostics. -/
theorem Follows.fst_eq (follows : work.Follows plain value reports) (diagnostics : Diagnostics) :
    (work diagnostics).1 = plain.map value := by
  cases isPlain : plain with
  | ok result =>
    rw [follows.run_ok isPlain]
    rfl
  | error error => exact follows.run_error isPlain diagnostics

/-- A last step that only changes the value reports nothing. -/
theorem Follows.map {δ : Type} {change : α → β} {plainChange : γ → δ} {changedValue : δ → β}
    {changedReports : δ → List Diagnostic} (follows : work.Follows plain value reports)
    (values : ∀ result, changedValue (plainChange result) = change (value result))
    (sameReports : ∀ result, changedReports (plainChange result) = reports result) :
    (do return change (← work) : Reporting β).Follows (do return plainChange (← plain)) changedValue
      changedReports := by
  cases isPlain : plain with
  | error error =>
    refine follows_error fun diagnostics => ?_
    rw [bind_error (Prod.ext (follows.run_error isPlain diagnostics) rfl)]
  | ok result =>
    refine follows_ok fun diagnostics => ?_
    rw [bind_ok (follows.run_ok isPlain diagnostics), values, sameReports]
    rfl

/-- A computation without diagnostics comes before work that depends on its value. -/
theorem follows_bind_plain {δ : Type} {first : Except SpecializeError δ} {rest : δ → Reporting α}
    {plainRest : δ → Except SpecializeError γ}
    (each : ∀ item, (rest item).Follows (plainRest item) value reports) :
    (do rest (← first) : Reporting α).Follows (first >>= plainRest) value reports := by
  cases first with
  | ok item => exact each item
  | error error => exact follows_error fun _ => rfl

/-- Work on two things does both one after the other, and reports first what belongs to the first. -/
theorem Follows.both {δ ε ζ : Type} {other : Reporting β} {plainOther : Except SpecializeError δ}
    {otherValue : δ → β} {otherReports : δ → List Diagnostic} {join : α → β → ε}
    {plainJoin : γ → δ → ζ} {joinedValue : ζ → ε} {joinedReports : ζ → List Diagnostic}
    (first : work.Follows plain value reports) (second : other.Follows plainOther otherValue otherReports)
    (values : ∀ left right, joinedValue (plainJoin left right) = join (value left) (otherValue right))
    (allReports : ∀ left right, joinedReports (plainJoin left right) = reports left ++ otherReports right) :
    (do return join (← work) (← other) : Reporting ε).Follows
      (do return plainJoin (← plain) (← plainOther)) joinedValue joinedReports := by
  have afterFirst {left : γ} (isFirst : plain = .ok left) (diagnostics : Diagnostics) :
      (do return join (← work) (← other) : Reporting ε) diagnostics =
        (do return join (value left) (← other) : Reporting ε) (diagnostics.extend (reports left)) :=
    bind_ok (first.run_ok isFirst diagnostics)
  -- a failure of the first part ends the work before the second is run
  cases isFirst : plain with
  | error error =>
    refine follows_error fun diagnostics => ?_
    rw [bind_error (Prod.ext (first.run_error isFirst diagnostics) rfl)]
  | ok left =>
    cases isSecond : plainOther with
    | error error =>
      refine follows_error fun diagnostics => ?_
      rw [afterFirst isFirst, bind_error (Prod.ext (second.run_error isSecond _) rfl)]
    | ok right =>
      refine follows_ok fun diagnostics => ?_
      rw [afterFirst isFirst, bind_ok (second.run_ok isSecond _), Diagnostics.extend_extend, values,
        allReports]
      rfl

/-- Work on a list is work on its members in order. -/
theorem follows_mapM {Item : Type} {action : Item → Reporting α}
    {plainAction : Item → Except SpecializeError γ}
    (each : ∀ item, (action item).Follows (plainAction item) value reports) (items : List Item) :
    (items.mapM action).Follows (items.mapM plainAction) (List.map value) (List.flatMap reports) := by
  induction items with
  | nil =>
    rw [List.mapM_nil, List.mapM_nil]
    refine follows_ok fun diagnostics => ?_
    rw [List.flatMap_nil, Diagnostics.extend_nil]
    rfl
  | cons item items ih =>
    rw [List.mapM_cons, List.mapM_cons]
    exact (each item).both ih (fun _ _ => rfl) (fun _ _ => rfl)

end Reporting

namespace Specializer

variable (specializer : Specializer)

/-! ## One signature -/

/-- The work on a signature emits the method of its specialization and reports the mismatch. -/
theorem follows_compileSignature (group : OverloadGroup) (signature : FunctionDecl) :
    (specializer.compileSignature group signature).Follows (specializer.specialize group signature)
      Specialization.method fun specialization => specialization.mismatch.toList := by
  rw [compileSignature]
  cases specializer.specialize group signature with
  | error error => exact Reporting.follows_error fun _ => rfl
  | ok specialization =>
    refine Reporting.follows_ok fun diagnostics => ?_
    obtain ⟨method, mismatch⟩ := specialization
    cases mismatch with
    | none => exact congrArg (Prod.mk _) diagnostics.extend_nil.symm
    | some mismatch => rfl

/-- A signature that cannot be specialized leaves the diagnostics as they are. -/
theorem compileSignature_error {group : OverloadGroup} {signature : FunctionDecl} {error : SpecializeError}
    (failed : specializer.specialize group signature = .error error) (diagnostics : Diagnostics) :
    specializer.compileSignature group signature diagnostics = (.error error, diagnostics) := by
  rw [compileSignature, failed]
  rfl

/-! ## Groups, scopes and modules -/

/-- The specializations of a group for all its signatures; the first failure counts. -/
def specializeAll (group : OverloadGroup) : Except SpecializeError (List Specialization) :=
  group.signatures.mapM (specializer.specialize group)

/-- The specializations of the groups of a scope in order. -/
def specializeScope (owner : Option String) (decls : List FunctionDecl) :
    Except SpecializeError (List Specialization) := do
  let groups ← collectGroups owner decls
  let specializations ← groups.mapM specializer.specializeAll
  return specializations.flatten

/-- The specializations of a class, under its name. -/
def specializeClass (declared : ClassDecl) : Except SpecializeError (String × List Specialization) := do
  return (declared.name, ← specializer.specializeScope (some declared.name) declared.members)

/-- Compiling a group emits the methods of its specializations and reports their mismatches. -/
theorem follows_compile (group : OverloadGroup) :
    (specializer.compile group).Follows (specializer.specializeAll group)
      (List.map Specialization.method) (List.filterMap Specialization.mismatch) := by
  have sameReports : List.filterMap Specialization.mismatch =
      List.flatMap fun specialization => specialization.mismatch.toList := by
    funext specializations
    exact List.filterMap_eq_flatMap_toList _ _
  rw [sameReports]
  exact Reporting.follows_mapM (specializer.follows_compileSignature group) group.signatures

/-- Compiling a scope emits the methods of its specializations and reports their mismatches. -/
theorem follows_compileScope (owner : Option String) (decls : List FunctionDecl) :
    (specializer.compileScope owner decls).Follows (specializer.specializeScope owner decls)
      (List.map Specialization.method) (List.filterMap Specialization.mismatch) := by
  refine Reporting.follows_bind_plain fun groups => ?_
  refine (Reporting.follows_mapM specializer.follows_compile groups).map ?_ ?_
  · exact fun results => List.map_flatten
  · exact fun results => List.filterMap_flatten

/-- Compiling a class emits it under its name. -/
theorem follows_compileClass (declared : ClassDecl) :
    (specializer.compileClass declared).Follows (specializer.specializeClass declared)
      (fun named => ⟨named.1, named.2.map Specialization.method⟩)
      fun named => named.2.filterMap Specialization.mismatch :=
  (specializer.follows_compileScope (some declared.name) declared.members).map (fun _ => rfl)
    fun _ => rfl

/-- **A module is specialized without regard to the diagnostics.** Its methods are those of the
specializations, and its diagnostics are their mismatches in order. -/
theorem specializeModule_eq (module : Module) :
    specializer.specializeModule module = do
      let functions ← specializer.specializeScope none module.functions
      let classes ← module.classes.mapM specializer.specializeClass
      return {
        name := module.name
        functions := functions.map Specialization.method
        classes := classes.map fun named => ⟨named.1, named.2.map Specialization.method⟩
        diagnostics := ⟨functions.filterMap Specialization.mismatch ++
          classes.flatMap fun named => named.2.filterMap Specialization.mismatch⟩ } := by
  have follows : (specializer.compileModule module).Follows
      (do return (← specializer.specializeScope none module.functions,
        ← module.classes.mapM specializer.specializeClass))
      (fun result => (result.1.map Specialization.method,
        result.2.map fun named => ⟨named.1, named.2.map Specialization.method⟩))
      fun result => result.1.filterMap Specialization.mismatch ++
        result.2.flatMap fun named => named.2.filterMap Specialization.mismatch :=
    (specializer.follows_compileScope none module.functions).both
      (Reporting.follows_mapM specializer.follows_compileClass module.classes) (fun _ _ => rfl)
      fun _ _ => rfl
  -- a module fails as its compilation does, whatever has been reported by then
  have failing {error : SpecializeError}
      (failed : (specializer.compileModule module .empty).1 = .error error) :
      specializer.specializeModule module = .error error := by
    have run : specializer.compileModule module .empty = (.error error, _) := Prod.ext failed rfl
    rw [specializeModule, run]
  cases isFunctions : specializer.specializeScope none module.functions with
  | error error => exact failing (follows.run_error (by rw [isFunctions]; rfl) .empty)
  | ok functions =>
    cases isClasses : module.classes.mapM specializer.specializeClass with
    | error error => exact failing (follows.run_error (by rw [isFunctions, isClasses]; rfl) .empty)
    | ok classes =>
      have both : (do return (← specializer.specializeScope none module.functions,
          ← module.classes.mapM specializer.specializeClass)) = Except.ok (functions, classes) := by
        rw [isFunctions, isClasses]
        rfl
      rw [specializeModule, follows.run_ok both]
      rfl

end Specializer

end Overloading
