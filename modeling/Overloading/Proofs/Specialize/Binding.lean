import Mathlib.Data.List.Nodup
import Overloading.Proofs.Specialize.Failure

/-! # Binding a signature by position

A signature is bound to an implementation that has as many parameters or more. The handles that the binding
looks up are those of `FunctionDecl.matchedHandles`: a parameter of the signature, then the one of the
implementation at the same position, and so on. The first of them that is not registered is reported.

The types of a binding are a map from the parameters of the implementation
(`OverloadGroup.bind_by_position`): each has the type that the signature declares at its position, or an
absent type where the signature has ended. If handles repeat, a later one overrides an earlier one, so a
missing parameter is absent in any case. -/

namespace Overloading

namespace ParamTypes

/-- In a map that is given by entries with different handles, each entry can be looked up. -/
theorem find?_ofList_of_mem {entries : List (DeclHandle × StaticType)} {handle : DeclHandle}
    {type : StaticType} (distinct : (entries.map Prod.fst).Nodup)
    (isEntry : (handle, type) ∈ entries) : (ofList entries).find? handle = some type := by
  rw [find?_ofList]
  have found : (findIn? handle entries.reverse).isSome := by
    rw [isSome_findIn?, List.map_reverse, List.mem_reverse]
    exact List.mem_map_of_mem isEntry
  obtain ⟨other, isFound⟩ := Option.isSome_iff_exists.mp found
  have isOther : (handle, other) ∈ entries := List.mem_reverse.mp (mem_of_findIn? isFound)
  have same : (handle, other) = (handle, type) :=
    List.inj_on_of_nodup_map distinct isOther isEntry rfl
  rw [isFound, (Prod.mk.inj same).2]

end ParamTypes

namespace OverloadGroup

variable {group : OverloadGroup} {registry : Registry} {signature : FunctionDecl}
  {binding : SignatureBinding}

/-- Binding fails for a signature that is too long, and else for the first handle that is not
registered. -/
theorem bind_eq_error_iff {error : SpecializeError} :
    group.bind registry signature = .error error ↔
      group.implementation.params.length < signature.params.length ∧
          error = .signatureTooLong group.displayName signature.handle signature.params.length
            group.implementation.params.length ∨
        signature.params.length ≤ group.implementation.params.length ∧
          ∃ handle, (group.implementation.matchedHandles signature).find?
              (fun handle => (registry.facts? handle).isNone) = some handle ∧
            error = .unknownDeclaration handle := by
  rw [group.reports_bind registry signature error, FunctionDecl.paramViolations]
  by_cases tooLong : group.implementation.params.length < signature.params.length
  · rw [if_pos tooLong]
    simp [tooLong, Nat.not_le.mpr tooLong, eq_comm]
  · rw [if_neg tooLong, List.nil_append, Registry.unknownHandles, List.head?_map,
      List.head?_filter, Option.map_eq_some_iff]
    simp only [tooLong, Nat.le_of_not_lt tooLong, false_and, false_or, true_and,
      eq_comm (a := error)]

/-- A signature can be bound iff it has no more parameters than the implementation and all those that
are matched are registered. -/
theorem exists_bind_iff :
    (∃ binding, group.bind registry signature = .ok binding) ↔
      signature.params.length ≤ group.implementation.params.length ∧
        ∀ handle ∈ group.implementation.matchedHandles signature,
          (registry.facts? handle).isSome := by
  rw [(group.reports_bind registry signature).ok_iff, FunctionDecl.paramViolations,
    List.append_eq_nil_iff, Registry.unknownHandles_eq_nil_iff]
  simp

/-- Where the parameters of the implementation differ, each one that the signature supplies has the type
that is declared at its position. -/
theorem find?_supplied_of_bind (bound : group.bind registry signature = .ok binding)
    (distinct : group.implementation.params.Nodup) {position : Nat} {declared handle : DeclHandle}
    (inSignature : signature.params[position]? = some declared)
    (inImplementation : group.implementation.params[position]? = some handle) :
    binding.types.find? handle =
      some (.ofDeclared? signature.typeParams (registry.declaredType? declared)) := by
  obtain ⟨-, -, -, types⟩ := bind_eq_ok_iff.mp bound
  rw [types, ParamTypes.ofParams]
  refine ParamTypes.find?_ofList_of_mem ?_ (List.mem_append_left _ ?_)
  · -- no parameter stands twice, so the entry that is found first is the one at this position
    have handles := handles_of_bind bound
    simpa [Function.comp_def, ← handles] using distinct
  · have isPair : (declared, handle) ∈ signature.params.zip group.implementation.params :=
      List.mem_of_getElem? (List.getElem?_zip_eq_some.mpr ⟨inSignature, inImplementation⟩)
    rw [parameters_of_bind bound]
    exact List.mem_map.mpr ⟨_, isPair, rfl⟩

/-- **A signature is bound by position.** A signature with more parameters than the implementation is
refused. Otherwise the first handle that is not registered is reported, in the order in which the positions
are gone through, with the signature before the implementation. If there is none, the binding lacks the last
parameters of the implementation, and types exactly the parameters of the implementation. A parameter that
is missing is absent. If the parameters of the implementation differ, each of the others has the type that
the signature declares at the same position, where no annotation means any type. -/
theorem bind_by_position (group : OverloadGroup) (registry : Registry) (signature : FunctionDecl) :
    (∀ error, group.bind registry signature = .error error ↔
      group.implementation.params.length < signature.params.length ∧
          error = .signatureTooLong group.displayName signature.handle signature.params.length
            group.implementation.params.length ∨
        signature.params.length ≤ group.implementation.params.length ∧
          ∃ handle, (group.implementation.matchedHandles signature).find?
              (fun handle => (registry.facts? handle).isNone) = some handle ∧
            error = .unknownDeclaration handle) ∧
    ((∃ binding, group.bind registry signature = .ok binding) ↔
      signature.params.length ≤ group.implementation.params.length ∧
        ∀ handle ∈ group.implementation.matchedHandles signature,
          (registry.facts? handle).isSome) ∧
    ∀ binding, group.bind registry signature = .ok binding →
      binding.missing = group.implementation.params.drop signature.params.length ∧
      (∀ handle ∈ binding.missing, binding.types.find? handle = some .absent) ∧
      (∀ handle, (binding.types.find? handle).isSome ↔ handle ∈ group.implementation.params) ∧
      (group.implementation.params.Nodup → ∀ (position : Nat) (handle : DeclHandle),
        group.implementation.params[position]? = some handle →
        (∀ declared, signature.params[position]? = some declared →
          binding.types.find? handle = some ((registry.declaredType? declared).elim .any
            (StaticType.ofDeclared signature.typeParams))) ∧
        (signature.params.length ≤ position → binding.types.find? handle = some .absent)) := by
  refine ⟨fun _ => bind_eq_error_iff, exists_bind_iff, fun binding bound => ?_⟩
  refine ⟨missing_of_bind bound, fun _ => find?_missing_of_bind bound,
    fun _ => isSome_find?_of_bind bound, fun distinct position handle inImplementation => ⟨?_, ?_⟩⟩
  · intro declared inSignature
    rw [find?_supplied_of_bind bound distinct inSignature inImplementation, StaticType.ofDeclared?]
    cases registry.declaredType? declared <;> rfl
  · intro ended
    -- a position beyond the signature is one of those that are dropped
    have isMissing : handle ∈ binding.missing := by
      rw [missing_of_bind bound]
      refine List.mem_of_getElem? (i := position - signature.params.length) ?_
      rw [List.getElem?_drop, Nat.add_sub_of_le ended, inImplementation]
    exact find?_missing_of_bind bound isMissing

end OverloadGroup

namespace Sample

/-- `f(x, y)`, of which `f(x: number)` lacks `y`. -/
def pairing : OverloadGroup :=
  { group with implementation := { implementation with params := [⟨2⟩, ⟨11⟩] } }

/-- `f(x, x)`, of which `f(x: number)` lacks the second `x`. -/
def repeating : OverloadGroup :=
  { group with implementation := { implementation with params := [⟨2⟩, ⟨2⟩] } }

end Sample

namespace OverloadGroup

/-- The parameter that a signature lacks is absent, even if a parameter that it has is the same
declaration. -/
theorem bind_by_position_sample :
    (∃ binding, Sample.pairing.bind Sample.registry Sample.ofNumber = .ok binding ∧
      binding.missing = [⟨11⟩] ∧ binding.types.find? ⟨2⟩ = some (.primitive .double) ∧
      binding.types.find? ⟨11⟩ = some .absent) ∧
    ∃ binding, Sample.repeating.bind Sample.registry Sample.ofNumber = .ok binding ∧
      binding.types.find? ⟨2⟩ = some .absent := by
  constructor
  · obtain ⟨-, binds, law⟩ := bind_by_position Sample.pairing Sample.registry Sample.ofNumber
    obtain ⟨binding, bound⟩ := binds.mpr (by decide)
    obtain ⟨missing, -, -, positions⟩ := law binding bound
    have distinct : Sample.pairing.implementation.params.Nodup := by decide
    exact ⟨binding, bound, missing, (positions distinct 0 ⟨2⟩ rfl).1 ⟨0⟩ rfl,
      (positions distinct 1 ⟨11⟩ rfl).2 (by decide)⟩
  · obtain ⟨-, binds, law⟩ := bind_by_position Sample.repeating Sample.registry Sample.ofNumber
    obtain ⟨binding, bound⟩ := binds.mpr (by decide)
    obtain ⟨missing, absent, -, -⟩ := law binding bound
    exact ⟨binding, bound, absent ⟨2⟩ (by rw [missing]; decide)⟩

end OverloadGroup

end Overloading
