import Mathlib.Data.List.Perm.Basic
import Overloading.Proofs.Specialize.Failure

/-! # Grouping is a stable partition

The declarations of a scope are grouped by what tells its functions apart (`FunctionDecl.scopeKey`). The
groups are the classes of declarations with the same key, in order of first appearance, and each class keeps
the order of declaration (`collectGroups_stable_partition`). Where a class has no body or several, grouping
fails for the first class of that sort.

How the declarations of different functions are interleaved (`Interleaves`) matters for the order of the
groups only. -/

namespace Overloading

universe u v

/-! ## Classes by key -/

section Classes

variable {Item : Type u} {Key : Type v} [DecidableEq Key]

/-- Whether two lists have the same items, and those with the same key in the same order. -/
def Interleaves (key : Item → Key) (items items' : List Item) : Prop :=
  ∀ shared, (items.filter fun item => key item = shared) =
    items'.filter fun item => key item = shared

/-- A key is one of a list iff some item of the list has it. -/
theorem mem_map_key_iff {key : Item → Key} {items : List Item} {shared : Key} :
    shared ∈ items.map key ↔ (items.filter fun item => key item = shared) ≠ [] := by
  simp [List.filter_eq_nil_iff]

/-- Interleaving the items differently changes at most the order of the classes. -/
theorem Interleaves.perm_keyedClasses {key : Item → Key} {items items' : List Item}
    (interleaves : Interleaves key items items') :
    (keyedClasses key items).Perm (keyedClasses key items') := by
  have sameKeys : (items.map key).eraseDups.Perm (items'.map key).eraseDups := by
    rw [List.perm_ext_iff_of_nodup (nodup_eraseDups _) (nodup_eraseDups _)]
    intro shared
    rw [List.mem_eraseDups, List.mem_eraseDups, mem_map_key_iff, mem_map_key_iff,
      interleaves shared]
  simp only [keyedClasses, interleaves _]
  exact sameKeys.map _

end Classes

/-! ## Bodies -/

/-- The error for the declarations of a function unless exactly one of them has a body. -/
def FunctionDecl.bodyError (group : String) (members : List FunctionDecl) : SpecializeError :=
  if members.countP FunctionDecl.hasBody = 0 then .noImplementation group
  else .multipleImplementations group (members.countP FunctionDecl.hasBody)

namespace OverloadGroup

variable {owner : Option String} {name : String} {members : List FunctionDecl}

/-- A group can be made of declarations iff exactly one of them has a body. -/
theorem exists_ofDeclarations_iff :
    (∃ group, ofDeclarations owner name members = .ok group) ↔
      members.countP FunctionDecl.hasBody = 1 := by
  rw [(reports_ofDeclarations owner name members).ok_iff, FunctionDecl.bodyViolations_eq_nil_iff,
    ← List.length_eq_one_iff, List.countP_eq_length_filter]

/-- Making a group fails iff the number of bodies is not one, and the error says which. -/
theorem ofDeclarations_eq_error_iff {error : SpecializeError} :
    ofDeclarations owner name members = .error error ↔
      members.countP FunctionDecl.hasBody ≠ 1 ∧
        error = FunctionDecl.bodyError (qualifiedName owner name) members := by
  rw [reports_ofDeclarations owner name members error, FunctionDecl.bodyViolations,
    FunctionDecl.bodyError]
  split
  · next none => simp [none, eq_comm]
  · next one => simp [one]
  · next none one =>
    rw [if_neg none, and_iff_right one, List.head?_cons, Option.some_inj, eq_comm]

end OverloadGroup

/-! ## Groups -/

/-- What tells the functions of a scope apart: the name of a free function, and the name of a member with
whether it is static and what kind it is. -/
def FunctionDecl.scopeKey (owner : Option String) (decl : FunctionDecl) :
    String × Option (Bool × MemberKind) :=
  (decl.name, owner.map fun _ => (decl.isStatic, decl.kind))

/-- Grouping makes one group of each class of declarations with the same key. -/
theorem collectGroups_eq_mapM (owner : Option String) (decls : List FunctionDecl) :
    collectGroups owner decls = (keyedClasses (FunctionDecl.scopeKey owner) decls).mapM
      fun keyed => OverloadGroup.ofDeclarations owner keyed.1.1 keyed.2 := by
  have same (decl other : FunctionDecl) :
      decl.groupKey owner = other.groupKey owner ↔ decl.scopeKey owner = other.scopeKey owner := by
    cases owner <;> simp [FunctionDecl.groupKey, FunctionDecl.scopeKey]
  have named (decl : FunctionDecl) : (decl.groupKey owner).name = (decl.scopeKey owner).1 := by
    cases owner <;> rfl
  have classes := keyedClasses_congr GroupKey.name Prod.fst named same decls
  have ofPairs (Key : Type) (name : Key → String) (buckets : List (Key × List FunctionDecl)) :
      (buckets.mapM fun keyed => OverloadGroup.ofDeclarations owner (name keyed.1) keyed.2) =
        (buckets.map fun keyed => (name keyed.1, keyed.2)).mapM fun pair =>
          OverloadGroup.ofDeclarations owner pair.1 pair.2 := by
    rw [List.mapM_map]
    rfl
  -- of the keys only the name is used from here on
  rw [collectGroups_eq, ofPairs, ofPairs, classes]

/-- There is one group for each class, in the order of the classes, and it is made of that class. -/
theorem collectGroups_eq_ok_iff_scopeKey {owner : Option String} {decls : List FunctionDecl}
    {groups : List OverloadGroup} :
    collectGroups owner decls = .ok groups ↔
      List.Forall₂ (fun keyed group => group.MadeOf owner keyed.1.1 keyed.2)
        (keyedClasses (FunctionDecl.scopeKey owner) decls) groups := by
  rw [collectGroups_eq_mapM, mapM_eq_ok_iff]
  simp only [OverloadGroup.ofDeclarations_eq_ok_iff]

/-- Collecting the groups of a scope fails for the first class of declarations whose number of bodies is
not one. -/
theorem collectGroups_eq_error_iff {owner : Option String} {decls : List FunctionDecl}
    {error : SpecializeError} :
    collectGroups owner decls = .error error ↔
      ∃ keyed, (keyedClasses (FunctionDecl.scopeKey owner) decls).find?
          (fun keyed => keyed.2.countP FunctionDecl.hasBody ≠ 1) = some keyed ∧
        error = FunctionDecl.bodyError (qualifiedName owner keyed.1.1) keyed.2 := by
  rw [collectGroups_eq_mapM, mapM_eq_error_iff]
  simp only [OverloadGroup.exists_ofDeclarations_iff, OverloadGroup.ofDeclarations_eq_error_iff,
    List.find?_eq_some_iff_append]
  constructor
  · rintro ⟨before, keyed, after, split, earlier, offends, isError⟩
    exact ⟨keyed, ⟨by simpa using offends, before, after, split, by simpa using earlier⟩, isError⟩
  · rintro ⟨keyed, ⟨offends, before, after, split, earlier⟩, isError⟩
    exact ⟨before, keyed, after, split, by simpa using earlier, by simpa using offends, isError⟩

/-- **Grouping is a stable partition.** The declarations of a scope can be grouped iff exactly one of those
with the same key has a body, for every key. The groups are then made of the classes of declarations with
the same key: in order of first appearance, under the owner and the name of the class, with the one body as
implementation and the others as signatures in their order. Otherwise the error is for the first class that
has no body or several. If the declarations are interleaved differently, with the order inside each class
kept, then the groups are the same up to their order. -/
theorem collectGroups_stable_partition (owner : Option String) (decls : List FunctionDecl) :
    ((∃ groups, collectGroups owner decls = .ok groups) ↔
      ∀ keyed ∈ keyedClasses (FunctionDecl.scopeKey owner) decls,
        keyed.2.countP FunctionDecl.hasBody = 1) ∧
    (∀ groups, collectGroups owner decls = .ok groups ↔
      List.Forall₂ (fun keyed group => group.MadeOf owner keyed.1.1 keyed.2)
        (keyedClasses (FunctionDecl.scopeKey owner) decls) groups) ∧
    (∀ error, collectGroups owner decls = .error error ↔
      ∃ keyed, (keyedClasses (FunctionDecl.scopeKey owner) decls).find?
          (fun keyed => keyed.2.countP FunctionDecl.hasBody ≠ 1) = some keyed ∧
        error = FunctionDecl.bodyError (qualifiedName owner keyed.1.1) keyed.2) ∧
    ∀ decls' groups, Interleaves (FunctionDecl.scopeKey owner) decls decls' →
      collectGroups owner decls = .ok groups →
      ∃ groups', collectGroups owner decls' = .ok groups' ∧ groups.Perm groups' := by
  refine ⟨?_, fun _ => collectGroups_eq_ok_iff_scopeKey, fun _ => collectGroups_eq_error_iff, ?_⟩
  · simp only [collectGroups_eq_mapM, mapM_eq_ok_iff, exists_forall₂_iff,
      OverloadGroup.exists_ofDeclarations_iff]
  · intro decls' groups interleaves collected
    -- the groups are put in the order of the other list's classes
    obtain ⟨groups', made, perm⟩ := List.perm_comp_forall₂ interleaves.perm_keyedClasses.symm
      (collectGroups_eq_ok_iff_scopeKey.mp collected)
    exact ⟨groups', collectGroups_eq_ok_iff_scopeKey.mpr made, perm.symm⟩

namespace Sample

/-- `static g();`. -/
def staticSignature : FunctionDecl := { lone with handle := ⟨10⟩, isStatic := true, body := none }

/-- `static g() {}`. -/
def staticBody : FunctionDecl := { lone with handle := ⟨11⟩, isStatic := true }

/-- The groups of a class `C` with these members and a `g() {}` that is not static. -/
def memberGroups : List OverloadGroup :=
  [⟨some "C", "g", staticBody, [staticSignature]⟩, ⟨some "C", "g", lone, [lone]⟩]

end Sample

/-- A static method with a signature, and another method of the same name declared in between or before.
-/
theorem collectGroups_stable_partition_sample :
    Interleaves (FunctionDecl.scopeKey (some "C"))
      [Sample.staticSignature, Sample.lone, Sample.staticBody]
      [Sample.lone, Sample.staticSignature, Sample.staticBody] ∧
    collectGroups (some "C") [Sample.staticSignature, Sample.lone, Sample.staticBody] =
      .ok Sample.memberGroups ∧
    ∃ groups, collectGroups (some "C") [Sample.lone, Sample.staticSignature, Sample.staticBody] =
      .ok groups ∧ Sample.memberGroups.Perm groups := by
  have interleaves : Interleaves (FunctionDecl.scopeKey (some "C"))
      [Sample.staticSignature, Sample.lone, Sample.staticBody]
      [Sample.lone, Sample.staticSignature, Sample.staticBody] := by
    -- the two declarations that change places have different keys
    intro shared
    by_cases isStatic : Sample.staticSignature.scopeKey (some "C") = shared
    · subst isStatic
      rfl
    · simp [List.filter_cons, isStatic]
  have collected : collectGroups (some "C")
      [Sample.staticSignature, Sample.lone, Sample.staticBody] = .ok Sample.memberGroups := by
    with_unfolding_all rfl
  obtain ⟨-, -, -, law⟩ := collectGroups_stable_partition (some "C")
    [Sample.staticSignature, Sample.lone, Sample.staticBody]
  exact ⟨interleaves, collected, law _ _ interleaves collected⟩

end Overloading
