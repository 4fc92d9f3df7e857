import Mathlib.Data.List.Induction
import Mathlib.Data.List.Nodup
import Overloading.Proofs.Except
import Overloading.Specialize.Group

/-! # The groups of a scope

Declarations are put into a table one after the other: the groups stand in order of first appearance, and
an index says where the group of each key is. The two stay in step (`GroupTable.inStep_ofScope`): the groups
are the classes of declarations with the same key, each in the order of declaration, and the index gives
the place of the class. `collectGroups_eq_ok_iff` says what the groups of a scope are then. -/

namespace Overloading

universe u v w

/-! ## Classes by key -/

section Classes

variable {Item : Type u} {Key : Type v} {Key' : Type w} [DecidableEq Key] [DecidableEq Key']

/-- The keys of a list in order of first appearance, each with the items that have it. -/
def keyedClasses (key : Item → Key) (items : List Item) : List (Key × List Item) :=
  (items.map key).eraseDups.map fun shared => (shared, items.filter fun item => key item = shared)

/-- The classes of items with the same key, in order of first appearance. -/
def classesBy (key : Item → Key) (items : List Item) : List (List Item) :=
  (keyedClasses key items).map Prod.snd

/-- No key is listed twice. -/
theorem nodup_eraseDups (keys : List Key) : keys.eraseDups.Nodup := by
  match keys with
  | [] => simp
  | key :: keys =>
    rw [List.eraseDups_cons, List.nodup_cons]
    refine ⟨fun again => ?_, nodup_eraseDups _⟩
    simpa using List.mem_eraseDups.mp again
termination_by keys.length
decreasing_by exact Nat.lt_succ_of_le (List.length_filter_le _ _)

/-- A key at the end of a list counts iff it is new. -/
theorem eraseDups_concat (keys : List Key) (key : Key) :
    (keys ++ [key]).eraseDups = if key ∈ keys then keys.eraseDups else keys.eraseDups ++ [key] := by
  rw [List.eraseDups_append, List.removeAll, List.filter_singleton]
  by_cases known : key ∈ keys
  · simp [known]
  · have single : [key].eraseDups = [key] := rfl
    simp [known, single]

/-- A new key at the end of a list has the last place, and the others keep theirs. -/
theorem idxOf?_concat {keys : List Key} {key : Key} (new : key ∉ keys) (other : Key) :
    (keys ++ [key]).idxOf? other = if other = key then some keys.length else keys.idxOf? other := by
  have inEither : (keys ++ [key]).idxOf? other =
      (keys.idxOf? other).or (([key].idxOf? other).map (· + keys.length)) := List.findIdx?_append
  rw [inEither, List.idxOf?_cons, List.idxOf?_nil]
  by_cases same : other = key
  · subst same
    simp [List.idxOf?_eq_none_iff.mpr new]
  · simp [same, Ne.symm same]

/-- The class of the first item comes first, then those of the items with other keys. -/
theorem keyedClasses_cons (key : Item → Key) (item : Item) (items : List Item) :
    keyedClasses key (item :: items) =
      (key item, item :: items.filter fun other => key other = key item) ::
        keyedClasses key (items.filter fun other => key other ≠ key item) := by
  have otherKeys : (items.map key).filter (fun shared => !shared == key item) =
      (items.filter fun other => key other ≠ key item).map key := by
    rw [List.filter_map]
    congr 2
    funext other
    simp [Bool.beq_eq_decide_eq]
  rw [keyedClasses, List.map_cons, List.eraseDups_cons, List.map_cons, otherKeys]
  congr 1
  · simp
  · refine List.map_congr_left fun shared mem => ?_
    have differs : shared ≠ key item := by
      obtain ⟨other, isOther, rfl⟩ := List.mem_map.mp (List.mem_eraseDups.mp mem)
      simpa using (List.mem_filter.mp isOther).2
    -- An item of a later class is not of the first one, so removing the latter changes nothing.
    have excluded (other : Item) (same : key other = shared) : key other ≠ key item :=
      fun isFirst => differs (same.symm.trans isFirst)
    rw [List.filter_cons_of_neg (by simpa using differs.symm), List.filter_filter]
    congr 1
    refine List.filter_congr fun other _ => ?_
    simpa using excluded other

/-- An item with a key that is there already joins the class of that key. -/
theorem keyedClasses_concat_of_mem {key : Item → Key} {items : List Item} {item : Item} {slot : Nat}
    (isSlot : (items.map key).eraseDups[slot]? = some (key item)) :
    keyedClasses key (items ++ [item]) = (keyedClasses key items).modify slot fun keyed =>
      (keyed.1, keyed.2 ++ [item]) := by
  have known : key item ∈ items.map key := List.mem_eraseDups.mp (List.mem_of_getElem? isSlot)
  have sameKeys : ((items ++ [item]).map key).eraseDups = (items.map key).eraseDups := by
    rw [List.map_append, List.map_singleton, eraseDups_concat, if_pos known]
  refine List.ext_getElem? fun index => ?_
  rw [keyedClasses, keyedClasses, sameKeys, List.getElem?_modify, List.getElem?_map, List.getElem?_map]
  cases isKey : (items.map key).eraseDups[index]? with
  | none => rfl
  | some shared =>
    -- each key has one place only
    have atSlot : key item = shared ↔ slot = index := by
      obtain ⟨inSlot, atSlot⟩ := List.getElem?_eq_some_iff.mp isSlot
      obtain ⟨inIndex, atIndex⟩ := List.getElem?_eq_some_iff.mp isKey
      rw [← atSlot, ← atIndex, List.Nodup.getElem_inj_iff (nodup_eraseDups _)]
    by_cases same : slot = index
    · simp [atSlot.mpr same, same]
    · have differs : key item ≠ shared := fun isShared => same (atSlot.mp isShared)
      simp [differs, same]

/-- An item with a new key starts a class of its own, which comes last. -/
theorem keyedClasses_concat_of_new {key : Item → Key} {items : List Item} {item : Item}
    (new : key item ∉ items.map key) :
    keyedClasses key (items ++ [item]) = keyedClasses key items ++ [(key item, [item])] := by
  have moreKeys : ((items ++ [item]).map key).eraseDups = (items.map key).eraseDups ++ [key item] := by
    rw [List.map_append, List.map_singleton, eraseDups_concat, if_neg new]
  have ofNew : (items.filter fun other => key other = key item) = [] := by
    simpa [List.filter_eq_nil_iff] using new
  rw [keyedClasses, keyedClasses, moreKeys, List.map_append, List.map_singleton, List.filter_append, ofNew]
  congr 1
  · refine List.map_congr_left fun shared isKey => ?_
    have differs : key item ≠ shared := fun same => new (same ▸ List.mem_eraseDups.mp isKey)
    simp [differs]
  · simp

/-- Changing items in a way that the key of the changed item tells keeps the classes together. -/
theorem keyedClasses_map {Changed : Type u} (key : Changed → Key) (change : Item → Changed)
    (items : List Item) :
    keyedClasses key (items.map change) =
      (keyedClasses (fun item => key (change item)) items).map fun keyed =>
        (keyed.1, keyed.2.map change) := by
  rw [keyedClasses, keyedClasses, List.map_map, List.map_map]
  refine List.map_congr_left fun shared _ => ?_
  rw [List.filter_map]
  rfl

/-- Keys that make the same classes give the same classes under the same labels. -/
theorem keyedClasses_congr {Label : Type u} {key : Item → Key} {key' : Item → Key'}
    (label : Key → Label) (label' : Key' → Label)
    (labels : ∀ item, label (key item) = label' (key' item))
    (same : ∀ item other, key item = key other ↔ key' item = key' other) (items : List Item) :
    ((keyedClasses key items).map fun keyed => (label keyed.1, keyed.2)) =
      (keyedClasses key' items).map fun keyed => (label' keyed.1, keyed.2) := by
  match items with
  | [] => rfl
  | item :: items =>
    rw [keyedClasses_cons, keyedClasses_cons, List.map_cons, List.map_cons, labels]
    simp only [same, ne_eq]
    rw [keyedClasses_congr label label' labels same]
termination_by items.length
decreasing_by exact Nat.lt_succ_of_le (List.length_filter_le _ _)

/-- The classes depend only on which items have the same key. -/
theorem classesBy_congr {key : Item → Key} {key' : Item → Key'}
    (same : ∀ item other, key item = key other ↔ key' item = key' other) (items : List Item) :
    classesBy key items = classesBy key' items := by
  have unlabelled := keyedClasses_congr (fun _ => PUnit.unit) (fun _ => PUnit.unit) (fun _ => rfl)
    same items
  simpa [classesBy, Function.comp_def] using congrArg (List.map Prod.snd) unlabelled

end Classes

/-! ## The table of a scope -/

namespace GroupTable

variable {owner : Option String} {table : GroupTable} {decls : List FunctionDecl}

/-- A declaration whose key has a place is put after the declarations there. -/
theorem add_of_some {decl : FunctionDecl} {slot : Nat}
    (found : table.slots.lookup (decl.groupKey owner) = some slot) :
    (table.add owner decl).order.toList =
        table.order.toList.modify slot (fun group => (group.1, group.2 ++ [decl])) ∧
      (table.add owner decl).slots = table.slots := by
  unfold add
  split
  · next slot' found' =>
    cases found.symm.trans found'
    refine ⟨?_, rfl⟩
    rw [Array.toList_set, List.modify_eq_set_getElem?]
    simp [table.slot_lt found]
  · next new => cases found.symm.trans new

/-- A declaration with a new key gets the place after the last one. -/
theorem add_of_none {decl : FunctionDecl}
    (new : table.slots.lookup (decl.groupKey owner) = none) :
    (table.add owner decl).order.toList = table.order.toList ++ [(decl.name, [decl])] ∧
      (table.add owner decl).slots = (decl.groupKey owner, table.order.size) :: table.slots := by
  unfold add
  split
  · next slot found => cases new.symm.trans found
  · exact ⟨Array.toList_push, rfl⟩

/-- Whether a table is that of the given declarations, with its index in step: the groups are the classes
of declarations with the same key, and each key is indexed with the place of its class. -/
structure InStep (owner : Option String) (table : GroupTable) (decls : List FunctionDecl) : Prop where
  order_eq : table.order.toList =
    (keyedClasses (FunctionDecl.groupKey owner) decls).map fun keyed => (keyed.1.name, keyed.2)
  lookup_eq : ∀ key, table.slots.lookup key = (decls.map (FunctionDecl.groupKey owner)).eraseDups.idxOf? key

/-- A table that is in step has one group for each key. -/
theorem InStep.size_eq (inStep : table.InStep owner decls) :
    table.order.size = (decls.map (FunctionDecl.groupKey owner)).eraseDups.length := by
  rw [← Array.length_toList, inStep.order_eq, List.length_map, keyedClasses, List.length_map]

/-- Adding a declaration with a known key keeps the index in step: its class grows in place, and the slots
stay. -/
theorem InStep.add_known (inStep : table.InStep owner decls) {decl : FunctionDecl} {slot : Nat}
    (found : table.slots.lookup (decl.groupKey owner) = some slot) :
    (table.add owner decl).InStep owner (decls ++ [decl]) := by
  obtain ⟨sameOrder, sameSlots⟩ := add_of_some found
  rw [inStep.lookup_eq, List.idxOf?_eq_some_iff] at found
  obtain ⟨inKeys, isKey, _⟩ := found
  have isSlot := List.getElem?_eq_some_iff.mpr ⟨inKeys, isKey⟩
  refine ⟨?_, fun key => ?_⟩
  · rw [sameOrder, inStep.order_eq, keyedClasses_concat_of_mem isSlot]
    -- joining a class and naming it come to the same in either order
    refine List.ext_getElem? fun index => ?_
    rw [List.getElem?_modify, List.getElem?_map, List.getElem?_map, List.getElem?_modify]
    by_cases same : slot = index <;> simp [same, Function.comp_def]
  · have known := List.mem_eraseDups.mp (List.mem_of_getElem? isSlot)
    rw [sameSlots, inStep.lookup_eq, List.map_append, List.map_singleton, eraseDups_concat, if_pos known]

/-- Adding a declaration with a new key keeps the index in step: its class comes last, at the slot that is
the number of classes so far. -/
theorem InStep.add_new (inStep : table.InStep owner decls) {decl : FunctionDecl}
    (new : table.slots.lookup (decl.groupKey owner) = none) :
    (table.add owner decl).InStep owner (decls ++ [decl]) := by
  obtain ⟨longer, moreSlots⟩ := add_of_none new
  rw [inStep.lookup_eq, List.idxOf?_eq_none_iff] at new
  have notKey : decl.groupKey owner ∉ decls.map (FunctionDecl.groupKey owner) :=
    fun isKey => new (List.mem_eraseDups.mpr isKey)
  refine ⟨?_, fun key => ?_⟩
  · have name : (decl.groupKey owner).name = decl.name := by
      cases owner <;> rfl
    rw [longer, inStep.order_eq, keyedClasses_concat_of_new notKey, List.map_append, ← name]
    rfl
  · rw [moreSlots, List.map_append, List.map_singleton, eraseDups_concat, if_neg notKey,
      idxOf?_concat new, List.lookup_cons, inStep.lookup_eq, inStep.size_eq]
    by_cases same : key = decl.groupKey owner
    · simp [same]
    · rw [if_neg same, beq_false_of_ne same]

/-- Adding a declaration keeps the index in step with the groups. -/
theorem InStep.add (inStep : table.InStep owner decls) (decl : FunctionDecl) :
    (table.add owner decl).InStep owner (decls ++ [decl]) := by
  cases found : table.slots.lookup (decl.groupKey owner) with
  | some slot => exact inStep.add_known found
  | none => exact inStep.add_new found

/-- The table of a scope is in step with its declarations. -/
theorem inStep_ofScope (owner : Option String) (decls : List FunctionDecl) :
    (ofScope owner decls).InStep owner decls := by
  induction decls using List.reverseRecOn with
  | nil => exact ⟨rfl, fun _ => rfl⟩
  | append_singleton decls decl ih =>
    rw [ofScope, List.foldl_concat]
    exact ih.add decl

end GroupTable

/-- Grouping makes one group of each class of declarations with the same key. -/
theorem collectGroups_eq (owner : Option String) (decls : List FunctionDecl) :
    collectGroups owner decls = (keyedClasses (FunctionDecl.groupKey owner) decls).mapM
      fun keyed => OverloadGroup.ofDeclarations owner keyed.1.name keyed.2 := by
  rw [collectGroups, (GroupTable.inStep_ofScope owner decls).order_eq, List.mapM_map]
  rfl

/-! ## Groups -/

/-- The signatures among the declarations of a group; a lone implementation is its own signature. -/
def FunctionDecl.signaturesOf (members : List FunctionDecl) : List FunctionDecl :=
  let signatures := members.filter fun decl => !decl.hasBody
  if signatures.isEmpty then members else signatures

namespace OverloadGroup

/-- Whether a group is made of the given declarations, exactly one of which has a body. -/
structure MadeOf (group : OverloadGroup) (owner : Option String) (name : String)
    (members : List FunctionDecl) : Prop where
  owner_eq : group.owner = owner
  name_eq : group.name = name
  implementation_eq : members.filter FunctionDecl.hasBody = [group.implementation]
  signatures_eq : group.signatures = FunctionDecl.signaturesOf members

/-- Where one declaration has a body and no other is there, it is the only one. -/
theorem signaturesOf_eq {members : List FunctionDecl} {implementation : FunctionDecl}
    (one : members.filter FunctionDecl.hasBody = [implementation]) :
    FunctionDecl.signaturesOf members =
      if (members.filter fun decl => !decl.hasBody).isEmpty then [implementation]
      else members.filter fun decl => !decl.hasBody := by
  rw [FunctionDecl.signaturesOf]
  split
  · next none =>
    have allBodies : ∀ decl ∈ members, decl.hasBody = true := by
      simpa [List.isEmpty_iff, List.filter_eq_nil_iff] using none
    rw [← one, List.filter_eq_self.mpr allBodies]
  · rfl

/-- A group is made of declarations iff exactly one of them has a body. -/
theorem ofDeclarations_eq_ok_iff {owner : Option String} {name : String}
    {members : List FunctionDecl} {group : OverloadGroup} :
    ofDeclarations owner name members = .ok group ↔ group.MadeOf owner name members := by
  unfold ofDeclarations
  split
  · next none =>
    -- no declaration has a body
    simp only [reduceCtorEq, false_iff]
    intro made
    have one := made.implementation_eq
    rw [none] at one
    cases one
  · next implementation one =>
    simp only [← signaturesOf_eq one]
    constructor
    · intro built
      cases built
      exact ⟨rfl, rfl, one, rfl⟩
    · intro made
      have same : implementation = group.implementation := by
        simpa using one.symm.trans made.implementation_eq
      rw [same, ← made.owner_eq, ← made.name_eq, ← made.signatures_eq]
  · next several =>
    -- there is more than one
    simp only [reduceCtorEq, false_iff]
    intro made
    exact absurd made.implementation_eq (several group.implementation)

end OverloadGroup

/-- The groups of a scope are made of its classes, in their order. -/
theorem collectGroups_eq_ok_iff {owner : Option String} {decls : List FunctionDecl}
    {groups : List OverloadGroup} :
    collectGroups owner decls = .ok groups ↔
      List.Forall₂ (fun bucket group => group.MadeOf owner bucket.1.name bucket.2)
        (keyedClasses (FunctionDecl.groupKey owner) decls) groups := by
  rw [collectGroups_eq, mapM_eq_ok_iff]
  simp only [OverloadGroup.ofDeclarations_eq_ok_iff]

end Overloading
