import Overloading.Proofs.Types.Transitive

/-! # Unions

The members of a union are compared by two inclusions and by their number.

The inclusions do not see any order. So the members of unions may change places anywhere inside a type, and
it stays the same as what it was the same as before (`StaticType.equal_of_reordered`). One step of such a
change is `StaticType.ReorderStep`.

The number does see repetitions. Unions with the same members are the same iff they list equally many
(`StaticType.equal_union_as_set_iff`), so repeating a member of one of two unions tells them apart. The
number adds nothing if neither union repeats a member, as long as equality is transitive. -/

namespace Overloading

namespace StaticType

/-! ## The order of members -/

/-- One step of reordering: inside a type, at any depth, the members of one union change places. -/
inductive ReorderStep : StaticType → StaticType → Prop
  | members {members members' : List StaticType} (perm : members.Perm members') :
    ReorderStep (.union members) (.union members')
  | inArray {element element' : StaticType} (inner : ReorderStep element element') :
    ReorderStep (.array element) (.array element')
  | inTuple {element element' : StaticType} (before after : List StaticType)
    (inner : ReorderStep element element') :
    ReorderStep (.tuple (before ++ element :: after)) (.tuple (before ++ element' :: after))
  | inNominal {arg arg' : StaticType} (id : Option TypeId) (name : String)
    (before after : List StaticType) (inner : ReorderStep arg arg') :
    ReorderStep (.nominal id name (before ++ arg :: after))
      (.nominal id name (before ++ arg' :: after))
  | inUnion {member member' : StaticType} (before after : List StaticType)
    (inner : ReorderStep member member') :
    ReorderStep (.union (before ++ member :: after)) (.union (before ++ member' :: after))

/-- Whether a type is another one with the members of any number of unions reordered. -/
def Reordered : StaticType → StaticType → Prop := Relation.ReflTransGen ReorderStep

/-- A step of reordering can be taken back. -/
theorem ReorderStep.symm {a a' : StaticType} (step : ReorderStep a a') : ReorderStep a' a := by
  induction step with
  | members perm => exact .members perm.symm
  | inArray _ ih => exact .inArray ih
  | inTuple before after _ ih => exact .inTuple before after ih
  | inNominal id name before after _ ih => exact .inNominal id name before after ih
  | inUnion before after _ ih => exact .inUnion before after ih

section Replacement

variable {same : StaticType → StaticType → Prop} {part part' b : StaticType}
  {before after others : List StaticType}

/-- A list still agrees with another one, place by place, if a type in it is replaced by one that is the
same as all that the former is the same as. -/
theorem forall₂_replace (follows : ∀ other, same part other → same part' other)
    (each : List.Forall₂ same (before ++ part :: after) others) :
    List.Forall₂ same (before ++ part' :: after) others := by
  induction before generalizing others with
  | nil =>
    obtain ⟨other, others, first, rest, rfl⟩ := List.forall₂_cons_left_iff.mp each
    exact .cons (follows other first) rest
  | cons type before ih =>
    obtain ⟨other, others, first, rest, rfl⟩ := List.forall₂_cons_left_iff.mp each
    exact .cons first (ih rest)

/-- In a union that matches a type a member may be replaced by one that matches whatever it matches. -/
theorem Matches.union_replace (follows : ∀ other, same part other → same part' other)
    (matched : Matches same (.union (before ++ part :: after)) b) :
    Matches same (.union (before ++ part' :: after)) b := by
  cases matched with
  | union sameLength into onto =>
    simp only [List.forall_mem_append, List.forall_mem_cons] at into
    obtain ⟨intoBefore, ⟨partner, isPartner, hasPartner⟩, intoAfter⟩ := into
    refine .union (by simpa using sameLength) ?_ fun other isOther => ?_
    · simp only [List.forall_mem_append, List.forall_mem_cons]
      exact ⟨intoBefore, ⟨partner, isPartner, follows partner hasPartner⟩, intoAfter⟩
    · obtain ⟨member, isMember, isSame⟩ := onto other isOther
      -- a partner other than the replaced type is still there
      obtain isBefore | rfl | isAfter : member ∈ before ∨ member = part ∨ member ∈ after := by
        simpa using isMember
      · exact ⟨member, by simp [isBefore], isSame⟩
      · exact ⟨part', by simp, follows other isSame⟩
      · exact ⟨member, by simp [isAfter], isSame⟩

end Replacement

/-- A step of reordering keeps what a type is the same as. -/
theorem equal_of_reorderStep {a a' b : StaticType} (step : ReorderStep a a')
    (same : equal a b = true) : equal a' b = true := by
  induction step generalizing b with
  | members perm =>
    cases matches_of_equal same with
    | union sameLength into onto =>
      refine equal_of_matches (.union (perm.length_eq.symm.trans sameLength) ?_ fun other isOther => ?_)
      · exact fun member isMember => into member (perm.mem_iff.mpr isMember)
      · obtain ⟨member, isMember, isSame⟩ := onto other isOther
        exact ⟨member, perm.mem_iff.mp isMember, isSame⟩
  | inArray _ ih =>
    cases matches_of_equal same with
    | array elements => exact equal_of_matches (.array (ih elements))
  | inTuple before after _ ih =>
    cases matches_of_equal same with
    | tuple each => exact equal_of_matches (.tuple (forall₂_replace (fun _ => ih) each))
  | @inNominal arg arg' id name before after _ ih =>
    -- a type with arguments is no boxed form
    have hasArgs : before ++ arg :: after ≠ [] := by simp
    generalize isArgs : before ++ arg :: after = args at same hasArgs
    cases matches_of_equal same with
    | unboxed => exact absurd rfl hasArgs
    | declared id _ name' _ args' => exact equal_of_matches (.declared id name name' _ args')
    | named undeclared each =>
      subst isArgs
      exact equal_of_matches (.named undeclared (forall₂_replace (fun _ => ih) each))
  | inUnion before after _ ih =>
    exact equal_of_matches ((matches_of_equal same).union_replace fun _ => ih)

/-- **The order of the members of unions is irrelevant at every depth.** If the members of any number of
unions inside a type change places, it is the same as the same types as before, on either side. -/
theorem equal_of_reordered (a a' b : StaticType) (reordered : Reordered a a') :
    equal a b = equal a' b ∧ equal b a = equal b a' := by
  have left : equal a b = equal a' b := by
    induction reordered with
    | refl => rfl
    | tail _ step ih =>
      rw [ih, Bool.eq_iff_iff]
      exact ⟨equal_of_reorderStep step, equal_of_reorderStep step.symm⟩
  refine ⟨left, ?_⟩
  rw [equal_comm b a, equal_comm b a', left]

end StaticType

namespace Sample

/-- `(Map<string | number, any> | null)[]`. -/
def mapsOrNull : StaticType :=
  .array (.union [.nominal none "Map" [.union [.primitive .string, .primitive .double], .any], .null])

/-- The same with the members of both unions in the other order. -/
def nullOrMaps : StaticType :=
  .array (.union [.null, .nominal none "Map" [.union [.primitive .double, .primitive .string], .any]])

/-- The same with boxed forms, where `Map` has the declaration 3. -/
def boxedMaps : StaticType :=
  .array (.union [.nominal (some 3) "Map"
    [.union [.nominal none "System.String" [], .nominal none "Double" []], .any], .null])

end Sample

namespace StaticType

/-- Reordering two unions, one in the arguments of a member of the other. -/
theorem equal_of_reordered_sample :
    Reordered Sample.mapsOrNull Sample.nullOrMaps ∧
    equal Sample.mapsOrNull Sample.boxedMaps = true ∧
    equal Sample.nullOrMaps Sample.boxedMaps = true := by
  have reordered : Reordered Sample.mapsOrNull Sample.nullOrMaps := by
    have swapKeys := ReorderStep.inNominal none "Map" [] [.any]
      (.members (.swap (.primitive .double) (.primitive .string) []))
    have swapMembers := ReorderStep.members (.swap .null (.nominal none "Map"
      [.union [.primitive .double, .primitive .string], .any]) [])
    exact .tail (.single (.inArray (.inUnion [] [.null] swapKeys))) (.inArray swapMembers)
  have same : equal Sample.mapsOrNull Sample.boxedMaps = true := by with_unfolding_all rfl
  refine ⟨reordered, same, ?_⟩
  rw [← (equal_of_reordered _ _ Sample.boxedMaps reordered).1, same]

/-! ## Members as a set -/

/-- Whether each type of a list is the same as some type of another. -/
def Included (members others : List StaticType) : Prop :=
  ∀ member ∈ members, ∃ other ∈ others, equal member other = true

/-- Whether two lists of types have the same members if they are read as sets. -/
def SameMembers (members members' : List StaticType) : Prop :=
  Included members members' ∧ Included members' members

/-- Whether no type of a list is the same as a later one. -/
def Distinct (members : List StaticType) : Prop :=
  members.Pairwise fun member later => equal member later = false

/-- Unions are the same iff they have equally many members and the same ones as sets. -/
theorem equal_union_iff_sameMembers {members members' : List StaticType} :
    equal (.union members) (.union members') = true ↔
      members.length = members'.length ∧ SameMembers members members' := by
  simp only [equal_union_iff, SameMembers, Included, equal_comm]

/-- Repeated members have no part in the inclusions. -/
theorem sameMembers_append {members members' repeated repeated' : List StaticType}
    (isRepeated : repeated ⊆ members) (isRepeated' : repeated' ⊆ members') :
    SameMembers (repeated ++ members) (repeated' ++ members') ↔ SameMembers members members' := by
  have mem (member : StaticType) : member ∈ repeated ++ members ↔ member ∈ members := by
    simpa using @isRepeated member
  have mem' (member : StaticType) : member ∈ repeated' ++ members' ↔ member ∈ members' := by
    simpa using @isRepeated' member
  simp only [SameMembers, Included, mem, mem']

/-- A list is not longer than another one that includes it, if no two of its members have a partner in
common there. -/
theorem length_le_of_included {members others : List StaticType} (included : Included members others)
    (apart : members.Pairwise fun member later =>
      ∀ other ∈ others, equal member other = true → equal later other = false) :
    members.length ≤ others.length := by
  -- the partner of the first member is taken out, and the later members have theirs in the rest
  induction members generalizing others with
  | nil => exact Nat.zero_le _
  | cons member members ih =>
    obtain ⟨other, isOther, isSame⟩ := included member List.mem_cons_self
    obtain ⟨before, after, rfl⟩ := List.append_of_mem isOther
    obtain ⟨apartFirst, apartRest⟩ := List.pairwise_cons.mp apart
    have includedRest : Included members (before ++ after) := by
      intro later isLater
      obtain ⟨partner, isPartner, isSame'⟩ := included later (List.mem_cons_of_mem _ isLater)
      have differs : partner ≠ other := by
        rintro rfl
        rw [apartFirst later isLater partner isOther isSame] at isSame'
        cases isSame'
      exact ⟨partner, by simpa [differs] using isPartner, isSame'⟩
    have kept : before ++ after ⊆ before ++ other :: after :=
      ((List.sublist_cons_self other after).append_left before).subset
    have shorter : members.length ≤ (before ++ after).length :=
      ih includedRest (apartRest.imp fun apart partner isPartner => apart partner (kept isPartner))
    simp only [List.length_append, List.length_cons] at shorter ⊢
    omega

/-- Where equality is transitive, two members that are not the same have no partner in common. -/
theorem Distinct.length_le {members others : List StaticType} (distinct : Distinct members)
    (bound : ∀ member ∈ members, member.FullyBound)
    (boundOthers : ∀ other ∈ others, other.FullyBound) (included : Included members others) :
    members.length ≤ others.length := by
  refine length_le_of_included included (distinct.imp_of_mem ?_)
  intro member later isMember isLater differ other isOther isSame
  rw [Bool.eq_false_iff]
  intro isSame'
  have boundMember := bound member isMember
  have same : equal member later = true :=
    equal_trans boundMember (boundOthers other isOther) (bound later isLater)
      (boundMember.spellAlike later) isSame (equal_symm isSame')
  rw [differ] at same
  cases same

/-- Literals denote the type of their values, whatever they are. -/
theorem ofDeclared_literals (typeParams : List String) (texts : List String) :
    ofDeclared typeParams (.union (texts.map .stringLiteral)) =
      .union (List.replicate texts.length (.primitive .string)) := by
  simp [ofDeclared, Function.comp_def]

/-- Unions of literals are the same iff they list equally many. -/
theorem equal_literals_iff {typeParams typeParams' texts texts' : List String} :
    equal (ofDeclared typeParams (.union (texts.map .stringLiteral)))
        (ofDeclared typeParams' (.union (texts'.map .stringLiteral))) = true ↔
      texts.length = texts'.length := by
  rw [ofDeclared_literals, ofDeclared_literals, equal_union_iff_sameMembers, List.length_replicate,
    List.length_replicate, and_iff_left_iff_imp]
  intro sameLength
  have included : Included (List.replicate texts'.length (.primitive .string))
      (List.replicate texts'.length (.primitive .string)) := by
    intro member isMember
    obtain rfl := List.eq_of_mem_replicate isMember
    exact ⟨_, isMember, equal_of_matches (.primitive .string)⟩
  rw [sameLength]
  exact ⟨included, included⟩

/-- **Unions are compared as sets, but for the number of their members.** Equality of two unions agrees with
the comparison of their members as sets iff they list equally many members, should these be the same.
Repeating members keeps the answer iff the numbers of members, should these be the same, agree afterwards
just if they agreed before. Unions whose members are distinct, with declarations for all nominal types in
them, list equally many if they have the same members, so they are compared as sets. Unions of string
literals are the same iff they list equally many. -/
theorem equal_union_as_set_iff (members members' : List StaticType) :
    ((equal (.union members) (.union members') = true ↔ SameMembers members members') ↔
      (SameMembers members members' → members.length = members'.length)) ∧
    (∀ repeated repeated' : List StaticType, repeated ⊆ members → repeated' ⊆ members' →
      (equal (.union (repeated ++ members)) (.union (repeated' ++ members')) =
          equal (.union members) (.union members') ↔
        (SameMembers members members' →
          (repeated.length + members.length = repeated'.length + members'.length ↔
            members.length = members'.length)))) ∧
    ((∀ member ∈ members, member.FullyBound) → (∀ member ∈ members', member.FullyBound) →
      Distinct members → Distinct members' →
      (equal (.union members) (.union members') = true ↔ SameMembers members members')) ∧
    ∀ typeParams typeParams' texts texts' : List String,
      equal (ofDeclared typeParams (.union (texts.map .stringLiteral)))
          (ofDeclared typeParams' (.union (texts'.map .stringLiteral))) = true ↔
        texts.length = texts'.length := by
  refine ⟨?_, ?_, ?_, fun _ _ _ _ => equal_literals_iff⟩
  · rw [equal_union_iff_sameMembers, and_iff_right_iff_imp]
  · intro repeated repeated' isRepeated isRepeated'
    rw [Bool.eq_iff_iff, equal_union_iff_sameMembers, equal_union_iff_sameMembers,
      sameMembers_append isRepeated isRepeated', List.length_append, List.length_append]
    exact and_congr_left_iff
  · intro bound bound' distinct distinct'
    rw [equal_union_iff_sameMembers, and_iff_right_iff_imp]
    -- distinct members that are included in others are no more than these
    rintro ⟨into, onto⟩
    exact Nat.le_antisymm (distinct.length_le bound bound' into)
      (distinct'.length_le bound' bound onto)

/-- Two string literals and one denote the same set of types, but not the same type. -/
theorem repeated_literal_apart :
    ofDeclared [] (.union [.stringLiteral "on", .stringLiteral "off"]) =
      .union [.primitive .string, .primitive .string] ∧
    ofDeclared [] (.union [.stringLiteral "any"]) = .union [.primitive .string] ∧
    SameMembers [.primitive .string, .primitive .string] [.primitive .string] ∧
    equal (.union [.primitive .string, .primitive .string]) (.union [.primitive .string]) = false := by
  have isSame : equal (.primitive .string) (.primitive .string) = true := by with_unfolding_all rfl
  refine ⟨rfl, rfl, ⟨?_, ?_⟩, by with_unfolding_all rfl⟩
  · simpa [Included] using isSame
  · simpa [Included] using isSame

/-- Unions that are the same stay so if `null` is repeated in both, and unions of distinct declared
types are compared as sets. -/
theorem equal_union_as_set_sample :
    ([StaticType.null] ⊆ [.primitive .string, .null] ∧
      equal (.union ([.null] ++ [.primitive .string, .null]))
        (.union ([.null] ++ [.null, .nominal none "String" []])) = true) ∧
    (Distinct [.array (.nominal (some 3) "List" [.primitive .char]), .nominal (some 4) "Node" []] ∧
      Distinct [.nominal (some 4) "Knot" [], .array (.nominal (some 3) "Row" [])] ∧
      equal Sample.listsOrNode Sample.knotOrRows = true) := by
  constructor
  · obtain ⟨-, repeating, -, -⟩ := equal_union_as_set_iff [.primitive .string, .null]
      [.null, .nominal none "String" []]
    have isRepeated : [StaticType.null] ⊆ [.primitive .string, .null] := by simp
    have isRepeated' : [StaticType.null] ⊆ [.null, .nominal none "String" []] := by simp
    have kept := (repeating _ _ isRepeated isRepeated').mpr fun _ => by simp
    exact ⟨isRepeated, kept.trans (by with_unfolding_all rfl)⟩
  · obtain ⟨-, -, distinct, -⟩ := equal_union_as_set_iff
      [.array (.nominal (some 3) "List" [.primitive .char]), .nominal (some 4) "Node" []]
      [.nominal (some 4) "Knot" [], .array (.nominal (some 3) "Row" [])]
    have lists : Distinct
        [.array (.nominal (some 3) "List" [.primitive .char]), .nominal (some 4) "Node" []] := by
      simp [Distinct, equal]
    have knots : Distinct [.nominal (some 4) "Knot" [], .array (.nominal (some 3) "Row" [])] := by
      simp [Distinct, equal]
    refine ⟨lists, knots, (distinct ?_ ?_ lists knots).mpr ⟨?_, ?_⟩⟩
    · simp [FullyBound, Uniform]
    · simp [FullyBound, Uniform]
    · simp [Included, equal]
    · simp [Included, equal]

end StaticType

end Overloading
