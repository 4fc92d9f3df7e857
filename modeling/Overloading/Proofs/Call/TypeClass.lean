import Overloading.Call.Candidate
import Overloading.Proofs.Types.Equality

/-! # The class of an annotation by its leaves

The leaves of an annotation are what is reached from it through unions and is not a union itself. A union
compares the classes of its members with that of the first one, and still neither the order of its members
nor their nesting counts: the class is that of all the leaves, if they have one in common
(`DeclaredType.typeClass_by_leaves`).

An annotation is read twice, by its class and by the type that it denotes. The readings agree on a leaf
that no declaration is bound to. A class goes by names alone, so a leaf that is bound to a declaration with
the name of a character or a string has the class of these, but denotes the declared type
(`DeclaredType.typeClass_agrees_iff`). -/

namespace Overloading

namespace DeclaredType

/-! ## Leaves -/

/-- Whether an annotation is a union. -/
def isUnion : DeclaredType → Bool
  | .union _ => true
  | _ => false

/-- Whether a leaf is reached from an annotation by going from unions to their members. -/
inductive LeafOf : DeclaredType → DeclaredType → Prop
  | self {type : DeclaredType} (notUnion : type.isUnion = false) : LeafOf type type
  | member {leaf member : DeclaredType} {members : List DeclaredType} (isMember : member ∈ members)
    (leafOf : LeafOf leaf member) : LeafOf leaf (.union members)

/-- Whether no union that is reached from an annotation through unions is empty. -/
inductive NonemptyUnions : DeclaredType → Prop
  | leaf {type : DeclaredType} (notUnion : type.isUnion = false) : NonemptyUnions type
  | union {members : List DeclaredType} (nonempty : members ≠ [])
    (each : ∀ member ∈ members, NonemptyUnions member) : NonemptyUnions (.union members)

/-- The leaves of a union are those of its members. -/
theorem leafOf_union_iff {leaf : DeclaredType} {members : List DeclaredType} :
    leaf.LeafOf (.union members) ↔ ∃ member ∈ members, leaf.LeafOf member := by
  constructor
  · intro leafOf
    cases leafOf with
    | self notUnion => cases notUnion
    | member isMember leafOf => exact ⟨_, isMember, leafOf⟩
  · rintro ⟨member, isMember, leafOf⟩
    exact .member isMember leafOf

/-- A union has no empty union in it iff it has members and none of these has one in it. -/
theorem nonemptyUnions_union_iff {members : List DeclaredType} :
    (DeclaredType.union members).NonemptyUnions ↔
      members ≠ [] ∧ ∀ member ∈ members, member.NonemptyUnions := by
  constructor
  · intro nonempty
    cases nonempty with
    | leaf notUnion => cases notUnion
    | union nonempty each => exact ⟨nonempty, each⟩
  · rintro ⟨nonempty, each⟩
    exact .union nonempty each

/-- A leaf is not a union. -/
theorem LeafOf.not_union {leaf type : DeclaredType} (leafOf : leaf.LeafOf type) :
    leaf.isUnion = false := by
  induction leafOf with
  | self notUnion => exact notUnion
  | member _ _ ih => exact ih

/-! ## The class of a union -/

/-- The classes of several annotations are found one by one. -/
theorem typeClassAll_eq_map (options : Options) (types : List DeclaredType) :
    typeClassAll options types = types.map (typeClass options) := by
  induction types with
  | nil => rfl
  | cons type types ih => rw [typeClassAll, ih, List.map_cons]

end DeclaredType

/-- A class other than `other` is shared iff there are classes and all are that one. -/
theorem TypeClass.common_eq_iff {shared : TypeClass} (proper : shared ≠ .other)
    {classes : List TypeClass} :
    TypeClass.common classes = shared ↔ classes ≠ [] ∧ ∀ next ∈ classes, next = shared := by
  cases classes with
  | nil => simp [common, proper.symm]
  | cons first rest =>
    rw [common]
    -- the members are compared with the first one only
    by_cases alike : rest.all fun next => next = first
    · rw [if_pos alike]
      have same : ∀ next ∈ rest, next = first := by simpa using alike
      constructor
      · rintro rfl
        exact ⟨List.cons_ne_nil _ _, List.forall_mem_cons.mpr ⟨rfl, same⟩⟩
      · intro all
        exact all.2 first List.mem_cons_self
    · rw [if_neg alike]
      constructor
      · intro isOther
        exact absurd isOther.symm proper
      · rintro ⟨-, all⟩
        obtain ⟨isFirst, others⟩ := List.forall_mem_cons.mp all
        exact absurd (by simpa [isFirst] using others) alike

namespace DeclaredType

section Classes

variable {options : Options} {shared : TypeClass}

/-- A union has a class other than `other` iff it has members and they all have that class. -/
theorem typeClass_union_eq_iff (proper : shared ≠ .other) {members : List DeclaredType} :
    (DeclaredType.union members).typeClass options = shared ↔
      members ≠ [] ∧ ∀ member ∈ members, member.typeClass options = shared := by
  rw [typeClass, typeClassAll_eq_map, TypeClass.common_eq_iff proper]
  simp

/-- The leaves have the class of the annotation, unless that is `other`. -/
theorem LeafOf.typeClass_eq (proper : shared ≠ .other) {leaf type : DeclaredType}
    (leafOf : leaf.LeafOf type) (isShared : type.typeClass options = shared) :
    leaf.typeClass options = shared := by
  induction leafOf with
  | self _ => exact isShared
  | member isMember _ ih => exact ih (((typeClass_union_eq_iff proper).mp isShared).2 _ isMember)

/-- A class of all leaves is the class of the annotation, where no union is empty. -/
theorem NonemptyUnions.typeClass_eq (proper : shared ≠ .other) {type : DeclaredType}
    (nonempty : type.NonemptyUnions)
    (each : ∀ leaf : DeclaredType, leaf.LeafOf type → leaf.typeClass options = shared) :
    type.typeClass options = shared := by
  induction nonempty with
  | leaf notUnion => exact each _ (.self notUnion)
  | union nonempty _ ih =>
    rw [typeClass_union_eq_iff proper]
    refine ⟨nonempty, fun member isMember => ih member isMember fun leaf leafOf => ?_⟩
    exact each leaf (.member isMember leafOf)

/-- Without empty unions an annotation has a class other than `other` iff all its leaves have that
class. -/
theorem NonemptyUnions.typeClass_eq_iff (proper : shared ≠ .other) {type : DeclaredType}
    (nonempty : type.NonemptyUnions) :
    type.typeClass options = shared ↔
      ∀ leaf : DeclaredType, leaf.LeafOf type → leaf.typeClass options = shared :=
  ⟨fun isShared _ leafOf => leafOf.typeClass_eq proper isShared, nonempty.typeClass_eq proper⟩

/-- Annotations with the same leaves have the same class. -/
theorem NonemptyUnions.typeClass_congr {type other : DeclaredType} (nonempty : type.NonemptyUnions)
    (nonemptyOther : other.NonemptyUnions)
    (sameLeaves : ∀ leaf : DeclaredType, leaf.LeafOf other ↔ leaf.LeafOf type) :
    other.typeClass options = type.typeClass options := by
  have agree (shared : TypeClass) (proper : shared ≠ .other) :
      other.typeClass options = shared ↔ type.typeClass options = shared := by
    simp only [nonempty.typeClass_eq_iff proper, nonemptyOther.typeClass_eq_iff proper, sameLeaves]
  -- unless one of the two has a class of its own, both are `other`
  by_cases isOther : type.typeClass options = .other
  · by_cases isOther' : other.typeClass options = .other
    · rw [isOther, isOther']
    · exact ((agree _ isOther').mp rfl).symm
  · exact (agree _ isOther).mpr rfl

end Classes

/-! ## Rearranging unions -/

/-- One step of rearranging: at any depth of nested unions, a member that is a union is replaced by its
members, the members change places, a member is repeated, or a union of one member is replaced by it. -/
inductive RearrangeStep : DeclaredType → DeclaredType → Prop
  | flatten (before inner after : List DeclaredType) :
    RearrangeStep (.union (before ++ .union inner :: after)) (.union (before ++ (inner ++ after)))
  | reorder {members members' : List DeclaredType} (perm : members.Perm members') :
    RearrangeStep (.union members) (.union members')
  | again {member : DeclaredType} {members : List DeclaredType} (isMember : member ∈ members) :
    RearrangeStep (.union members) (.union (member :: members))
  | unwrap (member : DeclaredType) : RearrangeStep (.union [member]) member
  | inMember {member member' : DeclaredType} (before after : List DeclaredType)
    (inner : RearrangeStep member member') :
    RearrangeStep (.union (before ++ member :: after)) (.union (before ++ member' :: after))

/-- Whether an annotation is another one after any number of steps of rearranging. -/
def Rearranged : DeclaredType → DeclaredType → Prop := Relation.ReflTransGen RearrangeStep

/-- A step of rearranging a union keeps the set of its leaves. -/
theorem RearrangeStep.leafOf_iff {type type' : DeclaredType} (step : RearrangeStep type type')
    (leaf : DeclaredType) : leaf.LeafOf type' ↔ leaf.LeafOf type := by
  induction step with
  | flatten before inner after =>
    simp only [leafOf_union_iff, List.mem_append, List.mem_cons, or_and_right, exists_or,
      exists_eq_left]
  | reorder perm => simp only [leafOf_union_iff, perm.mem_iff]
  | again isMember =>
    simp only [leafOf_union_iff, List.exists_mem_cons_iff, or_iff_right_iff_imp]
    exact fun leafOf => ⟨_, isMember, leafOf⟩
  | unwrap member => simp [leafOf_union_iff]
  | inMember before after _ ih =>
    simp only [leafOf_union_iff, List.mem_append, List.mem_cons, or_and_right, exists_or,
      exists_eq_left, ih]

/-- A step of rearranging a union makes no union empty. -/
theorem RearrangeStep.nonemptyUnions {type type' : DeclaredType} (step : RearrangeStep type type')
    (nonempty : type.NonemptyUnions) : type'.NonemptyUnions := by
  induction step with
  | flatten before inner after =>
    simp only [nonemptyUnions_union_iff, List.forall_mem_append, List.forall_mem_cons] at nonempty ⊢
    obtain ⟨-, ofBefore, ⟨nonemptyInner, ofInner⟩, ofAfter⟩ := nonempty
    exact ⟨by simp [nonemptyInner], ofBefore, ofInner, ofAfter⟩
  | reorder perm =>
    simp only [nonemptyUnions_union_iff, perm.mem_iff] at nonempty ⊢
    refine ⟨?_, nonempty.2⟩
    rintro rfl
    exact nonempty.1 perm.eq_nil
  | again isMember =>
    rw [nonemptyUnions_union_iff] at nonempty ⊢
    refine ⟨List.cons_ne_nil _ _, ?_⟩
    exact List.forall_mem_cons.mpr ⟨nonempty.2 _ isMember, nonempty.2⟩
  | unwrap member => exact (nonemptyUnions_union_iff.mp nonempty).2 member (List.mem_singleton_self _)
  | inMember before after _ ih =>
    simp only [nonemptyUnions_union_iff, List.forall_mem_append, List.forall_mem_cons] at nonempty ⊢
    obtain ⟨-, ofBefore, ofMember, ofAfter⟩ := nonempty
    exact ⟨by simp, ofBefore, ih ofMember, ofAfter⟩

/-- Rearranging a union keeps the set of its leaves. -/
theorem Rearranged.leafOf_iff {type type' : DeclaredType} (rearranged : Rearranged type type')
    (leaf : DeclaredType) : leaf.LeafOf type' ↔ leaf.LeafOf type := by
  induction rearranged with
  | refl => exact Iff.rfl
  | tail _ step ih => exact (step.leafOf_iff leaf).trans ih

/-- Rearranging a union makes no union empty. -/
theorem Rearranged.nonemptyUnions {type type' : DeclaredType} (rearranged : Rearranged type type')
    (nonempty : type.NonemptyUnions) : type'.NonemptyUnions := by
  induction rearranged with
  | refl => exact nonempty
  | tail _ step ih => exact step.nonemptyUnions ih

/-- **The class depends only on the set of leaves.** Where no nested union is empty, the class of an
annotation is that of a character (a string) iff each of its leaves has that class. Annotations with the
same leaves have the same class, and so flattening, reordering and repeating the members of nested unions
does not change it. -/
theorem typeClass_by_leaves (options : Options) (type : DeclaredType)
    (nonempty : type.NonemptyUnions) :
    (type.typeClass options = .char ↔
      ∀ leaf : DeclaredType, leaf.LeafOf type → leaf.typeClass options = .char) ∧
    (type.typeClass options = .stringLike ↔
      ∀ leaf : DeclaredType, leaf.LeafOf type → leaf.typeClass options = .stringLike) ∧
    (∀ other : DeclaredType, other.NonemptyUnions →
      (∀ leaf : DeclaredType, leaf.LeafOf other ↔ leaf.LeafOf type) →
      other.typeClass options = type.typeClass options) ∧
    ∀ other : DeclaredType, Rearranged type other →
      other.typeClass options = type.typeClass options := by
  refine ⟨nonempty.typeClass_eq_iff (by decide), nonempty.typeClass_eq_iff (by decide), ?_, ?_⟩
  · intro other nonemptyOther sameLeaves
    exact nonempty.typeClass_congr nonemptyOther sameLeaves
  · intro other rearranged
    exact nonempty.typeClass_congr (rearranged.nonemptyUnions nonempty) rearranged.leafOf_iff

end DeclaredType

namespace Sample

/-- `"a" | (("b" | string) | String)`. -/
def nestedTexts : DeclaredType :=
  .union [.stringLiteral "a", .union [.union [.stringLiteral "b", .keyword .string],
    .reference "String" [] none]]

/-- `String | string | "b" | "a" | "b"`. -/
def flatTexts : DeclaredType :=
  .union [.reference "String" [] none, .keyword .string, .stringLiteral "b", .stringLiteral "a",
    .stringLiteral "b"]

end Sample

namespace DeclaredType

/-- Four texts in nested unions, and the same texts in a flat one, in another order and one of them
twice. -/
theorem typeClass_by_leaves_sample :
    Sample.nestedTexts.NonemptyUnions ∧ Rearranged Sample.nestedTexts Sample.flatTexts ∧
    Sample.flatTexts.typeClass {} = .stringLike ∧
    ∀ leaf : DeclaredType, leaf.LeafOf Sample.nestedTexts → leaf.typeClass {} = .stringLike := by
  have nonempty : Sample.nestedTexts.NonemptyUnions := by
    have leaves : NonemptyUnions (.stringLiteral "a") ∧ NonemptyUnions (.stringLiteral "b") ∧
        NonemptyUnions (.keyword .string) ∧ NonemptyUnions (.reference "String" [] none) :=
      ⟨.leaf rfl, .leaf rfl, .leaf rfl, .leaf rfl⟩
    simpa [Sample.nestedTexts, nonemptyUnions_union_iff, and_assoc] using leaves
  have rearranged : Rearranged Sample.nestedTexts Sample.flatTexts := by
    let a := DeclaredType.stringLiteral "a"
    let b := DeclaredType.stringLiteral "b"
    let keyword := DeclaredType.keyword .string
    let name := DeclaredType.reference "String" [] none
    have inner : RearrangeStep (.union [.union [b, keyword], name]) (.union [b, keyword, name]) :=
      .flatten [] [b, keyword] [name]
    have outer : RearrangeStep (.union [a, .union [b, keyword, name]]) (.union [a, b, keyword, name]) :=
      .flatten [a] [b, keyword, name] []
    have twice : RearrangeStep (.union [a, b, keyword, name]) (.union [b, a, b, keyword, name]) :=
      .again (by simp)
    have order : [b, a, b, keyword, name].Perm [name, keyword, b, a, b] := (List.reverse_perm _).symm
    exact .tail (.tail (.tail (.single (.inMember [a] [] inner)) outer) twice) (.reorder order)
  have isText : Sample.nestedTexts.typeClass {} = .stringLike := by decide
  obtain ⟨-, ofLeaves, -, ofRearranged⟩ := typeClass_by_leaves {} _ nonempty
  exact ⟨nonempty, rearranged, (ofRearranged _ rearranged).trans isText, ofLeaves.mp isText⟩

end DeclaredType

/-! ## Two readings of an annotation -/

/-- The primitive type that a class stands for. -/
def TypeClass.primitive? : TypeClass → Option Primitive
  | .char => some .char
  | .stringLike => some .string
  | .other => none

/-- Only `other` stands for no primitive type. -/
theorem TypeClass.primitive?_eq_none_iff {shared : TypeClass} :
    shared.primitive? = none ↔ shared = .other := by
  cases shared <;> simp [primitive?]

namespace DeclaredType

/-- The declaration that an annotation is bound to, if it is a name and is bound. -/
def decl? : DeclaredType → Option TypeId
  | .reference _ _ decl => decl
  | _ => none

/-- Whether each leaf of an annotation denotes a character if the annotation has the class of
characters, and a string if it has the class of strings. -/
def ClassAgrees (type : DeclaredType) : Prop :=
  ∀ leaf : DeclaredType, leaf.LeafOf type →
    (type.typeClass {} = .char →
      StaticType.equal (.ofDeclared [] leaf) (.primitive .char) = true) ∧
    (type.typeClass {} = .stringLike →
      StaticType.equal (.ofDeclared [] leaf) (.primitive .string) = true)

/-- The class of a name by default: there is one name for characters and there are two for strings. -/
theorem classOfName_cases (name : String) :
    (name = "char" ∧ Options.classOfName {} name = .char) ∨
    ((name = "String" ∨ name = "System.String") ∧ Options.classOfName {} name = .stringLike) ∨
    (name ∉ ["char", "String", "System.String"] ∧ Options.classOfName {} name = .other) := by
  by_cases isChar : name = "char"
  · subst isChar
    exact .inl ⟨rfl, rfl⟩
  · by_cases isString : name = "String" ∨ name = "System.String"
    · exact .inr (.inl ⟨isString, by simp [Options.classOfName, Options.isCharTypeName, *]⟩)
    · refine .inr (.inr ⟨by simpa [isChar] using isString, ?_⟩)
      simp [Options.classOfName, Options.isCharTypeName, *]

/-- A bare name denotes the primitive that its class stands for iff it is not bound to a declaration. -/
theorem equal_ofDeclared_name_iff {name : String} {decl : Option TypeId} {kind : Primitive}
    (isKind : (Options.classOfName {} name).primitive? = some kind) :
    StaticType.equal (.ofDeclared [] (.reference name [] decl)) (.primitive kind) = true ↔
      decl = none := by
  -- a name that spells no primitive denotes a nominal type, which may be a boxed form
  have ofBoxed (boxed : kind.BoxedAs name) (unspelt : Primitive.ofReferenceName? name = none) :
      StaticType.equal (.ofDeclared [] (.reference name [] decl)) (.primitive kind) = true ↔
        decl = none := by
    have nominal : StaticType.ofDeclared [] (.reference name [] decl) = .nominal decl name [] := by
      simp [StaticType.ofDeclared, StaticType.ofReference, unspelt]
    rw [nominal, StaticType.equal, StaticType.isBoxedForm_iff]
    simp [boxed]
  obtain ⟨rfl, isClass⟩ | ⟨rfl | rfl, isClass⟩ | ⟨-, isClass⟩ := classOfName_cases name <;>
    rw [isClass] at isKind <;> cases isKind
  · cases decl with
    | none => simp [StaticType.ofDeclared, StaticType.ofReference, Primitive.ofReferenceName?,
        StaticType.equal, StaticType.denotesPrimitive]
    | some id => simp [StaticType.ofDeclared, StaticType.ofReference, StaticType.equal,
        StaticType.isBoxedForm]
  · exact ofBoxed (.inr rfl) rfl
  · exact ofBoxed (.inl rfl) rfl

/-- A leaf with a class denotes the primitive that the class stands for iff it is not bound to a
declaration. -/
theorem equal_ofDeclared_leaf_iff {leaf : DeclaredType} {kind : Primitive}
    (notUnion : leaf.isUnion = false) (isKind : (leaf.typeClass {}).primitive? = some kind) :
    StaticType.equal (.ofDeclared [] leaf) (.primitive kind) = true ↔ leaf.decl? = none := by
  -- Only a keyword, a literal or a bare name can have a class other than `other`.
  cases leaf with
  | keyword word =>
    by_cases isString : word = .string
    · subst isString
      obtain rfl : .string = kind := by simpa [typeClass, TypeClass.primitive?] using isKind
      simp [StaticType.ofDeclared, StaticType.ofKeyword, StaticType.equal,
        StaticType.denotesPrimitive, decl?]
    · simp [typeClass, isString, TypeClass.primitive?] at isKind
  | stringLiteral text =>
    obtain rfl : .string = kind := by simpa [typeClass, TypeClass.primitive?] using isKind
    simp [StaticType.ofDeclared, StaticType.equal, StaticType.denotesPrimitive, decl?]
  | reference name args decl =>
    cases args with
    | nil => exact equal_ofDeclared_name_iff (by simpa [typeClass] using isKind)
    | cons arg args => simp [typeClass, TypeClass.primitive?] at isKind
  | union => cases notUnion
  | array | tuple | numberLiteral => cases isKind

/-- A leaf of an annotation with a class denotes the primitive that the class stands for iff it is not
bound to a declaration. -/
theorem LeafOf.equal_ofDeclared_iff {leaf type : DeclaredType} (leafOf : leaf.LeafOf type)
    {kind : Primitive} (isKind : (type.typeClass {}).primitive? = some kind) :
    StaticType.equal (.ofDeclared [] leaf) (.primitive kind) = true ↔ leaf.decl? = none := by
  have proper : type.typeClass {} ≠ .other := by
    intro isOther
    rw [isOther] at isKind
    cases isKind
  refine equal_ofDeclared_leaf_iff leafOf.not_union ?_
  rw [leafOf.typeClass_eq proper rfl, isKind]

/-- Agreement for both classes at once, by the primitive type that the class stands for. -/
theorem classAgrees_iff {type : DeclaredType} :
    type.ClassAgrees ↔ ∀ kind, (type.typeClass {}).primitive? = some kind →
      ∀ leaf : DeclaredType, leaf.LeafOf type →
        StaticType.equal (.ofDeclared [] leaf) (.primitive kind) = true := by
  rw [ClassAgrees]
  cases type.typeClass {} <;> simp [TypeClass.primitive?]

/-- **The class of an annotation and the type that it denotes agree where no leaf is bound to a
declaration.** If an annotation has the class of characters (strings), its leaves denote characters
(strings) iff none of them is bound; such a leaf denotes another type iff it is bound. A bound name is of
no class iff it is none of the names of characters and strings, while it always denotes the type that it
is bound to. -/
theorem typeClass_agrees_iff (type : DeclaredType) :
    (type.ClassAgrees ↔
      type.typeClass {} = .other ∨ ∀ leaf : DeclaredType, leaf.LeafOf type → leaf.decl? = none) ∧
    (∀ leaf : DeclaredType, leaf.LeafOf type →
      ∀ kind, (type.typeClass {}).primitive? = some kind →
        (StaticType.equal (.ofDeclared [] leaf) (.primitive kind) = true ↔ leaf.decl? = none)) ∧
    ∀ (name : String) (id : TypeId),
      ((DeclaredType.reference name [] (some id)).typeClass {} = .other ↔
        name ∉ ["char", "String", "System.String"]) ∧
      StaticType.ofDeclared [] (.reference name [] (some id)) = .nominal (some id) name [] := by
  refine ⟨?_, fun leaf leafOf kind isKind => leafOf.equal_ofDeclared_iff isKind, fun name id => ⟨?_, ?_⟩⟩
  · rw [classAgrees_iff, ← TypeClass.primitive?_eq_none_iff]
    -- without a primitive type there is nothing to agree on; with one, leaf by leaf
    cases isKind : (type.typeClass {}).primitive? with
    | none => simp
    | some kind =>
      simp only [Option.some.injEq, forall_eq', reduceCtorEq, false_or]
      exact forall₂_congr fun leaf leafOf => leafOf.equal_ofDeclared_iff isKind
  · -- the class goes by the name alone, whether it is bound or not
    have byName : (DeclaredType.reference name [] (some id)).typeClass {} =
        Options.classOfName {} name := by
      simp [typeClass]
    rw [byName]
    obtain ⟨rfl, isClass⟩ | ⟨rfl | rfl, isClass⟩ | ⟨unnamed, isClass⟩ := classOfName_cases name <;>
      rw [isClass]
    · decide
    · decide
    · decide
    · exact iff_of_true rfl unnamed
  · simp [StaticType.ofDeclared, StaticType.ofReference]

/-- A class called `char` has the class of characters, but is not the type of characters. -/
theorem bound_char_apart :
    (DeclaredType.reference "char" [] (some 7)).typeClass {} = .char ∧
    StaticType.ofDeclared [] (.reference "char" [] (some 7)) = .nominal (some 7) "char" [] ∧
    StaticType.equal (.ofDeclared [] (.reference "char" [] (some 7))) (.primitive .char) = false ∧
    ¬ (DeclaredType.reference "char" [] (some 7)).ClassAgrees := by
  have isChar : (DeclaredType.reference "char" [] (some 7)).typeClass {} = .char := by decide
  have apart : StaticType.equal (.ofDeclared [] (.reference "char" [] (some 7))) (.primitive .char) =
      false := by
    with_unfolding_all rfl
  refine ⟨isChar, rfl, apart, fun agrees => ?_⟩
  rw [(agrees _ (.self rfl)).1 isChar] at apart
  cases apart

/-- The nested texts have no bound leaf, so their class agrees with what they denote. -/
theorem typeClass_agrees_sample :
    (∀ leaf : DeclaredType, leaf.LeafOf Sample.nestedTexts → leaf.decl? = none) ∧
    Sample.nestedTexts.typeClass {} = .stringLike ∧ Sample.nestedTexts.ClassAgrees ∧
    StaticType.equal (.ofDeclared [] (.reference "String" [] none)) (.primitive .string) = true := by
  have unbound : ∀ leaf : DeclaredType, leaf.LeafOf Sample.nestedTexts → leaf.decl? = none := by
    intro leaf leafOf
    simp only [Sample.nestedTexts, leafOf_union_iff, List.exists_mem_cons_iff] at leafOf
    rcases leafOf with leafOf | ((leafOf | leafOf | ⟨_, ⟨⟩, _⟩) | leafOf | ⟨_, ⟨⟩, _⟩) | ⟨_, ⟨⟩, _⟩ <;>
      cases leafOf <;> rfl
  have isText : Sample.nestedTexts.typeClass {} = .stringLike := by decide
  have isLeaf : LeafOf (.reference "String" [] none) Sample.nestedTexts :=
    .member (.tail _ (.head _)) (.member (.tail _ (.head _)) (.self rfl))
  obtain ⟨agrees, ofLeaf, -⟩ := typeClass_agrees_iff Sample.nestedTexts
  refine ⟨unbound, isText, agrees.mpr (.inr unbound), ?_⟩
  exact (ofLeaf _ isLeaf .string (by rw [isText]; rfl)).mpr rfl

end DeclaredType

end Overloading
