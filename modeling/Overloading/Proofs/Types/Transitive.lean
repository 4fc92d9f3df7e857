import Mathlib.Data.Set.Defs
import Overloading.Proofs.Types.Equality

/-! # Transitivity of equality

Equality of types is not transitive at large, for two reasons. A nominal type with a declaration and one
without are compared by name, so a name alone may be the same as two different declarations. And a
primitive is the same as both spellings of its boxed name, which are not the same as each other.

The first is out of the way if all nominal types have declarations, and then the second is too
(`StaticType.equal_trans_of_fullyBound`). If none has a declaration, only the second is left:
`StaticType.equal_trans_by_name_iff` says for which spellings the law holds. Both come from
`StaticType.equal_trans`, where the nominal types have declarations all or none, and the outer types spell
the boxed name of a primitive alike. -/

namespace Overloading

namespace Primitive

/-- The short boxed name tells the primitive. -/
theorem shortBoxedName_inj {kind kind' : Primitive} :
    kind.shortBoxedName = kind'.shortBoxedName ↔ kind = kind' := by
  cases kind <;> cases kind' <;> decide

/-- A boxed name in full is never a short one. -/
theorem boxedName_ne_shortBoxedName (kind kind' : Primitive) :
    kind.boxedName ≠ kind'.shortBoxedName := by
  cases kind <;> cases kind' <;> decide

/-- A name belongs to one primitive at most. -/
theorem BoxedAs.unique {kind kind' : Primitive} {name : String} (spelt : kind.BoxedAs name)
    (spelt' : kind'.BoxedAs name) : kind = kind' := by
  obtain rfl | rfl := spelt
  · obtain same | same := spelt'
    · exact shortBoxedName_inj.mp (String.append_right_inj _ |>.mp same)
    · exact absurd same (boxedName_ne_shortBoxedName kind kind')
  · obtain same | same := spelt'
    · exact absurd same.symm (boxedName_ne_shortBoxedName kind' kind)
    · exact shortBoxedName_inj.mp same

end Primitive

namespace StaticType

/-! ## Nominal types at any depth -/

/-- Whether a property holds of every nominal type inside a type, at any depth. -/
def EachNominal (holds : Option TypeId → String → List StaticType → Prop) (type : StaticType) :
    Prop :=
  ∀ id name args, Within (.nominal id name args) type → holds id name args

/-- Whether every nominal type inside a type has a declaration, or none has, as `bound` tells. -/
def Uniform (bound : Bool) : StaticType → Prop := EachNominal fun id _ _ => id.isSome = bound

/-- Whether every nominal type inside a type has a declaration. -/
def FullyBound : StaticType → Prop := Uniform true

/-- Whether a type refers to nominal types by name only. -/
def NameOnly : StaticType → Prop := Uniform false

/-- Whether two types spell the boxed name of a primitive in the same way, if both have it. -/
def SpellAlike (a c : StaticType) : Prop :=
  ∀ (kind : Primitive) (name name' : String), kind.BoxedAs name → kind.BoxedAs name' →
    Within (.nominal none name []) a → Within (.nominal none name' []) c → name = name'

section Within

variable {holds : Option TypeId → String → List StaticType → Prop} {type inner : StaticType}

/-- What holds of all nominal types inside a type holds of those inside its parts. -/
theorem EachNominal.part (each : type.EachNominal holds) (isPart : inner ∈ type.parts) :
    inner.EachNominal holds :=
  fun id name args within => each id name args (within.tail isPart)

/-- The parts of two types that spell boxed names alike do so, too. -/
theorem SpellAlike.parts {a c last : StaticType} (alike : SpellAlike a c) (isPart : inner ∈ a.parts)
    (isLast : last ∈ c.parts) : SpellAlike inner last :=
  fun kind name name' spelt spelt' within within' =>
    alike kind name name' spelt spelt' (within.tail isPart) (within'.tail isLast)

/-- Of two nominal types that are uniform in the same way, both have a declaration or none has. -/
theorem Uniform.eq_none_iff {bound : Bool} {id id' : Option TypeId} {name name' : String}
    {args args' : List StaticType} (uniform : (nominal id name args).Uniform bound)
    (uniform' : (nominal id' name' args').Uniform bound) : id = none ↔ id' = none := by
  have alike : id.isSome = id'.isSome :=
    (uniform id name args .refl).trans (uniform' id' name' args' .refl).symm
  rw [← Option.isNone_iff_eq_none, ← Option.isNone_iff_eq_none, ← Option.not_isSome,
    ← Option.not_isSome, alike]

/-- A property holds of all nominal types inside a type iff it holds of the type, if that is nominal,
and of those inside the parts. -/
theorem eachNominal_iff :
    type.EachNominal holds ↔ (∀ id name args, type = .nominal id name args → holds id name args) ∧
      ∀ part ∈ type.parts, part.EachNominal holds := by
  constructor
  · intro each
    refine ⟨?_, fun part isPart => each.part isPart⟩
    rintro id name args rfl
    exact each id name args .refl
  · rintro ⟨root, parts⟩ id name args within
    obtain rfl | ⟨part, isPart, within⟩ := within_iff.mp within
    · exact root id name args rfl
    · exact parts part isPart id name args within

/-- For a nominal type: the type itself, and those inside its arguments. -/
@[simp] theorem eachNominal_nominal {id : Option TypeId} {name : String} {args : List StaticType} :
    (nominal id name args).EachNominal holds ↔
      holds id name args ∧ ∀ arg ∈ args, arg.EachNominal holds := by
  rw [eachNominal_iff]
  simp [parts]

@[simp] theorem eachNominal_array {element : StaticType} :
    (array element).EachNominal holds ↔ element.EachNominal holds := by
  rw [eachNominal_iff]
  simp [parts]

@[simp] theorem eachNominal_tuple {elements : List StaticType} :
    (tuple elements).EachNominal holds ↔ ∀ element ∈ elements, element.EachNominal holds := by
  rw [eachNominal_iff]
  simp [parts]

@[simp] theorem eachNominal_union {members : List StaticType} :
    (union members).EachNominal holds ↔ ∀ member ∈ members, member.EachNominal holds := by
  rw [eachNominal_iff]
  simp [parts]

@[simp] theorem eachNominal_primitive {kind : Primitive} : (primitive kind).EachNominal holds := by
  rw [eachNominal_iff]
  simp [parts]

end Within

/-! ## One level -/

section Matches

variable {same : StaticType → StaticType → Prop} {a b c : StaticType} {bound : Bool}

/-- A relation that is transitive on the types of three lists is so position by position. -/
theorem forall₂_trans {types others lasts : List StaticType}
    (trans : ∀ type ∈ types, ∀ other ∈ others, ∀ last ∈ lasts,
      same type other → same other last → same type last)
    (first : List.Forall₂ same types others) (second : List.Forall₂ same others lasts) :
    List.Forall₂ same types lasts := by
  rw [List.forall₂_iff_get] at first second ⊢
  obtain ⟨sameLength, first⟩ := first
  obtain ⟨sameLength', second⟩ := second
  refine ⟨sameLength.trans sameLength', fun index inTypes inLasts => ?_⟩
  have inOthers : index < others.length := sameLength ▸ inTypes
  exact trans _ (List.get_mem ..) _ (List.get_mem ..) _ (List.get_mem ..)
    (first index inTypes inOthers) (second index inOthers inLasts)

/-- Matching is transitive on uniform types that spell boxed names alike, if the relation between the
parts is. -/
theorem Matches.trans (uniformA : a.Uniform bound) (uniformB : b.Uniform bound)
    (uniformC : c.Uniform bound) (alike : SpellAlike a c)
    (parts : ∀ part ∈ a.parts, ∀ other ∈ b.parts, ∀ last ∈ c.parts,
      same part other → same other last → same part last)
    (first : Matches same a b) (second : Matches same b c) : Matches same a c := by
  cases first with
  | primitive | typeParam | any | unknown | void | null => exact second
  | @boxed kind name spelt =>
    cases second with
    | unboxed spelt' =>
      obtain rfl := spelt.unique spelt'
      exact .primitive kind
    | named _ each =>
      cases each
      obtain rfl := (uniformB.eq_none_iff uniformC).mp rfl
      exact .boxed spelt
  | unboxed spelt =>
    cases second with
    | primitive => exact .unboxed spelt
    | boxed spelt' =>
      -- the one place where the spellings count: both outer types are boxed forms of `b`
      obtain rfl := alike _ _ _ spelt spelt' .refl .refl
      exact .named (.inl rfl) .nil
  | declared id name name' args args' =>
    cases second with
    | declared _ _ name'' _ args'' => exact .declared id name name'' args args''
    | named undeclared each =>
      obtain isNone | isNone := undeclared
      · cases isNone
      · cases (uniformB.eq_none_iff uniformC).mpr isNone
  | named undeclared each =>
    have undeclaredA := undeclared.elim id (uniformA.eq_none_iff uniformB).mpr
    subst undeclaredA
    cases second with
    | unboxed spelt =>
      cases each
      exact .unboxed spelt
    | declared => cases (uniformA.eq_none_iff uniformB).mp rfl
    | named _ each' => exact .named (.inl rfl) (forall₂_trans parts each each')
  | array elements =>
    cases second with
    | array elements' =>
      exact .array (parts _ (List.mem_singleton_self _) _ (List.mem_singleton_self _) _
        (List.mem_singleton_self _) elements elements')
  | tuple each =>
    cases second with
    | tuple each' => exact .tuple (forall₂_trans parts each each')
  | union sameLength into onto =>
    cases second with
    | union sameLength' into' onto' =>
      -- partners are composed through a member of `b`, once in each direction
      refine .union (sameLength.trans sameLength') (fun member mem => ?_) fun last mem => ?_
      · obtain ⟨other, isOther, isSame⟩ := into member mem
        obtain ⟨last, isLast, isSame'⟩ := into' other isOther
        exact ⟨last, isLast, parts member mem other isOther last isLast isSame isSame'⟩
      · obtain ⟨other, isOther, isSame'⟩ := onto' last mem
        obtain ⟨member, isMember, isSame⟩ := onto other isOther
        exact ⟨member, isMember, parts member isMember other isOther last mem isSame isSame'⟩

end Matches

/-- Equality is transitive on uniform types of which the first and the last spell boxed names alike, by
induction over the parts. -/
theorem equal_trans {bound : Bool} {a b c : StaticType} (uniformA : a.Uniform bound)
    (uniformB : b.Uniform bound) (uniformC : c.Uniform bound) (alike : SpellAlike a c)
    (first : equal a b = true) (second : equal b c = true) : equal a c = true := by
  -- by induction on `a`, whose parts are compared with parts of `b` and `c` only
  induction a using induction generalizing b c with
  | step a ih =>
    rw [equal_iff_matches] at first second ⊢
    refine first.trans uniformA uniformB uniformC alike ?_ second
    intro part isPart other isOther last isLast
    exact ih part isPart (uniformA.part isPart) (uniformB.part isOther) (uniformC.part isLast)
      (alike.parts isPart isLast)

/-! ## All nominal types with declarations -/

/-- A type with declarations throughout has no boxed names to spell. -/
theorem FullyBound.spellAlike {a : StaticType} (bound : a.FullyBound) (c : StaticType) :
    SpellAlike a c := by
  intro kind name name' _ _ within _
  cases bound none name [] within

/-- **Equality is transitive where all nominal types have declarations.** -/
theorem equal_trans_of_fullyBound (a b c : StaticType) (boundA : a.FullyBound)
    (boundB : b.FullyBound) (boundC : c.FullyBound) (first : equal a b = true)
    (second : equal b c = true) : equal a c = true := by
  have alike : SpellAlike a c := boundA.spellAlike c
  exact equal_trans boundA boundB boundC alike first second

end StaticType

namespace Sample

/-- `List<char>[] | Node`, where the names have the declarations 3 and 4. -/
def listsOrNode : StaticType :=
  .union [.array (.nominal (some 3) "List" [.primitive .char]), .nominal (some 4) "Node" []]

/-- The same in another order and under other names. -/
def knotOrRows : StaticType :=
  .union [.nominal (some 4) "Knot" [], .array (.nominal (some 3) "Row" [])]

/-- The same in the order of the first, under names of its own. -/
def rowsOrVertex : StaticType :=
  .union [.array (.nominal (some 3) "Row" []), .nominal (some 4) "Vertex" [.primitive .string]]

end Sample

namespace StaticType

/-- The same types in another order and under other names. -/
theorem equal_trans_of_fullyBound_sample :
    (Sample.listsOrNode.FullyBound ∧ Sample.knotOrRows.FullyBound ∧
      Sample.rowsOrVertex.FullyBound) ∧
    (equal Sample.listsOrNode Sample.knotOrRows = true ∧
      equal Sample.knotOrRows Sample.rowsOrVertex = true) ∧
    equal Sample.listsOrNode Sample.rowsOrVertex = true := by
  have boundA : Sample.listsOrNode.FullyBound := by simp [Sample.listsOrNode, FullyBound, Uniform]
  have boundB : Sample.knotOrRows.FullyBound := by simp [Sample.knotOrRows, FullyBound, Uniform]
  have boundC : Sample.rowsOrVertex.FullyBound := by
    simp [Sample.rowsOrVertex, FullyBound, Uniform]
  have first : equal Sample.listsOrNode Sample.knotOrRows = true := by with_unfolding_all rfl
  have second : equal Sample.knotOrRows Sample.rowsOrVertex = true := by with_unfolding_all rfl
  exact ⟨⟨boundA, boundB, boundC⟩, ⟨first, second⟩,
    equal_trans_of_fullyBound _ _ _ boundA boundB boundC first second⟩

/-! ## No nominal type with a declaration -/

/-- Whether a type refers to nominal types by name only, and to those without arguments by the names of a
given set. -/
def SpeltIn (names : Set String) : StaticType → Prop :=
  EachNominal fun id name args => id = none ∧ (args = [] → name ∈ names)

/-- A type that is spelt in given names refers to nominal types by name only. -/
theorem SpeltIn.nameOnly {names : Set String} {type : StaticType} (spelt : type.SpeltIn names) :
    type.NameOnly := by
  intro id name args within
  rw [(spelt id name args within).1, Option.isSome_none]

/-- Types that are spelt in names without two spellings of one boxed name spell boxed names alike. -/
theorem SpeltIn.spellAlike {left right : Set String} {a c : StaticType} (speltA : a.SpeltIn left)
    (speltC : c.SpeltIn right)
    (alike : ∀ kind : Primitive, ∀ name ∈ left, ∀ name' ∈ right, kind.BoxedAs name →
      kind.BoxedAs name' → name = name') : SpellAlike a c := by
  intro kind name name' spelt spelt' within within'
  exact alike kind name ((speltA none name [] within).2 rfl) name'
    ((speltC none name' [] within').2 rfl) spelt spelt'

/-- Nominal types without declaration and arguments are the same iff their names are. -/
theorem equal_bare_iff {name name' : String} :
    equal (.nominal none name []) (.nominal none name' []) = true ↔ name = name' := by
  simp [equal_nominal_iff]

/-- **Equality by name is transitive as long as boxed names are spelt alike.** Among types without
declarations the law holds for all outer types that spell their names as two given sets allow, iff the two
sets do not allow two spellings of the boxed name of one primitive. It matters for every primitive: its
short and its full boxed name are both the same as the primitive, and not the same as each other. -/
theorem equal_trans_by_name_iff (left right : Set String) :
    ((∀ a b c : StaticType, a.SpeltIn left → b.NameOnly → c.SpeltIn right →
        equal a b = true → equal b c = true → equal a c = true) ↔
      ∀ kind : Primitive, ∀ name ∈ left, ∀ name' ∈ right, kind.BoxedAs name → kind.BoxedAs name' →
        name = name') ∧
    ∀ kind : Primitive,
      equal (.nominal none kind.shortBoxedName []) (.primitive kind) = true ∧
      equal (.primitive kind) (.nominal none kind.boxedName []) = true ∧
      equal (.nominal none kind.shortBoxedName []) (.nominal none kind.boxedName []) = false := by
  refine ⟨⟨?_, ?_⟩, ?_⟩
  · -- with the primitive in the middle, the law makes two spellings of its boxed name equal
    intro law kind name inLeft name' inRight spelt spelt'
    have first : equal (.nominal none name []) (.primitive kind) = true :=
      equal_iff_matches.mpr (.unboxed spelt)
    have second : equal (.primitive kind) (.nominal none name' []) = true :=
      equal_iff_matches.mpr (.boxed spelt')
    have speltA : SpeltIn left (.nominal none name []) := by simpa [SpeltIn] using inLeft
    have nameOnlyB : NameOnly (.primitive kind) := by simp [NameOnly, Uniform]
    have speltC : SpeltIn right (.nominal none name' []) := by simpa [SpeltIn] using inRight
    exact equal_bare_iff.mp (law _ _ _ speltA nameOnlyB speltC first second)
  · intro alike a b c speltA nameOnlyB speltC first second
    exact equal_trans speltA.nameOnly nameOnlyB speltC.nameOnly (speltA.spellAlike speltC alike)
      first second
  · intro kind
    refine ⟨equal_iff_matches.mpr (.unboxed (.inr rfl)), equal_iff_matches.mpr (.boxed (.inl rfl)), ?_⟩
    rw [Bool.eq_false_iff, Ne, equal_bare_iff]
    exact (kind.boxedName_ne_shortBoxedName kind).symm

/-- The two spellings of a boxed name are not the same, though a primitive stands between them. -/
theorem boxed_spellings_apart :
    (NameOnly (.nominal none "Double" []) ∧ NameOnly (.primitive .double) ∧
      NameOnly (.nominal none "System.Double" [])) ∧
    (equal (.nominal none "Double" []) (.primitive .double) = true ∧
      equal (.primitive .double) (.nominal none "System.Double" []) = true) ∧
    equal (.nominal none "Double" []) (.nominal none "System.Double" []) = false := by
  refine ⟨?_, ⟨?_, ?_⟩, ?_⟩
  · simp [NameOnly, Uniform]
  · with_unfolding_all rfl
  · with_unfolding_all rfl
  · with_unfolding_all rfl

end StaticType

namespace Sample

/-- The names that are no short boxed names. -/
def fullNames : Set String := {name | ∀ kind : Primitive, kind.shortBoxedName ≠ name}

/-- `[System.Double, List<string>]`. -/
def pairInFull : StaticType :=
  .tuple [.nominal none "System.Double" [], .nominal none "List" [.primitive .string]]

/-- The same with a primitive for the boxed form, and a short boxed form for the primitive. -/
def pairInShort : StaticType :=
  .tuple [.primitive .double, .nominal none "List" [.nominal none "String" []]]

/-- The same without boxed forms. -/
def pairUnboxed : StaticType :=
  .tuple [.primitive .double, .nominal none "List" [.primitive .string]]

end Sample

namespace StaticType

/-- Boxed forms in full, in short and unboxed, the short ones in the middle only. -/
theorem equal_trans_by_name_sample :
    (Sample.pairInFull.SpeltIn Sample.fullNames ∧ Sample.pairInShort.NameOnly ∧
      Sample.pairUnboxed.SpeltIn Sample.fullNames) ∧
    (equal Sample.pairInFull Sample.pairInShort = true ∧
      equal Sample.pairInShort Sample.pairUnboxed = true) ∧
    equal Sample.pairInFull Sample.pairUnboxed = true := by
  have isFull : "System.Double" ∈ Sample.fullNames :=
    fun kind => (Primitive.double.boxedName_ne_shortBoxedName kind).symm
  have speltA : Sample.pairInFull.SpeltIn Sample.fullNames := by
    simpa [Sample.pairInFull, SpeltIn] using isFull
  have nameOnlyB : Sample.pairInShort.NameOnly := by simp [Sample.pairInShort, NameOnly, Uniform]
  have speltC : Sample.pairUnboxed.SpeltIn Sample.fullNames := by
    simp [Sample.pairUnboxed, SpeltIn]
  have alike : ∀ kind : Primitive, ∀ name ∈ Sample.fullNames, ∀ name' ∈ Sample.fullNames,
      kind.BoxedAs name → kind.BoxedAs name' → name = name' := by
    intro kind name isFull name' isFull' spelt spelt'
    rw [spelt.resolve_right (isFull kind).symm, spelt'.resolve_right (isFull' kind).symm]
  have first : equal Sample.pairInFull Sample.pairInShort = true := by with_unfolding_all rfl
  have second : equal Sample.pairInShort Sample.pairUnboxed = true := by with_unfolding_all rfl
  have law := (equal_trans_by_name_iff Sample.fullNames Sample.fullNames).1.mpr alike
  exact ⟨⟨speltA, nameOnlyB, speltC⟩, ⟨first, second⟩,
    law _ _ _ speltA nameOnlyB speltC first second⟩

end StaticType

end Overloading
