import Overloading.Fold
import Overloading.Proofs.Except
import Overloading.Proofs.Types

/-! # Equality of types, one level at a time

`StaticType.Matches` says what it takes for two types to be the same if it is known which of their parts
are. `StaticType.equal` is the relation that matches its own parts (`StaticType.equal_iff_matches`), so a
law of it needs only be proved for one level: `Matches.swap` gives symmetry (`StaticType.equal_comm`), and
`matches_self` with `Matches.exists_same` gives reflexivity wherever an absent type does not forbid it
(`StaticType.equal_self_unless_absent`). -/

namespace Overloading

/-- Whether a name spells the boxed type of a primitive, in full or without its namespace. -/
def Primitive.BoxedAs (kind : Primitive) (name : String) : Prop :=
  name = kind.boxedName ∨ name = kind.shortBoxedName

namespace StaticType

/-- Whether two types match, given which parts are the same. -/
inductive Matches (same : StaticType → StaticType → Prop) : StaticType → StaticType → Prop
  | primitive (kind : Primitive) : Matches same (.primitive kind) (.primitive kind)
  /-- A primitive matches its boxed forms. -/
  | boxed {kind : Primitive} {name : String} (spelt : kind.BoxedAs name) :
    Matches same (.primitive kind) (.nominal none name [])
  | unboxed {kind : Primitive} {name : String} (spelt : kind.BoxedAs name) :
    Matches same (.nominal none name []) (.primitive kind)
  /-- Nominal types with declarations match if these are the same. -/
  | declared (id : TypeId) (name name' : String) (args args' : List StaticType) :
    Matches same (.nominal (some id) name args) (.nominal (some id) name' args')
  /-- If one of two nominal types has no declaration, the names and the arguments count. -/
  | named {id id' : Option TypeId} {name : String} {args args' : List StaticType}
    (undeclared : id = none ∨ id' = none) (each : List.Forall₂ same args args') :
    Matches same (.nominal id name args) (.nominal id' name args')
  | array {element element' : StaticType} (elements : same element element') :
    Matches same (.array element) (.array element')
  | tuple {elements elements' : List StaticType} (each : List.Forall₂ same elements elements') :
    Matches same (.tuple elements) (.tuple elements')
  /-- Unions match if they are equally long and each member of one has a partner in the other. -/
  | union {members members' : List StaticType} (sameLength : members.length = members'.length)
    (into : ∀ member ∈ members, ∃ member' ∈ members', same member member')
    (onto : ∀ member' ∈ members', ∃ member ∈ members, same member member') :
    Matches same (.union members) (.union members')
  | typeParam (name : String) : Matches same (.typeParam name) (.typeParam name)
  | any : Matches same .any .any
  | unknown : Matches same .unknown .unknown
  | void : Matches same .void .void
  | null : Matches same .null .null

/-! ## Equality matches its own parts -/

/-- A nominal type is the boxed form of a primitive iff it has the boxed name, no declaration and no
arguments. -/
theorem isBoxedForm_iff {kind : Primitive} {id : Option TypeId} {name : String}
    {args : List StaticType} :
    isBoxedForm kind id name args = true ↔ id = none ∧ args = [] ∧ kind.BoxedAs name := by
  simp [isBoxedForm, Primitive.BoxedAs, and_assoc]

/-- Lists of types are compared position by position, and have to be of the same length. -/
theorem equalEach_iff {types types' : List StaticType} :
    equalEach types types' = true ↔
      List.Forall₂ (fun type type' => equal type type' = true) types types' := by
  simp [equalEach_eq_all_zip, List.forall₂_iff_zip]

/-- Nominal types are the same iff both have the same declaration, or one of them has none and they
agree in name and arguments. -/
theorem equal_nominal_iff {id id' : Option TypeId} {name name' : String}
    {args args' : List StaticType} :
    equal (.nominal id name args) (.nominal id' name' args') = true ↔
      (∃ decl, id = some decl ∧ id' = some decl) ∨
        (id = none ∨ id' = none) ∧ name = name' ∧
          List.Forall₂ (fun type type' => equal type type' = true) args args' := by
  cases id with
  | none => simp [equal, equalEach_iff]
  | some decl =>
    cases id' with
    | none => simp [equal, equalEach_iff]
    | some decl' => simp [equal, eq_comm (a := decl)]

/-- Unions are the same iff they have equally many members and each member of one is the same as some
member of the other. -/
theorem equal_union_iff {members members' : List StaticType} :
    equal (.union members) (.union members') = true ↔ members.length = members'.length ∧
      (∀ member ∈ members, ∃ member' ∈ members', equal member member' = true) ∧
        ∀ member' ∈ members', ∃ member ∈ members, equal member member' = true := by
  simp [equal, eachIn_eq_all, anyEqual_eq_any, and_assoc]

/-- Types that are the same match in their parts. -/
theorem matches_of_equal {a b : StaticType} (same : equal a b = true) :
    Matches (fun a b => equal a b = true) a b := by
  -- two types of different shape are never equal, but for a primitive and a nominal type
  cases a with
  | primitive kind =>
    cases b with
    | primitive kind' =>
      obtain rfl : kind = kind' := by simpa [equal, denotesPrimitive] using same
      exact .primitive kind
    | nominal id name args =>
      obtain ⟨rfl, rfl, spelt⟩ :=
        isBoxedForm_iff.mp (by simpa [equal, denotesPrimitive] using same)
      exact .boxed spelt
    | _ => simp [equal, denotesPrimitive] at same
  | nominal id name args =>
    cases b with
    | primitive kind =>
      obtain ⟨rfl, rfl, spelt⟩ := isBoxedForm_iff.mp (by simpa [equal] using same)
      exact .unboxed spelt
    | nominal id' name' args' =>
      obtain ⟨decl, rfl, rfl⟩ | ⟨undeclared, rfl, each⟩ := equal_nominal_iff.mp same
      · exact .declared decl name name' args args'
      · exact .named undeclared each
    | _ => simp [equal] at same
  | array element =>
    cases b with
    | array element' => exact .array (by simpa [equal] using same)
    | _ => simp [equal] at same
  | tuple elements =>
    cases b with
    | tuple elements' => exact .tuple (equalEach_iff.mp (by simpa [equal] using same))
    | _ => simp [equal] at same
  | union members =>
    cases b with
    | union members' =>
      obtain ⟨sameLength, into, onto⟩ := equal_union_iff.mp same
      exact .union sameLength into onto
    | _ => simp [equal] at same
  | typeParam name =>
    cases b with
    | typeParam name' =>
      obtain rfl : name = name' := by simpa [equal] using same
      exact .typeParam name
    | _ => simp [equal] at same
  | any | unknown | void | null | absent => cases b <;> simp [equal] at same <;> constructor

/-- Types that match in their parts are the same. -/
theorem equal_of_matches {a b : StaticType}
    (matched : Matches (fun a b => equal a b = true) a b) : equal a b = true := by
  cases matched with
  | boxed spelt | unboxed spelt =>
    simpa [equal, denotesPrimitive] using isBoxedForm_iff.mpr ⟨rfl, rfl, spelt⟩
  | named undeclared each => exact equal_nominal_iff.mpr (.inr ⟨undeclared, rfl, each⟩)
  | array elements => simpa [equal] using elements
  | tuple each => simpa [equal] using equalEach_iff.mpr each
  | union sameLength into onto => exact equal_union_iff.mpr ⟨sameLength, into, onto⟩
  | primitive | declared | typeParam | any | unknown | void | null =>
    simp [equal, denotesPrimitive]

/-- Two types are the same iff they match and equality tells which parts are the same. -/
theorem equal_iff_matches {a b : StaticType} :
    equal a b = true ↔ Matches (fun a b => equal a b = true) a b :=
  ⟨matches_of_equal, equal_of_matches⟩

/-! ## Symmetry -/

section Matches

variable {same : StaticType → StaticType → Prop} {a b : StaticType}

/-- A relation that is symmetric on the types of a list is so position by position. -/
theorem forall₂_swap {types types' : List StaticType}
    (swap : ∀ type ∈ types, ∀ other, same type other → same other type)
    (each : List.Forall₂ same types types') : List.Forall₂ same types' types := by
  have swappable := (List.forall₂_and_left types types').mpr ⟨swap, each⟩
  exact (swappable.imp fun type other both => both.1 other both.2).flip

/-- Matching is symmetric if the relation between the parts is. -/
theorem Matches.swap (swap : ∀ part ∈ a.parts, ∀ other, same part other → same other part)
    (matched : Matches same a b) : Matches same b a := by
  cases matched with
  | primitive kind => exact .primitive kind
  | boxed spelt => exact .unboxed spelt
  | unboxed spelt => exact .boxed spelt
  | declared id name name' args args' => exact .declared id name' name args' args
  | named undeclared each => exact .named undeclared.symm (forall₂_swap swap each)
  | array elements => exact .array (swap _ (List.mem_singleton_self _) _ elements)
  | tuple each => exact .tuple (forall₂_swap swap each)
  | union sameLength into onto =>
    -- the two inclusions change places
    refine .union sameLength.symm (fun member' mem' => ?_) fun member mem => ?_
    · obtain ⟨member, mem, isSame⟩ := onto member' mem'
      exact ⟨member, mem, swap member mem member' isSame⟩
    · obtain ⟨member', mem', isSame⟩ := into member mem
      exact ⟨member', mem', swap member mem member' isSame⟩
  | typeParam name => exact .typeParam name
  | any => exact .any
  | unknown => exact .unknown
  | void => exact .void
  | null => exact .null

end Matches

/-- Equality is symmetric, by induction over the parts of the first type. -/
theorem equal_symm {a b : StaticType} (same : equal a b = true) : equal b a = true := by
  induction a using induction generalizing b with
  | step a ih =>
    rw [equal_iff_matches] at same ⊢
    exact same.swap fun part isPart other => ih part isPart

/-- **Equality of types is symmetric.** -/
theorem equal_comm (a b : StaticType) : equal a b = equal b a := by
  rw [Bool.eq_iff_iff]
  exact ⟨equal_symm, equal_symm⟩

/-! ## Reflexivity -/

section Matches

variable {same : StaticType → StaticType → Prop} {a b : StaticType}

/-- What matches something is not absent. -/
theorem Matches.ne_absent (matched : Matches same a b) : a ≠ .absent := by
  rintro rfl
  cases matched

/-- Every exposed part of a type that matches another has a partner there. -/
theorem Matches.exists_same {part : StaticType} (matched : Matches same a b)
    (isExposed : part ∈ a.exposedParts) : ∃ other, same part other := by
  -- The exposed parts are those that every way to match has to compare.
  cases matched with
  | @named id _ _ _ _ _ each =>
    cases id with
    | none => exact exists_forall₂_iff.mp ⟨_, each⟩ part isExposed
    | some decl => cases isExposed
  | array elements =>
    obtain rfl := List.mem_singleton.mp isExposed
    exact ⟨_, elements⟩
  | tuple each => exact exists_forall₂_iff.mp ⟨_, each⟩ part isExposed
  | union _ into _ =>
    obtain ⟨member', -, isSame⟩ := into part isExposed
    exact ⟨member', isSame⟩
  | _ => cases isExposed

/-- A type that is not absent matches itself if its exposed parts are the same as themselves. -/
theorem matches_self (present : a ≠ .absent) (exposed : ∀ part ∈ a.exposedParts, same part part) :
    Matches same a a := by
  cases a with
  | primitive kind => exact .primitive kind
  | array element => exact .array (exposed element (List.mem_singleton_self _))
  | tuple elements => exact .tuple (List.forall₂_same.mpr exposed)
  | nominal id name args =>
    -- the arguments of a declared type need not match themselves
    cases id with
    | none => exact .named (.inl rfl) (List.forall₂_same.mpr exposed)
    | some id => exact .declared id name name args args
  | union members =>
    exact .union rfl (fun member mem => ⟨member, mem, exposed member mem⟩)
      fun member mem => ⟨member, mem, exposed member mem⟩
  | typeParam name => exact .typeParam name
  | any => exact .any
  | unknown => exact .unknown
  | void => exact .void
  | null => exact .null
  | absent => exact absurd rfl present

end Matches

/-- A type with an exposed absent type is not the same as any type. -/
theorem not_equal_of_absent_exposed {a b : StaticType} (exposed : ExposedIn .absent a) :
    ¬ equal a b = true := by
  induction a using induction generalizing b with
  | step a ih =>
    intro same
    have matched := equal_iff_matches.mp same
    obtain isAbsent | ⟨part, isPart, exposed⟩ := exposedIn_iff.mp exposed
    · exact matched.ne_absent isAbsent.symm
    · obtain ⟨other, isSame⟩ := matched.exists_same isPart
      exact ih part (mem_parts_of_mem_exposedParts isPart) exposed isSame

/-- A type is the same as itself iff no absent type is exposed in it. -/
theorem equal_self_iff {a : StaticType} : equal a a = true ↔ ¬ ExposedIn .absent a := by
  refine ⟨fun same exposed => not_equal_of_absent_exposed exposed same, fun hidden => ?_⟩
  induction a using induction with
  | step a ih =>
    rw [exposedIn_iff, not_or] at hidden
    refine equal_iff_matches.mpr (matches_self (Ne.symm hidden.1) fun part isPart => ?_)
    exact ih part (mem_parts_of_mem_exposedParts isPart)
      fun exposed => hidden.2 ⟨part, isPart, exposed⟩

/-- The type of an annotation is the same as itself, since no annotation denotes the absent type. -/
theorem equal_ofDeclared_self (typeParams : List String) (declared : DeclaredType) :
    equal (ofDeclared typeParams declared) (ofDeclared typeParams declared) = true :=
  equal_self_iff.mpr fun exposed => not_absent_within_ofDeclared declared exposed.within

/-- **Equality of types is reflexive unless an absent type forbids it.** A type is the same as itself iff
no absent type stands in it outside the arguments of nominal types with a declaration, and if one does, it
is not the same as any type. Lowered annotations are free of absent types, so a type test is folded to
`true` if its parameter has the type that the test asks for. -/
theorem equal_self_unless_absent :
    (∀ a : StaticType, equal a a = true ↔ ¬ ExposedIn .absent a) ∧
    (∀ a b : StaticType, ExposedIn .absent a → equal a b = false ∧ equal b a = false) ∧
    (∀ (typeParams : List String) (declared : DeclaredType),
      equal (ofDeclared typeParams declared) (ofDeclared typeParams declared) = true) ∧
    ∀ (context : FoldContext) (expr : Expr) (test : TypeTest),
      expr.typeTest? context.intrinsicName = some test →
      context.types.find? test.param = some (ofDeclared context.typeParams test.target) →
      expr.fold context = .bool true := by
  refine ⟨fun _ => equal_self_iff, fun a b exposed => ⟨?_, ?_⟩, equal_ofDeclared_self, ?_⟩
  · exact Bool.eq_false_iff.mpr (not_equal_of_absent_exposed exposed)
  · exact Bool.eq_false_iff.mpr fun same => not_equal_of_absent_exposed exposed (equal_symm same)
  · intro context expr test isTest known
    have answered : context.answer? expr = some true := by
      rw [FoldContext.answer?_of_typeTest? isTest, known, Option.map_some, equal_ofDeclared_self]
    exact Expr.fold_of_answer? answered

end StaticType

/-- `Array<T> | never`. -/
def Sample.itemsOrNothing : DeclaredType :=
  .union [.reference "Array" [.reference "T" [] none] none, .keyword .never]

/-- A context where `T` is a type parameter and `x` is an array of it, or nothing. -/
def Sample.itemsContext : FoldContext :=
  ⟨"isType", ["T"], .ofList [(⟨2⟩, .union [.array (.typeParam "T"), .void])]⟩

namespace StaticType

/-- An absent type in a tuple is exposed, one in the arguments of a declared type is not, and a test for
a declared type is answered with true. -/
theorem equal_self_unless_absent_sample :
    (ExposedIn .absent (.tuple [.any, .nominal none "Box" [.absent]]) ∧
      equal (.tuple [.any, .nominal none "Box" [.absent]])
        (.tuple [.any, .nominal none "Box" [.absent]]) = false) ∧
    equal (.nominal (some 3) "Box" [.absent]) (.nominal (some 3) "Box" [.absent]) = true ∧
    Expr.fold Sample.itemsContext (.call (.ident "isType" none) [Sample.itemsOrNothing]
      [.ident "x" (some ⟨2⟩)] none) = .bool true := by
  obtain ⟨reflexive, unequal, -, folds⟩ := equal_self_unless_absent
  have inBox : ExposedIn .absent (.nominal none "Box" [.absent]) :=
    .single (List.mem_singleton_self _)
  have exposed : ExposedIn .absent (.tuple [.any, .nominal none "Box" [.absent]]) :=
    inBox.tail (List.mem_cons_of_mem _ (List.mem_singleton_self _))
  have hidden : ¬ ExposedIn .absent (.nominal (some 3) "Box" [.absent]) := by
    rw [exposedIn_iff]
    simp [exposedParts]
  refine ⟨⟨exposed, (unequal _ _ exposed).1⟩, (reflexive _).mpr hidden, ?_⟩
  exact folds _ _ ⟨Sample.itemsOrNothing, ⟨2⟩⟩ (by with_unfolding_all rfl) (by with_unfolding_all rfl)

end StaticType

end Overloading
