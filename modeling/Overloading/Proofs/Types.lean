import Mathlib.Logic.Relation
import Overloading.Types

/-! # Parts of a type

`StaticType.parts` lists the immediate parts of a static type and `DeclaredType.parts` those of an
annotation. `StaticType.induction` and `DeclaredType.induction` prove a property of every type from the
same property of its parts.

There are two ways for a type to stand inside another one at some depth. `StaticType.Within` goes through
all parts. `StaticType.ExposedIn` does not enter the arguments of a nominal type that has a declaration,
because the declaration says all there is to know about such a type. -/

namespace Overloading

/-! ## Annotations -/

namespace DeclaredType

/-- The immediate parts of an annotation, in order. -/
def parts : DeclaredType → List DeclaredType
  | .keyword _ | .stringLiteral _ | .numberLiteral _ => []
  | .reference _ args _ => args
  | .array element => [element]
  | .tuple elements => elements
  | .union members => members

/-- A part is smaller than the annotation. -/
theorem sizeOf_lt_of_mem_parts {part type : DeclaredType} (mem : part ∈ type.parts) :
    sizeOf part < sizeOf type := by
  cases type <;> simp [parts] at mem
  all_goals grind [→ List.sizeOf_lt_of_mem]

/-- What holds of an annotation whenever it holds of the parts, holds of all annotations. -/
theorem induction {motive : DeclaredType → Prop}
    (step : ∀ type : DeclaredType, (∀ part ∈ type.parts, motive part) → motive type)
    (type : DeclaredType) : motive type :=
  (measure (sizeOf : DeclaredType → Nat)).wf.induction type fun type smaller =>
    step type fun part mem => smaller part (sizeOf_lt_of_mem_parts mem)

end DeclaredType

/-! ## Static types -/

namespace StaticType

/-- The immediate parts of a type, in order. -/
def parts : StaticType → List StaticType
  | .primitive _ | .typeParam _ | .any | .unknown | .void | .null | .absent => []
  | .array element => [element]
  | .tuple elements => elements
  | .nominal _ _ args => args
  | .union members => members

/-- The immediate parts of a type, but those of a nominal type only if it has no declaration. -/
def exposedParts : StaticType → List StaticType
  | .nominal (some _) _ _ => []
  | type => type.parts

/-- The exposed parts are among the parts. -/
theorem mem_parts_of_mem_exposedParts {part type : StaticType} (mem : part ∈ type.exposedParts) :
    part ∈ type.parts := by
  unfold exposedParts at mem
  split at mem
  · cases mem
  · exact mem

/-- A part is smaller than the type. -/
theorem sizeOf_lt_of_mem_parts {part type : StaticType} (mem : part ∈ type.parts) :
    sizeOf part < sizeOf type := by
  cases type <;> simp [parts] at mem
  all_goals grind [→ List.sizeOf_lt_of_mem]

/-- What holds of a type whenever it holds of the parts, holds of all types. -/
theorem induction {motive : StaticType → Prop}
    (step : ∀ type : StaticType, (∀ part ∈ type.parts, motive part) → motive type)
    (type : StaticType) : motive type :=
  (measure (sizeOf : StaticType → Nat)).wf.induction type fun type smaller =>
    step type fun part mem => smaller part (sizeOf_lt_of_mem_parts mem)

/-! ## Containment -/

/-- Whether a type stands inside another one, at any depth; every type stands inside itself. -/
def Within : StaticType → StaticType → Prop :=
  Relation.ReflTransGen fun part whole => part ∈ whole.parts

/-- Whether a type stands inside another one, at any depth, but not in the arguments of a nominal type
that has a declaration. -/
def ExposedIn : StaticType → StaticType → Prop :=
  Relation.ReflTransGen fun part whole => part ∈ whole.exposedParts

/-- A type stands inside another one iff it is that type or stands inside one of its parts. -/
theorem within_iff {inner type : StaticType} :
    inner.Within type ↔ inner = type ∨ ∃ part ∈ type.parts, inner.Within part := by
  rw [Within, Relation.ReflTransGen.cases_tail_iff, eq_comm]
  simp only [and_comm]

/-- A type is exposed in another one iff it is that type or is exposed in one of the exposed parts. -/
theorem exposedIn_iff {inner type : StaticType} :
    inner.ExposedIn type ↔ inner = type ∨ ∃ part ∈ type.exposedParts, inner.ExposedIn part := by
  rw [ExposedIn, Relation.ReflTransGen.cases_tail_iff, eq_comm]
  simp only [and_comm]

/-- What is exposed in a type stands inside it. -/
theorem ExposedIn.within {inner type : StaticType} (exposed : inner.ExposedIn type) :
    inner.Within type :=
  Relation.ReflTransGen.mono (fun _ _ => mem_parts_of_mem_exposedParts) _ _ exposed

/-! ## Lowering -/

section Lowering

variable {typeParams : List String}

/-- The parts of a named type are its arguments. -/
theorem mem_of_mem_parts_ofReference {name : String} {decl : Option TypeId}
    {args : List StaticType} {part : StaticType}
    (mem : part ∈ (ofReference typeParams name decl args).parts) : part ∈ args := by
  unfold ofReference at mem
  grind [parts]

/-- The parts of a lowered type are lowered from parts of the annotation. -/
theorem exists_of_mem_parts_ofDeclared {declared : DeclaredType} {part : StaticType}
    (mem : part ∈ (ofDeclared typeParams declared).parts) :
    ∃ inner ∈ declared.parts, ofDeclared typeParams inner = part := by
  cases declared with
  | keyword word => cases word <;> cases mem
  | stringLiteral | numberLiteral => cases mem
  | array element => exact ⟨element, List.mem_singleton_self _, (List.mem_singleton.mp mem).symm⟩
  | tuple | union => simpa [ofDeclared, parts, DeclaredType.parts] using mem
  | reference name args decl =>
    -- a reference may become an array, a type parameter or a primitive, but its parts are lowered
    -- arguments in any case
    rw [ofDeclared] at mem
    simpa [DeclaredType.parts] using mem_of_mem_parts_ofReference mem

/-- No annotation is lowered to the absent type. -/
theorem ofDeclared_ne_absent (declared : DeclaredType) :
    ofDeclared typeParams declared ≠ .absent := by
  cases declared with
  | keyword word => cases word <;> simp [ofDeclared, ofKeyword]
  | reference name args decl =>
    rw [ofDeclared]
    unfold ofReference
    grind
  | _ => simp [ofDeclared]

/-- No annotation denotes a type with an absent type in it. -/
theorem not_absent_within_ofDeclared (declared : DeclaredType) :
    ¬ Within .absent (ofDeclared typeParams declared) := by
  induction declared using DeclaredType.induction with
  | step declared ih =>
    intro within
    obtain isAbsent | ⟨part, isPart, within⟩ := within_iff.mp within
    · exact ofDeclared_ne_absent declared isAbsent.symm
    · obtain ⟨inner, isInner, rfl⟩ := exists_of_mem_parts_ofDeclared isPart
      exact ih inner isInner within

end Lowering

end StaticType

end Overloading
