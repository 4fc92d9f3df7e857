import Overloading.Diagnostic
import Overloading.Program
import Overloading.Types

/-! # Overrides

A member that overrides a member of a base class must have the visibility that the base member
requires. Where it is declared otherwise it gets the required visibility, and the mismatch is
reported. -/

namespace Overloading

/-- Whether a member overrides another one, and the visibility that it then must have, if known. -/
structure OverrideInfo where
  /-- Whether the member is an override. -/
  isOverride : Bool := false
  /-- The visibility of the overridden member. -/
  required : Option Visibility := none
deriving DecidableEq

/-- Tells from the class, name, kind and parameter types of a member what it overrides. -/
abbrev OverrideDetector :=
  Option String → String → MemberKind → List StaticType → OverrideInfo

/-- The detector for programs in which nothing is overridden. -/
def OverrideDetector.none : OverrideDetector := fun _ _ _ _ => {}

/-! ## Base members -/

/-- A member of a base class. -/
structure BaseMember where
  /-- Its name. -/
  name : String
  /-- What kind of callable it is. -/
  kind : MemberKind
  /-- The types of its parameters. -/
  params : List StaticType
  /-- Who may use it. -/
  visibility : Visibility

/-- Whether a member with the given name, kind and parameter types overrides a base member. -/
def BaseMember.isOverriddenBy (base : BaseMember) (name : String) (kind : MemberKind)
    (params : List StaticType) : Bool :=
  base.name = name && base.kind = kind && StaticType.equalEach base.params params

/-- The base members that each class inherits, in order. -/
structure BaseMemberTable where
  /-- The entries: a derived class and a member that it inherits. -/
  entries : List (String × BaseMember) := []

namespace BaseMemberTable

/-- Adds a member that a class inherits. -/
def insert (table : BaseMemberTable) (derived : String) (base : BaseMember) : BaseMemberTable :=
  ⟨table.entries ++ [(derived, base)]⟩

/-- The members that a class inherits. -/
def inherited (table : BaseMemberTable) (derived : String) : List BaseMember :=
  (table.entries.filter fun entry => entry.1 = derived).map Prod.snd

/-- A member overrides the first inherited member with its name, kind and parameter types. A function
outside a class overrides nothing. -/
def detect (table : BaseMemberTable) : OverrideDetector
  | some owner, name, kind, params =>
    match (table.inherited owner).find? fun base => base.isOverriddenBy name kind params with
    | some base => { isOverride := true, required := some base.visibility }
    | none => {}
  | none, _, _, _ => {}

end BaseMemberTable

/-! ## Visibility -/

/-- Whether a declared visibility satisfies a required one. Beside the same one, `protected` satisfies
`protected internal`. -/
def Visibility.satisfies (declared required : Visibility) : Bool :=
  declared = required || (declared = .protectedAccess && required = .protectedInternal)

/-- The report of an override with the wrong visibility. -/
def Diagnostic.visibilityMismatch (member : String) (declared required : Visibility) (span : Span) :
    Diagnostic :=
  (((((Diagnostic.ofCode .overrideVisibilityMismatch
    ("'" ++ member ++ "' overrides a member that requires '" ++ required.render ++
      "' visibility but is declared '" ++ declared.render ++ "'")).withSpan span).withHelp
    ("declare '" ++ member ++ "' as " ++ required.render)).withNote
    "member" member).withNote "required" required.render).withNote "declared" declared.render

namespace OverrideInfo

/-- The visibility that an override must have. -/
def required? (info : OverrideInfo) : Option Visibility :=
  if info.isOverride then info.required else none

/-- The visibility of a member: the required one, or else the declared one, or else public. -/
def visibility (info : OverrideInfo) (declared : Option Visibility) : Visibility :=
  info.required?.getD (declared.getD default)

/-- The visibility that is required but not satisfied by the declared one. -/
def mismatch? (info : OverrideInfo) (declared : Option Visibility) : Option Visibility :=
  info.required?.filter fun required => !(declared.getD default).satisfies required

/-- The report of a mismatch. -/
def diagnostic? (info : OverrideInfo) (member : String) (declared : Option Visibility)
    (span : Span) : Option Diagnostic :=
  (info.mismatch? declared).map fun required =>
    .visibilityMismatch member (declared.getD default) required span

/-- The event of a mismatch. -/
def events (info : OverrideInfo) (member : String) (declared : Option Visibility) : List Event :=
  (info.mismatch? declared).toList.map fun required =>
    .mismatchedVisibility member (declared.getD default) required

end OverrideInfo

end Overloading
