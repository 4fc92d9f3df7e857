import Overloading.Diagnostic
import Overloading.Tree
import Overloading.Types

/-! # Compilation units

The declarations of a compilation unit whose bodies the passes work on, the options of the passes, and
the events that they report. -/

namespace Overloading

/-! ## Functions, classes and modules

An overload signature is a function declaration without a body. -/

/-- Who may use a member in the target language. -/
inductive Visibility
  | publicAccess
  | protectedAccess
  | privateAccess
  | internalAccess
  /-- Derived types and the declaring assembly. -/
  | protectedInternal
  /-- Derived types inside the declaring assembly. -/
  | privateProtected
deriving DecidableEq

/-- The words for a visibility in the target language. -/
def Visibility.render : Visibility → String
  | .publicAccess => "public"
  | .protectedAccess => "protected"
  | .privateAccess => "private"
  | .internalAccess => "internal"
  | .protectedInternal => "protected internal"
  | .privateProtected => "private protected"

/-- A member without a written visibility is public. -/
instance : Inhabited Visibility := ⟨.publicAccess⟩

/-- What kind of callable a function declaration is. -/
inductive MemberKind
  | function
  | method
  | ctor
deriving DecidableEq

/-- A function, method or constructor. -/
structure FunctionDecl where
  /-- Its own declaration. -/
  handle : DeclHandle
  /-- Its name. -/
  name : String
  /-- What kind of callable it is. -/
  kind : MemberKind
  /-- The names of its type parameters. -/
  typeParams : List String := []
  /-- The declarations of its parameters. -/
  params : List DeclHandle := []
  /-- The annotated return type. -/
  returnType : Option DeclaredType := none
  /-- The body, which a signature lacks. -/
  body : Option (List Stmt) := none
  /-- The visibility as written. -/
  visibility : Option Visibility := none
  /-- Whether it is a static member. -/
  isStatic : Bool := false
  /-- Where it stands. -/
  span : Span := .dummy

/-- Whether a declaration has a body. -/
def FunctionDecl.hasBody (function : FunctionDecl) : Bool := function.body.isSome

/-- A class with its methods and constructors in order. -/
structure ClassDecl where
  /-- Its own declaration. -/
  handle : DeclHandle
  /-- Its name. -/
  name : String
  /-- The members, earliest first. -/
  members : List FunctionDecl := []
  /-- Where it stands. -/
  span : Span := .dummy

/-- A compilation unit: its free functions and its classes in order. -/
structure Module where
  /-- Its name. -/
  name : String
  /-- The free functions, earliest first. -/
  functions : List FunctionDecl := []
  /-- The classes, earliest first. -/
  classes : List ClassDecl := []

/-! ## Options -/

/-- The options of the passes. -/
structure Options where
  /-- The name of the function that tests the type of a parameter. -/
  intrinsicName : String := "isType"
  /-- The type names that stand for a character. -/
  charTypeNames : List String := ["char"]
  /-- Whether calls are resolved anew by the classes of their arguments. -/
  tieBreak : Bool := true
deriving DecidableEq

instance : Inhabited Options := ⟨{}⟩

/-- Whether a type name stands for a character. -/
def Options.isCharTypeName (options : Options) (name : String) : Bool :=
  options.charTypeNames.contains name

/-! ## Events

What the passes report about their own work, for a log. An event says what happened; its level and its
text are derived from it. -/

/-- How detailed an event is. -/
inductive Level
  | trace
  | debug
  | warn
deriving DecidableEq

/-- Something that a pass did. -/
inductive Event
  /-- Statements after one that always exits were dropped. -/
  | truncated (count : Nat)
  /-- An `if` statement was replaced by its then-branch. -/
  | tookThenBranch
  /-- An `if` statement was replaced by its else-branch. -/
  | tookElseBranch
  /-- A type test was answered. -/
  | answeredTest (intrinsic : String) (expected : StaticType) (param : DeclHandle) (answer : Bool)
  /-- A call was resolved to another signature. -/
  | brokeTie (resolved picked : DeclHandle) (score : Int32)
  /-- Calls of a module were resolved to other signatures. -/
  | resolvedModule (module : String) (changed : Nat)
  /-- Specialization of an overload group started. -/
  | startedGroup (group : String) (signatures : Nat)
  /-- An overload group was specialized for a signature. -/
  | specialized (group : String) (signature : DeclHandle)
  /-- An override is declared with a visibility that the base member does not allow. -/
  | mismatchedVisibility (member : String) (declared required : Visibility)
  /-- Specialization of a module ended. -/
  | finishedModule (module : String) (functions classes diagnostics : Nat)

namespace Event

/-- The level of an event. -/
def level : Event → Level
  | .truncated .. | .tookThenBranch | .tookElseBranch | .answeredTest .. | .specialized .. => .trace
  | .brokeTie .. | .resolvedModule .. | .startedGroup .. | .finishedModule .. => .debug
  | .mismatchedVisibility .. => .warn

/-- The text of an event. -/
def message : Event → String
  | .truncated count => "truncated " ++ toString count ++ " unreachable statement(s)"
  | .tookThenBranch => "if reduced to its then-branch"
  | .tookElseBranch => "if reduced to its else-branch"
  | .answeredTest intrinsic expected param answer =>
    intrinsic ++ "<" ++ expected.render ++ ">(" ++ param.render ++ ") folded to " ++
      (if answer then "true" else "false")
  | .brokeTie resolved picked score =>
    "tie-break: " ++ resolved.render ++ " -> " ++ picked.render ++
      " (score " ++ toString score.toInt ++ ")"
  | .resolvedModule module changed =>
    "module '" ++ module ++ "': re-resolved " ++ toString changed ++ " call site(s)"
  | .startedGroup group signatures =>
    "specializing '" ++ group ++ "' for " ++ toString signatures ++ " signature(s)"
  | .specialized group signature => "specialized " ++ group ++ " for " ++ signature.render
  | .mismatchedVisibility member declared required =>
    "override '" ++ member ++ "' declared " ++ declared.render ++
      " but base member requires " ++ required.render
  | .finishedModule module functions classes diagnostics =>
    "module '" ++ module ++ "': " ++ toString functions ++ " function(s), " ++
      toString classes ++ " class(es), " ++ toString diagnostics ++ " diagnostic(s)"

end Event

end Overloading
