import Overloading.Diagnostic
import Overloading.Fold.ParamTypes
import Overloading.Program
import Overloading.Registry
import Overloading.Types

/-! # Overload groups and their signatures

The declarations of a scope are sorted into overload groups, and each signature of a group is bound to the
implementation that serves it. -/

namespace Overloading

/-! ## Failures of specialization -/

/-- Why overloads cannot be specialized. -/
inductive SpecializeError
  /-- No declaration of the group has a body. -/
  | noImplementation (group : String)
  /-- More than one declaration of the group has a body. -/
  | multipleImplementations (group : String) (count : Nat)
  /-- A signature has more parameters than the implementation. -/
  | signatureTooLong (group : String) (signature : DeclHandle) (signatureParams : Nat)
      (implementationParams : Nat)
  /-- A call of the type test is left in the folded body. -/
  | residualIntrinsic (group : String) (signature : DeclHandle)
  /-- The folded body refers to a parameter that the signature does not declare. -/
  | missingParameterReference (group : String) (signature : DeclHandle) (param : String)
  /-- A declaration is not registered. -/
  | unknownDeclaration (handle : DeclHandle)
deriving DecidableEq

namespace SpecializeError

/-- The text of a failure. -/
def message : SpecializeError → String
  | .noImplementation group => "overload group '" ++ group ++ "' has no implementation"
  | .multipleImplementations group count =>
    "overload group '" ++ group ++ "' has " ++ toString count ++
      " implementations, expected exactly one"
  | .signatureTooLong group signature signatureParams implementationParams =>
    "signature " ++ signature.render ++ " of '" ++ group ++ "' declares " ++
      toString signatureParams ++ " parameters but the implementation only has " ++
      toString implementationParams
  | .residualIntrinsic group signature =>
    "type-equality intrinsic survived specialization of '" ++ group ++ "' for signature " ++
      signature.render
  | .missingParameterReference group signature param =>
    "specialization of '" ++ group ++ "' for signature " ++ signature.render ++
      " still references parameter '" ++ param ++ "' which that signature does not declare"
  | .unknownDeclaration handle => "declaration " ++ handle.render ++ " is not registered"

/-- The diagnostic that reports a failure. -/
def toDiagnostic (error : SpecializeError) : Diagnostic :=
  .ofCode .internalError error.message

end SpecializeError

/-! ## Overload groups

The declarations of one overloaded function: one implementation, which has a body, and the signatures
that it serves. `collectGroups` sorts the declarations of a scope into groups. -/

/-- An implementation with its signatures. -/
structure OverloadGroup where
  /-- The class that it belongs to, if any. -/
  owner : Option String
  /-- The name of the function. -/
  name : String
  /-- The declaration with the body. -/
  implementation : FunctionDecl
  /-- The signatures, earliest first. -/
  signatures : List FunctionDecl

/-- The name of a function with that of its class. -/
def qualifiedName (owner : Option String) (name : String) : String :=
  match owner with
  | some owner => owner ++ "." ++ name
  | none => name

namespace OverloadGroup

/-- The name of the group in messages. -/
def displayName (group : OverloadGroup) : String := qualifiedName group.owner group.name

/-- What kind of callable the group is. -/
def kind (group : OverloadGroup) : MemberKind := group.implementation.kind

/-- The group of the given declarations. Exactly one of them must have a body; the others are the
signatures, and without others the implementation is its own signature. -/
def ofDeclarations (owner : Option String) (name : String) (decls : List FunctionDecl) :
    Except SpecializeError OverloadGroup :=
  match decls.filter FunctionDecl.hasBody with
  | [] => .error (.noImplementation (qualifiedName owner name))
  | [implementation] =>
    let signatures := decls.filter fun decl => !decl.hasBody
    .ok { owner, name, implementation
          signatures := if signatures.isEmpty then [implementation] else signatures }
  | bodies => .error (.multipleImplementations (qualifiedName owner name) bodies.length)

end OverloadGroup

/-! ### The groups of a scope -/

/-- What the declarations of a group have in common. -/
structure GroupKey where
  /-- The name. -/
  name : String
  /-- Whether they are static members. -/
  isStatic : Bool
  /-- What kind of callable they are. -/
  kind : MemberKind
deriving DecidableEq

/-- The key of a declaration. Members of a class are told apart by name, by whether they are static and
by kind, free functions by name only. -/
def FunctionDecl.groupKey (owner : Option String) (decl : FunctionDecl) : GroupKey :=
  match owner with
  | some _ => ⟨decl.name, decl.isStatic, decl.kind⟩
  | none => ⟨decl.name, false, .function⟩

/-- The declarations of a scope, sorted as far as they have been read: the groups found so far, and where
the group of each key stands among them. -/
structure GroupTable where
  /-- The name and the declarations of each group, in order of first appearance. -/
  order : Array (String × List FunctionDecl) := #[]
  /-- The place of the group of each key. -/
  slots : List (GroupKey × Nat) := []
  /-- Each place is taken. -/
  slot_lt : ∀ {key slot}, slots.lookup key = some slot → slot < order.size

namespace GroupTable

/-- The table of a scope of which nothing has been read. -/
def empty : GroupTable where
  slot_lt isPlace := by cases isPlace

/-- Puts a declaration after the others of its key; a key that is new starts a group, which comes
last. -/
def add (owner : Option String) (table : GroupTable) (decl : FunctionDecl) : GroupTable :=
  match found : table.slots.lookup (decl.groupKey owner) with
  | some slot =>
    have isSlot := table.slot_lt found
    let group := table.order[slot]
    { order := table.order.set slot (group.1, group.2 ++ [decl])
      slots := table.slots
      slot_lt := fun isPlace => by
        rw [Array.size_set]
        exact table.slot_lt isPlace }
  | none =>
    { order := table.order.push (decl.name, [decl])
      slots := (decl.groupKey owner, table.order.size) :: table.slots
      slot_lt := fun isPlace => by
        rw [Array.size_push]
        rw [List.lookup_cons] at isPlace
        split at isPlace
        · cases isPlace
          exact Nat.lt_succ_self _
        · exact Nat.lt_succ_of_lt (table.slot_lt isPlace) }

/-- The table of a scope. -/
def ofScope (owner : Option String) (decls : List FunctionDecl) : GroupTable :=
  decls.foldl (add owner) empty

end GroupTable

/-- The groups of a scope in order of first appearance; fails if one of them is ill formed. -/
def collectGroups (owner : Option String) (decls : List FunctionDecl) :
    Except SpecializeError (List OverloadGroup) :=
  (GroupTable.ofScope owner decls).order.toList.mapM fun group =>
    OverloadGroup.ofDeclarations owner group.1 group.2

/-! ## Binding a signature to its implementation

The parameters of a signature are matched with those of the implementation by position. The
implementation sees its own parameters with the types that the signature declares; parameters that the
signature lacks are absent. -/

/-- A parameter of an emitted method. -/
structure MethodParam where
  /-- The parameter of the implementation. -/
  handle : DeclHandle
  /-- Its name in the implementation. -/
  name : String
  /-- The type that the signature declares. -/
  type : StaticType
  /-- Whether the signature declares it optional. -/
  isOptional : Bool
  /-- Whether the signature declares it a rest parameter. -/
  isRest : Bool

/-- A signature bound to its implementation. -/
structure SignatureBinding where
  /-- The types of the parameters of the implementation. -/
  types : ParamTypes
  /-- The parameters of the method. -/
  parameters : List MethodParam
  /-- The parameters of the implementation that the signature lacks. -/
  missing : List DeclHandle

/-- The facts of a declaration that must be registered. -/
def Registry.requireFacts (registry : Registry) (handle : DeclHandle) :
    Except SpecializeError DeclFacts :=
  match registry.facts? handle with
  | some facts => .ok facts
  | none => .error (.unknownDeclaration handle)

/-- The type that an annotation denotes, where no annotation means any type. -/
def StaticType.ofDeclared? (typeParams : List String) (type : Option DeclaredType) : StaticType :=
  (type.map (StaticType.ofDeclared typeParams)).getD .any

/-- Matches a parameter of a signature with one of the implementation. -/
def MethodParam.bind (registry : Registry) (typeParams : List String)
    (params : DeclHandle × DeclHandle) : Except SpecializeError MethodParam := do
  let declared ← registry.requireFacts params.1
  let implemented ← registry.requireFacts params.2
  return {
    handle := params.2
    name := implemented.name
    type := .ofDeclared? typeParams declared.declaredType
    isOptional := declared.isOptional
    isRest := declared.isRest }

/-- The types of the given parameters, and the absent type for the missing ones. -/
def ParamTypes.ofParams (parameters : List MethodParam) (missing : List DeclHandle) : ParamTypes :=
  .ofList (parameters.map (fun param => (param.handle, param.type)) ++
    missing.map fun handle => (handle, .absent))

/-- Binds a signature to the implementation of its group. -/
def OverloadGroup.bind (group : OverloadGroup) (registry : Registry) (signature : FunctionDecl) :
    Except SpecializeError SignatureBinding := do
  let params := group.implementation.params
  if params.length < signature.params.length then
    .error (.signatureTooLong group.displayName signature.handle signature.params.length
      params.length)
  else
    let parameters ← (signature.params.zip params).mapM
      (MethodParam.bind registry signature.typeParams)
    let missing := params.drop signature.params.length
    return { types := .ofParams parameters missing, parameters, missing }

end Overloading
