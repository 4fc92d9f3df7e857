import Overloading.Fold
import Overloading.Fold.Events
import Overloading.Override
import Overloading.Program
import Overloading.Registry
import Overloading.Specialize.Group
import Overloading.Tree

/-! # Specializing a module

All overload groups of a module are specialized in order: those of the free functions, then those of
each class. The first failure ends the work. -/

namespace Overloading

/-! ## Completeness of a folded body

After folding, a body must not call the type test any more, and must not refer to a parameter that its
signature does not declare. -/

/-- The declaration that an identifier refers to. -/
def Expr.boundDecl? : Expr → Option DeclHandle
  | .ident _ decl => decl
  | _ => none

/-- Whether a body calls the intrinsic of a given name. -/
def Stmt.callsIntrinsic (intrinsicName : String) (body : List Stmt) : Bool :=
  (Stmt.subexprsAll body).any (Expr.isIntrinsicCall intrinsicName)

/-- The first of the given declarations that a body refers to, in source order. -/
def Stmt.firstReference? (decls : List DeclHandle) (body : List Stmt) : Option DeclHandle :=
  ((Stmt.subexprsAll body).filterMap Expr.boundDecl?).find? fun decl => decls.contains decl

/-- Fails if a body calls the intrinsic of a given name. -/
def checkResidual (intrinsicName : String) (group : String) (signature : DeclHandle)
    (body : List Stmt) : Except SpecializeError Unit :=
  if Stmt.callsIntrinsic intrinsicName body then .error (.residualIntrinsic group signature)
  else .ok ()

/-- Fails if a body refers to one of the missing parameters. -/
def checkMissing (registry : Registry) (missing : List DeclHandle) (group : String)
    (signature : DeclHandle) (body : List Stmt) : Except SpecializeError Unit :=
  match Stmt.firstReference? missing body with
  | some param => .error (.missingParameterReference group signature (registry.nameOf param))
  | none => .ok ()

/-! ## Specializing a group

For each signature of a group one method is emitted: the body of the implementation, folded for the
types that the signature declares. `Specializer.compile` does so for all signatures in order, and stops
at the first that fails; the mismatches of visibility found up to there are reported in any case. -/

/-- A method emitted for a signature. -/
structure SpecializedMethod where
  /-- The name of the group. -/
  name : String
  /-- The signature that it is emitted for. -/
  signature : DeclHandle
  /-- What kind of callable it is. -/
  kind : MemberKind
  /-- The parameters. -/
  parameters : List MethodParam
  /-- The return type that the signature declares. -/
  returnType : StaticType
  /-- The folded body. -/
  body : List Stmt
  /-- Who may use it. -/
  visibility : Visibility
  /-- Whether it overrides a member of a base class. -/
  isOverride : Bool
  /-- Whether it is a static member. -/
  isStatic : Bool

/-- A method together with the mismatch that was found, if any. -/
structure Specialization where
  /-- The method. -/
  method : SpecializedMethod
  /-- The report of a mismatched visibility. -/
  mismatch : Option Diagnostic

/-- Work that may fail, and that reports diagnostics on the way. A failure does not take back what has been
reported before. -/
abbrev Reporting := ExceptT SpecializeError (StateM Diagnostics)

/-- Reports a diagnostic, if there is one. -/
def report : Option Diagnostic → Reporting Unit
  | some diagnostic => modify fun diagnostics => diagnostics.push diagnostic
  | none => pure ()

/-- What specialization depends on. -/
structure Specializer where
  /-- The declarations. -/
  registry : Registry
  /-- Tells what a member overrides. -/
  detector : OverrideDetector
  /-- The options. -/
  options : Options

namespace Specializer

variable (specializer : Specializer)

/-- What is known about the body of an implementation under a binding. -/
def foldContext (group : OverloadGroup) (binding : SignatureBinding) : FoldContext where
  intrinsicName := specializer.options.intrinsicName
  typeParams := group.implementation.typeParams
  types := binding.types

/-- The folded body of a group under a binding; nothing where there is no body. -/
def foldBody (group : OverloadGroup) (binding : SignatureBinding) : List Stmt :=
  Stmt.foldAll (specializer.foldContext group binding) (group.implementation.body.getD [])

/-- What the method of a binding overrides. -/
def overrideInfo (group : OverloadGroup) (binding : SignatureBinding) : OverrideInfo :=
  specializer.detector group.owner group.name group.kind
    (binding.parameters.map fun param => param.type)

/-- The visibility declared for a signature, or else for the implementation. -/
def declaredVisibility (group : OverloadGroup) (signature : FunctionDecl) : Option Visibility :=
  signature.visibility <|> group.implementation.visibility

/-- The method of a signature that is bound and whose folded body is complete. -/
def emit (group : OverloadGroup) (signature : FunctionDecl) (binding : SignatureBinding) :
    Specialization :=
  let info := specializer.overrideInfo group binding
  let declared := declaredVisibility group signature
  { method :=
      { name := group.name
        signature := signature.handle
        kind := group.kind
        parameters := binding.parameters
        returnType := .ofDeclared? signature.typeParams signature.returnType
        body := specializer.foldBody group binding
        visibility := info.visibility declared
        isOverride := info.isOverride
        isStatic := group.implementation.isStatic }
    mismatch := info.diagnostic? group.displayName declared signature.span }

/-- Specializes a group for one signature. -/
def specialize (group : OverloadGroup) (signature : FunctionDecl) :
    Except SpecializeError Specialization := do
  let binding ← group.bind specializer.registry signature
  let body := specializer.foldBody group binding
  checkResidual specializer.options.intrinsicName group.displayName signature.handle body
  checkMissing specializer.registry binding.missing group.displayName signature.handle body
  return specializer.emit group signature binding

/-- The method of a group for one signature; a mismatch is reported. -/
def compileSignature (group : OverloadGroup) (signature : FunctionDecl) :
    Reporting SpecializedMethod := do
  let specialization ← specializer.specialize group signature
  report specialization.mismatch
  return specialization.method

/-- The methods of a group for all its signatures in order. -/
def compile (group : OverloadGroup) : Reporting (List SpecializedMethod) :=
  group.signatures.mapM (specializer.compileSignature group)

/-! ### Events -/

/-- The events of specializing a group for one signature. -/
def specializeEvents (group : OverloadGroup) (signature : FunctionDecl) : List Event :=
  match group.bind specializer.registry signature with
  | .error _ => []
  | .ok binding =>
    Stmt.foldEventsAll (specializer.foldContext group binding)
        (group.implementation.body.getD []) ++
      match specializer.specialize group signature with
      | .error _ => []
      | .ok _ =>
        (specializer.overrideInfo group binding).events group.displayName
            (declaredVisibility group signature) ++
          [.specialized group.displayName signature.handle]

/-- The events of specializing a group for signatures in order, up to the first that fails. -/
def signatureEvents (group : OverloadGroup) : List FunctionDecl → List Event
  | [] => []
  | signature :: signatures =>
    specializer.specializeEvents group signature ++
      match specializer.specialize group signature with
      | .ok _ => signatureEvents group signatures
      | .error _ => []

/-- The events of specializing a group. -/
def compileEvents (group : OverloadGroup) : List Event :=
  .startedGroup group.displayName group.signatures.length ::
    specializer.signatureEvents group group.signatures

end Specializer

/-! ## Specializing all scopes -/

/-- The methods of a class. -/
structure SpecializedClass where
  /-- The name of the class. -/
  name : String
  /-- The methods in order. -/
  members : List SpecializedMethod

/-- The methods of a module, with the diagnostics about it. -/
structure SpecializedModule where
  /-- The name of the module. -/
  name : String
  /-- The methods of the free functions in order. -/
  functions : List SpecializedMethod
  /-- The classes in order. -/
  classes : List SpecializedClass
  /-- The mismatches found, in the order of the methods. -/
  diagnostics : Diagnostics

namespace Specializer

variable (specializer : Specializer)

/-- The methods of the groups of a scope in order. -/
def compileScope (owner : Option String) (decls : List FunctionDecl) :
    Reporting (List SpecializedMethod) := do
  let groups ← collectGroups owner decls
  let methods ← groups.mapM specializer.compile
  return methods.flatten

/-- The methods of a class. -/
def compileClass (declared : ClassDecl) : Reporting SpecializedClass := do
  let members ← specializer.compileScope (some declared.name) declared.members
  return { name := declared.name, members }

/-- The methods of a module: those of its free functions, and those of its classes. -/
def compileModule (module : Module) : Reporting (List SpecializedMethod × List SpecializedClass) := do
  let functions ← specializer.compileScope none module.functions
  let classes ← module.classes.mapM specializer.compileClass
  return (functions, classes)

/-- Specializes a module, for which nothing has been reported yet. -/
def specializeModule (module : Module) : Except SpecializeError SpecializedModule :=
  match specializer.compileModule module .empty with
  | (.ok (functions, classes), diagnostics) =>
    .ok { name := module.name, functions, classes, diagnostics }
  | (.error error, _) => .error error

/-! ### Events -/

/-- The events of specializing groups in order, up to the first that fails. -/
def groupEvents : List OverloadGroup → List Event
  | [] => []
  | group :: groups =>
    specializer.compileEvents group ++
      match (specializer.compile group .empty).1 with
      | .ok _ => groupEvents groups
      | .error _ => []

/-- The events of specializing the groups of a scope. -/
def scopeEvents (owner : Option String) (decls : List FunctionDecl) : List Event :=
  match collectGroups owner decls with
  | .ok groups => specializer.groupEvents groups
  | .error _ => []

/-- The events of specializing classes in order, up to the first that fails. -/
def classEvents : List ClassDecl → List Event
  | [] => []
  | declared :: classes =>
    specializer.scopeEvents (some declared.name) declared.members ++
      match (specializer.compileClass declared .empty).1 with
      | .ok _ => classEvents classes
      | .error _ => []

/-- The events of specializing a module. -/
def moduleEvents (module : Module) : List Event :=
  specializer.scopeEvents none module.functions ++
    match (specializer.compileScope none module.functions .empty).1 with
    | .error _ => []
    | .ok _ =>
      specializer.classEvents module.classes ++
        match specializer.specializeModule module with
        | .error _ => []
        | .ok result =>
          [.finishedModule module.name result.functions.length result.classes.length
            result.diagnostics.size]

end Specializer

end Overloading
