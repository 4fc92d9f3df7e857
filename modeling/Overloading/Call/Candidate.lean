import Overloading.Program
import Overloading.Registry
import Overloading.Tree

/-! # Candidates of a call

Parameters and arguments are classified as characters, strings and all else. A candidate is a signature
that a call could be resolved to, by the classes of its parameters. -/

namespace Overloading

/-! ## Characters and strings at call sites

The source language writes a character as a string literal, so a call may be resolved to an overload
for strings where one for characters is meant. To tell, parameters and arguments are classified by
what their annotations say. -/

/-- What an annotation says about characters and strings. -/
inductive TypeClass
  /-- A character. -/
  | char
  /-- A string. -/
  | stringLike
  /-- Anything else. -/
  | other
deriving DecidableEq

/-- The class that several annotations share; `other` if they differ or there are none. -/
def TypeClass.common : List TypeClass → TypeClass
  | [] => .other
  | first :: rest => if rest.all fun next => next = first then first else .other

/-- The class of a type name without arguments. -/
def Options.classOfName (options : Options) (name : String) : TypeClass :=
  if options.isCharTypeName name then .char
  else if name = "String" || name = "System.String" then .stringLike
  else .other

mutual
/-- The class of an annotation. A union has the class that its members share. -/
def DeclaredType.typeClass (options : Options) : DeclaredType → TypeClass
  | .keyword word => if word = .string then .stringLike else .other
  | .stringLiteral _ => .stringLike
  | .reference name args _ => if args.isEmpty then options.classOfName name else .other
  | .union members => TypeClass.common (DeclaredType.typeClassAll options members)
  | _ => .other
/-- The classes of several annotations. -/
def DeclaredType.typeClassAll (options : Options) : List DeclaredType → List TypeClass
  | [] => []
  | type :: types => type.typeClass options :: DeclaredType.typeClassAll options types
end

/-- What an argument says about characters and strings. -/
inductive ArgumentClass
  /-- An annotation says that it is a character. -/
  | charTyped
  /-- It is a string literal, or an annotation says that it is a string. -/
  | stringLike
  /-- Anything else. -/
  | other
deriving DecidableEq

/-- The class of an argument whose annotation has a given class. -/
def TypeClass.toArgumentClass : TypeClass → ArgumentClass
  | .char => .charTyped
  | .stringLike => .stringLike
  | .other => .other

/-- The class of an argument that refers to a declaration. -/
def Registry.argumentClass (registry : Registry) (options : Options) (decl : DeclHandle) :
    ArgumentClass :=
  match registry.declaredType? decl with
  | some type => (type.typeClass options).toArgumentClass
  | none => .other

/-- The class of an argument: that of a string for a string or template literal, that of its annotation
for a cast and for what refers to a declaration. Parentheses and `!` are looked through. -/
def Expr.argumentClass (registry : Registry) (options : Options) : Expr → ArgumentClass
  | .string _ => .stringLike
  | .template _ _ => .stringLike
  | .cast _ type => (type.typeClass options).toArgumentClass
  | .paren inner => inner.argumentClass registry options
  | .nonNull inner => inner.argumentClass registry options
  | .ident _ (some decl) => registry.argumentClass options decl
  | .member _ _ (some decl) => registry.argumentClass options decl
  | _ => .other

/-! ## Candidates

A candidate is a signature that a call could be resolved to, by the shapes of its parameters. The
candidates of a call are the declarations next to the one that it is resolved to, as far as they can be
called in the same way with as many arguments. -/

/-- What matters about a parameter. -/
structure ParamShape where
  /-- The class of its annotation; of a rest parameter, that of its elements. -/
  typeClass : TypeClass
  /-- Whether it may be left out. -/
  isOptional : Bool
  /-- Whether it takes all further arguments. -/
  isRest : Bool
deriving DecidableEq

/-- The class of a parameter by its annotation. -/
def DeclaredType.paramClass (options : Options) (isRest : Bool) (type : DeclaredType) : TypeClass :=
  if isRest then
    match type.arrayElement? with
    | some element => element.typeClass options
    | none => .other
  else type.typeClass options

/-- The shape of a registered parameter. -/
def ParamShape.ofDecl? (registry : Registry) (options : Options) (param : DeclHandle) :
    Option ParamShape :=
  (registry.facts? param).map fun facts =>
    { typeClass :=
        match facts.declaredType with
        | some type => type.paramClass options facts.isRest
        | none => .other
      isOptional := facts.isOptional
      isRest := facts.isRest }

/-- A signature that a call could be resolved to. -/
structure Candidate where
  /-- The declaration of the signature. -/
  handle : DeclHandle
  /-- The shapes of its parameters. -/
  parameters : List ParamShape
  /-- Whether it is called by `new`. -/
  isConstructLike : Bool
deriving DecidableEq

namespace Candidate

/-- The candidate of a declaration that can be called and whose parameters are all registered. -/
def ofDecl? (registry : Registry) (options : Options) (handle : DeclHandle) : Option Candidate := do
  let facts ← registry.facts? handle
  if facts.kind.isFunctionLike || facts.kind.isConstructLike then
    let parameters ← facts.params.mapM (ParamShape.ofDecl? registry options)
    return { handle, parameters, isConstructLike := facts.kind.isConstructLike }
  else none

/-- Number of parameters that need an argument. -/
def requiredCount (candidate : Candidate) : Nat :=
  candidate.parameters.countP fun param => !param.isOptional && !param.isRest

/-- Whether the last parameter takes all further arguments. -/
def hasRest (candidate : Candidate) : Bool :=
  candidate.parameters.getLast?.any fun param => param.isRest

/-- Whether the signature can be called with a number of arguments. -/
def acceptsArity (candidate : Candidate) (count : Nat) : Bool :=
  candidate.requiredCount ≤ count && (count ≤ candidate.parameters.length || candidate.hasRest)

/-- The parameter that takes the argument at an index: the one at that index, or the rest parameter
beyond the end. -/
def paramFor? (candidate : Candidate) (index : Nat) : Option ParamShape :=
  match candidate.parameters[index]? with
  | some param => some param
  | none => candidate.parameters.getLast?.filter fun param => param.isRest

end Candidate

/-- The two ways to call. -/
inductive CallKind
  | call
  | new
deriving DecidableEq

/-- A call or instantiation that is resolved to a signature. -/
structure CallSite where
  /-- How the signature is called. -/
  kind : CallKind
  /-- The arguments. -/
  args : List Expr
  /-- The signature that the call is resolved to. -/
  resolved : DeclHandle

namespace CallSite

/-- The call site that an expression is. -/
def ofExpr? : Expr → Option CallSite
  | .call _ _ args (some resolved) => some { kind := .call, args, resolved }
  | .new _ _ args (some resolved) => some { kind := .new, args, resolved }
  | _ => none

/-- Whether an expression is a spread argument. -/
def isSpread : Expr → Bool
  | .spread _ => true
  | _ => false

/-- Whether the number of arguments is unknown, because one of them is spread. -/
def hasSpread (site : CallSite) : Bool := site.args.any isSpread

/-- Whether a candidate can be called in the way of the site and with as many arguments. -/
def fits (site : CallSite) (candidate : Candidate) : Bool :=
  candidate.isConstructLike = (site.kind = .new) && candidate.acceptsArity site.args.length

/-- The declarations next to the resolved one that fit the site, in order of declaration. -/
def fitting (site : CallSite) (registry : Registry) (options : Options) : List Candidate :=
  ((registry.siblings site.resolved).filterMap (Candidate.ofDecl? registry options)).filter site.fits

/-- The candidates of a site. A site with a spread argument has none, and a single candidate leaves
nothing to choose. -/
def candidates? (site : CallSite) (registry : Registry) (options : Options) :
    Option (List Candidate) :=
  if site.hasSpread then none
  else
    let candidates := site.fitting registry options
    if candidates.length < 2 then none else some candidates

end CallSite

end Overloading
