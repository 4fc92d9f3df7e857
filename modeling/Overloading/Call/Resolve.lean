import Overloading.Call.Candidate
import Overloading.Program
import Overloading.Tree
import Overloading.Tree.Rewrite

/-! # Resolving calls anew

Each call of a body is resolved anew among its candidates by their scores. Only the signatures of calls
change: `Stmt.resolveAll` gives the new body, `Stmt.changedCalls` the calls whose signature changes. -/

namespace Overloading

/-! ## Scores

A candidate earns two points for each argument whose class is that of its parameter, and loses two for
each that is a character where a string is declared or the other way round. -/

/-- The points for an argument against the class of its parameter. -/
def ArgumentClass.points (arg : ArgumentClass) (param : TypeClass) : Int32 :=
  match arg, param with
  | .charTyped, .char => 2
  | .stringLike, .stringLike => 2
  | .charTyped, .stringLike => -2
  | .stringLike, .char => -2
  | _, _ => 0

namespace Candidate

/-- The points for the argument at an index; an argument without a parameter counts for nothing. -/
def pointsAt (candidate : Candidate) (arg : ArgumentClass) (index : Nat) : Int32 :=
  match candidate.paramFor? index with
  | some param => arg.points param.typeClass
  | none => 0

/-- The sum of the points for all arguments. -/
def score (candidate : Candidate) (args : List ArgumentClass) : Int32 :=
  (args.zipIdx.map fun (arg, index) => candidate.pointsAt arg index).sum

/-- Takes a candidate for the best one if it has a better score than the best one so far and is not
the signature that the call is resolved to. -/
def better (resolved : DeclHandle) (args : List ArgumentClass) (best : DeclHandle × Int32)
    (candidate : Candidate) : DeclHandle × Int32 :=
  if candidate.handle = resolved then best
  else if best.2 < candidate.score args then (candidate.handle, candidate.score args)
  else best

/-- The best of several candidates with its score: the first with the highest score, if that is higher
than the score of the signature that the call is resolved to, and else that signature. -/
def pickBest (candidates : List Candidate) (resolved : Candidate) (args : List ArgumentClass) :
    DeclHandle × Int32 :=
  candidates.foldl (better resolved.handle args) (resolved.handle, resolved.score args)

end Candidate

/-! ## Calls -/

namespace CallSite

/-- The best candidate of a site with its score; nothing where calls are not to be resolved anew or
there is no choice. -/
def pick? (site : CallSite) (registry : Registry) (options : Options) :
    Option (DeclHandle × Int32) := do
  if options.tieBreak then
    let candidates ← site.candidates? registry options
    let resolved ← Candidate.ofDecl? registry options site.resolved
    return Candidate.pickBest candidates resolved
      (site.args.map fun arg => arg.argumentClass registry options)
  else none

/-- The signature that a site is resolved to anew. -/
def resolve (site : CallSite) (registry : Registry) (options : Options) : DeclHandle :=
  match site.pick? registry options with
  | some (picked, _) => picked
  | none => site.resolved

/-- The event of resolving a site anew, if the signature changes. -/
def resolveEvents (site : CallSite) (registry : Registry) (options : Options) : List Event :=
  match site.pick? registry options with
  | some (picked, score) =>
    if picked = site.resolved then [] else [.brokeTie site.resolved picked score]
  | none => []

end CallSite

/-! ### Bodies -/

/-- The signature that an expression is resolved to anew; none for what is not a resolved call. -/
def Expr.resolved? (registry : Registry) (options : Options) (expr : Expr) : Option DeclHandle :=
  (CallSite.ofExpr? expr).map fun site => site.resolve registry options

namespace Stmt

/-- A body with all its calls resolved anew. -/
def resolveAll (registry : Registry) (options : Options) (body : List Stmt) : List Stmt :=
  Stmt.retargetAll (Expr.resolved? registry options) body

/-- The calls of a body whose signature changes when they are resolved anew. -/
def changedCalls (registry : Registry) (options : Options) (body : List Stmt) : List Expr :=
  (Stmt.subexprsAll body).filter fun expr => expr.resolved? registry options ≠ expr.signature?

/-- The events of resolving the calls of a body anew. -/
def resolveEvents (registry : Registry) (options : Options) (body : List Stmt) : List Event :=
  (Stmt.subexprsAll body).flatMap fun expr =>
    match CallSite.ofExpr? expr with
    | some site => site.resolveEvents registry options
    | none => []

end Stmt

/-! ### Modules -/

/-- A function with the calls of its body resolved anew. -/
def FunctionDecl.resolveCalls (registry : Registry) (options : Options) (function : FunctionDecl) :
    FunctionDecl :=
  { function with body := function.body.map (Stmt.resolveAll registry options) }

namespace Module

/-- The bodies of a module: those of its free functions, then those of the members of its classes. -/
def bodies (module : Module) : List (List Stmt) :=
  (module.functions ++ module.classes.flatMap fun declared => declared.members).filterMap
    fun function => function.body

/-- A module with all its calls resolved anew. -/
def resolveCalls (module : Module) (registry : Registry) (options : Options) : Module :=
  { module with
    functions := module.functions.map (FunctionDecl.resolveCalls registry options)
    classes := module.classes.map fun declared =>
      { declared with
        members := declared.members.map (FunctionDecl.resolveCalls registry options) } }

/-- Number of calls of a module whose signature changes when they are resolved anew. -/
def changedCount (module : Module) (registry : Registry) (options : Options) : Nat :=
  (module.bodies.flatMap (Stmt.changedCalls registry options)).length

/-- The events of resolving the calls of a module anew. -/
def resolveEvents (module : Module) (registry : Registry) (options : Options) : List Event :=
  module.bodies.flatMap (Stmt.resolveEvents registry options) ++
    if module.changedCount registry options = 0 then []
    else [.resolvedModule module.name (module.changedCount registry options)]

end Module

end Overloading
