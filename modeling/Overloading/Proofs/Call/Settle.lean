import Overloading.Proofs.Call.Pick
import Overloading.Proofs.Call.Resolve

/-! # Resolving calls anew settles at once

A call is resolved by the classes of its arguments and by the candidates next to its signature. New
signatures change neither: an argument keeps its class, and the signature that a call gets is declared
next to the one that it had. It is the best among the same candidates, so it stays. -/

namespace Overloading

/-! ## Arguments -/

section Arguments

variable (target : Expr → Option DeclHandle) (registry : Registry) (options : Options)

/-- The class of an argument is read off nodes that have no signature. -/
theorem Expr.argumentClass_retarget : ∀ expr : Expr,
    (expr.retarget target).argumentClass registry options = expr.argumentClass registry options
  | .paren inner | .nonNull inner => Expr.argumentClass_retarget inner
  | .member _ _ decl => by cases decl <;> rfl
  | .undefined | .null | .bool _ | .number _ | .string _ | .template _ _ | .ident _ _ | .this
  | .index _ _ | .call _ _ _ _ | .new _ _ _ _ | .binary _ _ _ | .compare _ _ _ | .logical _ _ _
  | .unary _ _ | .conditional _ _ _ | .assign _ _ | .array _ | .object _ | .spread _ | .cast _ _
  | .closure _ _ => rfl

/-- Retargeting keeps which expressions are spreads. -/
theorem CallSite.isSpread_retarget (expr : Expr) :
    CallSite.isSpread (expr.retarget target) = CallSite.isSpread expr := by
  cases expr <;> rfl

/-- The call site with other signatures inside its arguments. -/
def CallSite.retargetArgs (site : CallSite) : CallSite :=
  { site with args := Expr.retargetAll target site.args }

/-- Which candidate is picked does not depend on the signatures of calls inside the arguments. -/
theorem CallSite.pick?_retargetArgs (site : CallSite) :
    (site.retargetArgs target).pick? registry options = site.pick? registry options := by
  have spread : (site.retargetArgs target).hasSpread = site.hasSpread := by
    rw [hasSpread, hasSpread, retargetArgs, Expr.retargetAll_eq_map, List.any_map]
    congr 1
    funext expr
    exact isSpread_retarget target expr
  have classes : ((site.retargetArgs target).args.map fun arg =>
      arg.argumentClass registry options) =
        site.args.map fun arg => arg.argumentClass registry options := by
    rw [retargetArgs, Expr.retargetAll_eq_map, List.map_map]
    exact List.map_congr_left fun expr _ => expr.argumentClass_retarget target registry options
  have fits : (site.retargetArgs target).fits = site.fits := by
    funext candidate
    rw [CallSite.fits, CallSite.fits, retargetArgs, Expr.retargetAll_eq_map, List.length_map]
  -- spreads, classes and the number of arguments are all that picking reads of the arguments
  rw [pick?, pick?, candidates?, candidates?, spread, classes, fitting, fitting, fits]
  rfl

/-- What a site is resolved to does not depend on the signatures of calls inside its arguments. -/
theorem CallSite.resolve_retargetArgs (site : CallSite) :
    (site.retargetArgs target).resolve registry options = site.resolve registry options := by
  rw [resolve, resolve, pick?_retargetArgs]
  rfl

end Arguments

/-! ## Call sites -/

variable {registry : Registry} {options : Options}

namespace CallSite

variable {site : CallSite}

/-- A pick that differs from the signature that the site had is picked again in its place. -/
theorem pick?_picked (consistent : registry.Consistent) {picked : DeclHandle} {score : Int32}
    (picks : site.pick? registry options = some (picked, score))
    (changed : picked ≠ site.resolved) :
    { site with resolved := picked }.pick? registry options = some (picked, score) := by
  obtain ⟨tieBreak, candidates, resolved, collected, ofResolved, best⟩ := pick?_eq_some_iff.mp picks
  obtain ⟨noSpread, several, isFitting⟩ := candidates?_eq_some_iff.mp collected
  subst isFitting
  have isResolved : resolved.handle = site.resolved := Candidate.handle_of_ofDecl? ofResolved
  rcases Candidate.pickBest_cases (unique_of_fitting ofResolved) with
    ⟨_, kept⟩ | ⟨winner, first, _, found⟩
  · -- the scan would give the signature that the site had
    have same : picked = resolved.handle := congrArg Prod.fst (best.symm.trans kept)
    exact absurd (same.trans isResolved) changed
  · obtain ⟨rfl, rfl⟩ := Prod.mk.inj (best.symm.trans found)
    obtain ⟨isSibling, ofWinner, _⟩ := mem_fitting_iff.mp first.mem
    -- the winner is a sibling of the old signature, and siblings have the same siblings
    have sameCandidates : { site with resolved := winner.handle }.fitting registry options =
        site.fitting registry options := by
      rw [fitting, fitting, consistent.siblings_eq isSibling]
      rfl
    refine pick?_eq_some_iff.mpr ⟨tieBreak, site.fitting registry options, winner, ?_, ofWinner, ?_⟩
    · exact candidates?_eq_some_iff.mpr ⟨noSpread, several, sameCandidates.symm⟩
    · exact Candidate.pickBest_eq_self first.score_le

/-- A call site that was resolved anew is resolved to the same signature again. -/
theorem resolve_resolve (consistent : registry.Consistent) (site : CallSite) :
    { site with resolved := site.resolve registry options }.resolve registry options =
      site.resolve registry options := by
  cases picks : site.pick? registry options with
  | none =>
    have same : site.resolve registry options = site.resolved := by rw [resolve, picks]
    rw [same]
    exact same
  | some pick =>
    obtain ⟨picked, score⟩ := pick
    have toPicked : site.resolve registry options = picked := by rw [resolve, picks]
    rw [toPicked]
    -- a pick that changes nothing is made from the same site
    by_cases same : picked = site.resolved
    · rw [same] at toPicked ⊢
      exact toPicked
    · rw [resolve, pick?_picked consistent picks same]

end CallSite

/-! ## Nodes and modules -/

/-- The call site of an expression resolved anew is the old one with its new signature and its arguments
resolved anew. -/
theorem CallSite.ofExpr?_retarget (expr : Expr) :
    CallSite.ofExpr? (expr.retarget (Expr.resolved? registry options)) =
      (CallSite.ofExpr? expr).map fun site =>
        { site.retargetArgs (Expr.resolved? registry options) with
          resolved := site.resolve registry options } := by
  cases expr with
  | call _ _ _ signature | new _ _ _ signature => cases signature <;> rfl
  | _ => rfl

/-- An expression that was resolved anew has the signature that it is resolved to. -/
theorem Expr.resolved?_retarget (consistent : registry.Consistent) (expr : Expr) :
    (expr.retarget (Expr.resolved? registry options)).resolved? registry options =
      (expr.retarget (Expr.resolved? registry options)).signature? := by
  rw [resolved?, signature?_eq_map, CallSite.ofExpr?_retarget, Option.map_map, Option.map_map]
  congr 1
  funext site
  have again : { site with resolved := site.resolve registry options }.resolve registry options =
      site.resolve registry options := CallSite.resolve_resolve consistent site
  rw [← CallSite.resolve_retargetArgs (Expr.resolved? registry options)] at again
  exact again

/-- Resolving the calls of a body anew a second time changes nothing. -/
theorem Stmt.resolveAll_resolveAll (consistent : registry.Consistent) (body : List Stmt) :
    Stmt.resolveAll registry options (Stmt.resolveAll registry options body) =
      Stmt.resolveAll registry options body := by
  apply Eq.symm
  rw [← Stmt.repickedTo_iff, Stmt.RepickedTo, List.forall₂_same]
  intro node isNode
  rw [resolveAll, nodes_retargetAll, List.mem_map] at isNode
  obtain ⟨before, _, rfl⟩ := isNode
  refine ⟨rfl, ?_⟩
  cases before with
  | ofExpr expr => exact (expr.resolved?_retarget consistent).symm
  | ofStmt stmt => rfl

/-- Resolving the calls of a function anew a second time changes nothing. -/
theorem FunctionDecl.resolveCalls_resolveCalls (consistent : registry.Consistent)
    (function : FunctionDecl) :
    (function.resolveCalls registry options).resolveCalls registry options =
      function.resolveCalls registry options := by
  rw [resolveCalls, resolveCalls, Option.map_map]
  have again : Stmt.resolveAll registry options ∘ Stmt.resolveAll registry options =
      Stmt.resolveAll registry options := funext (Stmt.resolveAll_resolveAll consistent)
  rw [again]

/-- Resolving the calls of a module anew a second time changes nothing. -/
theorem Module.resolveCalls_resolveCalls (consistent : registry.Consistent) (module : Module) :
    (module.resolveCalls registry options).resolveCalls registry options =
      module.resolveCalls registry options := by
  have again (functions : List FunctionDecl) :
      (functions.map (FunctionDecl.resolveCalls registry options)).map
        (FunctionDecl.resolveCalls registry options) =
      functions.map (FunctionDecl.resolveCalls registry options) := by
    rw [List.map_map]
    exact List.map_congr_left fun function _ =>
      function.resolveCalls_resolveCalls consistent
  simp only [resolveCalls, again, List.map_map, Function.comp_def]

/-- A module that resolving leaves alone has no calls whose signature changes. -/
theorem Module.changedCount_eq_zero {module : Module}
    (settled : module.resolveCalls registry options = module) :
    module.changedCount registry options = 0 := by
  rw [changedCount_eq, settled, List.zip_eq_zipWith, List.zipWith_self, List.countP_eq_zero]
  intro pair isPair
  obtain ⟨node, _, rfl⟩ := List.mem_map.mp isPair
  simp

/-- **Resolving calls anew settles in one run.** With a registry that was built up by operations, a second
run changes no signature and leaves the module as it is. -/
theorem Module.resolveCalls_settles (ops : List RegistryOp)
    (room : (Registry.ofOps ops).size < UInt32.size) (options : Options) (module : Module) :
    (module.resolveCalls (.ofOps ops) options).changedCount (.ofOps ops) options = 0 ∧
      (module.resolveCalls (.ofOps ops) options).resolveCalls (.ofOps ops) options =
        module.resolveCalls (.ofOps ops) options := by
  have consistent : (Registry.ofOps ops).Consistent := (Registry.sound_ofOps room).consistent
  have settled : (module.resolveCalls (.ofOps ops) options).resolveCalls (.ofOps ops) options =
      module.resolveCalls (.ofOps ops) options := module.resolveCalls_resolveCalls consistent
  exact ⟨changedCount_eq_zero settled, settled⟩

namespace Module.Sample

/-- `f()`, `f(c: char)` and `f(s: string)`. -/
def overloads : List RegistryOp :=
  [.newSymbol "f",
    .declareUnique "c" { kind := .param, declaredType := some (.reference "char" [] none) },
    .declareUnique "s" { kind := .param, declaredType := some (.keyword .string) },
    .declare ⟨0⟩ { kind := .function },
    .declare ⟨0⟩ { kind := .function, params := [⟨0⟩] },
    .declare ⟨0⟩ { kind := .function, params := [⟨1⟩] }]

/-- `f("a")`, resolved to a given signature. -/
def call (resolved : DeclHandle) : Expr :=
  .call (.ident "f" none) [] [.string "a"] (some resolved)

/-- A function that returns `() => f("a")`. -/
def calling (resolved : DeclHandle) : Module where
  name := "m"
  functions := [{
    handle := ⟨5⟩
    name := "main"
    kind := .function
    body := some [.ret (some (.closure [] [.ret (some (call resolved))]))] }]

end Module.Sample

open Module.Sample in
/-- A call inside a closure that was resolved to `f()`, which does not even take an argument, moves on to
`f(s: string)` and stays there. -/
theorem Module.resolveCalls_settles_calling :
    (Registry.ofOps overloads).size < UInt32.size ∧
    (calling ⟨2⟩).changedCount (.ofOps overloads) {} = 1 ∧
    (calling ⟨2⟩).resolveCalls (.ofOps overloads) {} = calling ⟨4⟩ ∧
    (calling ⟨4⟩).changedCount (.ofOps overloads) {} = 0 ∧
    (calling ⟨4⟩).resolveCalls (.ofOps overloads) {} = calling ⟨4⟩ := by
  have room : (Registry.ofOps overloads).size < UInt32.size := by decide
  have moves : (calling ⟨2⟩).resolveCalls (.ofOps overloads) {} = calling ⟨4⟩ := by rfl
  refine ⟨room, by decide, moves, ?_⟩
  have settles := resolveCalls_settles overloads room {} (calling ⟨2⟩)
  rwa [moves] at settles

end Overloading
