import Overloading.Call.Resolve
import Overloading.Proofs.Fold.Erase
import Overloading.Proofs.Specialize
import Overloading.Proofs.Specialize.Group
import Overloading.Proofs.Tree

/-! # Specialization does not look at signatures of calls

Resolving the calls of a module anew and specializing its overloads do not get in each other's way. Each
step of specialization gives the same for declarations whose calls have no signatures, up to the
signatures of the calls in the result: grouping and binding look at no body, folding goes by the type
tests, and the checks of a folded body by identifiers. Resolving calls anew changes nothing else. -/

namespace Overloading

/-! ## Without signatures of calls -/

/-- A function without the signatures of the calls in its body. -/
def FunctionDecl.erase (function : FunctionDecl) : FunctionDecl :=
  { function with body := function.body.map Stmt.eraseAll }

/-- A class without the signatures of the calls in its members. -/
def ClassDecl.erase (declared : ClassDecl) : ClassDecl :=
  { declared with members := declared.members.map FunctionDecl.erase }

/-- A module without the signatures of calls. -/
def Module.erase (module : Module) : Module :=
  { module with
    functions := module.functions.map FunctionDecl.erase
    classes := module.classes.map ClassDecl.erase }

/-- A group without the signatures of the calls in its implementation. -/
def OverloadGroup.erase (group : OverloadGroup) : OverloadGroup :=
  { group with
    implementation := group.implementation.erase
    signatures := group.signatures.map FunctionDecl.erase }

/-- A method without the signatures of the calls in its body. -/
def SpecializedMethod.erase (method : SpecializedMethod) : SpecializedMethod :=
  { method with body := Stmt.eraseAll method.body }

/-- A specialization without the signatures of the calls in its method. -/
def Specialization.erase (specialization : Specialization) : Specialization :=
  { specialization with method := specialization.method.erase }

/-- The methods of a class without the signatures of their calls. -/
def SpecializedClass.erase (specialized : SpecializedClass) : SpecializedClass :=
  { specialized with members := specialized.members.map SpecializedMethod.erase }

/-- The methods of a module without the signatures of their calls. -/
def SpecializedModule.erase (specialized : SpecializedModule) : SpecializedModule :=
  { specialized with
    functions := specialized.functions.map SpecializedMethod.erase
    classes := specialized.classes.map SpecializedClass.erase }

/-! ## Grouping -/

/-- Erasing signatures keeps which declarations have a body. -/
@[simp] theorem FunctionDecl.hasBody_erase (function : FunctionDecl) :
    function.erase.hasBody = function.hasBody := by
  rw [hasBody, hasBody, erase, Option.isSome_map]

/-- A test that does not look at signatures of calls picks out the same declarations. -/
theorem FunctionDecl.filter_map_erase {test : FunctionDecl → Bool}
    (blind : ∀ function, test (erase function) = test function) (decls : List FunctionDecl) :
    (decls.map erase).filter test = (decls.filter test).map erase := by
  have same : test ∘ erase = test := funext blind
  rw [List.filter_map, same]

/-- A group may as well be made of declarations whose bodies are erased. -/
theorem OverloadGroup.ofDeclarations_erase (owner : Option String) (name : String)
    (decls : List FunctionDecl) :
    OverloadGroup.ofDeclarations owner name (decls.map FunctionDecl.erase) =
      (OverloadGroup.ofDeclarations owner name decls).map OverloadGroup.erase := by
  have bodied : (decls.map FunctionDecl.erase).filter FunctionDecl.hasBody =
      (decls.filter FunctionDecl.hasBody).map FunctionDecl.erase :=
    FunctionDecl.filter_map_erase FunctionDecl.hasBody_erase decls
  have bodiless : (decls.map FunctionDecl.erase).filter (fun decl => !decl.hasBody) =
      (decls.filter fun decl => !decl.hasBody).map FunctionDecl.erase :=
    FunctionDecl.filter_map_erase (fun decl => congrArg (!·) decl.hasBody_erase) decls
  -- the same split into bodies and signatures, so the same case
  unfold ofDeclarations
  rw [bodied, bodiless]
  match decls.filter FunctionDecl.hasBody with
  | [] => rfl
  | [implementation] =>
    cases decls.filter fun decl => !decl.hasBody with
    | nil => rfl
    | cons signature signatures => rfl
  | first :: second :: others => simp [Except.map]

/-- The groups of a scope may as well be collected from declarations whose bodies are erased. -/
theorem collectGroups_erase (owner : Option String) (decls : List FunctionDecl) :
    collectGroups owner (decls.map FunctionDecl.erase) =
      (collectGroups owner decls).map fun groups => groups.map OverloadGroup.erase := by
  rw [collectGroups_eq, collectGroups_eq, keyedClasses_map]
  exact mapM_map_eq fun keyed _ => OverloadGroup.ofDeclarations_erase owner keyed.1.name keyed.2

/-! ## Specializing -/

/-- A signature is bound by its parameters alone. -/
theorem OverloadGroup.bind_erase (group : OverloadGroup) (registry : Registry)
    (signature : FunctionDecl) :
    group.erase.bind registry signature.erase = group.bind registry signature := rfl

/-- Retargeting keeps what identifiers are bound to. -/
theorem Expr.boundDecl?_retarget (target : Expr → Option DeclHandle) (expr : Expr) :
    (expr.retarget target).boundDecl? = expr.boundDecl? := by
  cases expr <;> rfl

/-- The residual check does not see the signatures of calls. -/
theorem Stmt.callsIntrinsic_eraseAll (intrinsicName : String) (body : List Stmt) :
    Stmt.callsIntrinsic intrinsicName (Stmt.eraseAll body) =
      Stmt.callsIntrinsic intrinsicName body := by
  rw [callsIntrinsic, callsIntrinsic, eraseAll, subexprsAll_retargetAll, List.any_map]
  congr 1
  funext expr
  exact expr.isIntrinsicCall_retarget _ intrinsicName

/-- The search for references does not see the signatures of calls. -/
theorem Stmt.firstReference?_eraseAll (decls : List DeclHandle) (body : List Stmt) :
    Stmt.firstReference? decls (Stmt.eraseAll body) = Stmt.firstReference? decls body := by
  rw [firstReference?, firstReference?, eraseAll, subexprsAll_retargetAll, List.filterMap_map]
  congr 2
  funext expr
  exact expr.boundDecl?_retarget _

namespace Specializer

variable (specializer : Specializer)

/-- The folded body of an erased implementation is the erased folded body. -/
theorem foldBody_erase (group : OverloadGroup) (binding : SignatureBinding) :
    specializer.foldBody group.erase binding =
      Stmt.eraseAll (specializer.foldBody group binding) := by
  have body : group.erase.implementation.body.getD [] =
      Stmt.eraseAll (group.implementation.body.getD []) := by
    rw [OverloadGroup.erase, FunctionDecl.erase]
    cases group.implementation.body <;> rfl
  rw [foldBody, foldBody, Stmt.eraseAll_foldAll, body]
  rfl

/-- The method that is emitted from an erased implementation is the erased method. -/
theorem emit_erase (group : OverloadGroup) (signature : FunctionDecl)
    (binding : SignatureBinding) :
    specializer.emit group.erase signature.erase binding =
      (specializer.emit group signature binding).erase := by
  rw [emit, foldBody_erase]
  rfl

/-- Specializing an erased group gives the same failure or the erased method. -/
theorem specialize_erase (group : OverloadGroup) (signature : FunctionDecl) :
    specializer.specialize group.erase signature.erase =
      (specializer.specialize group signature).map Specialization.erase := by
  cases bound : group.bind specializer.registry signature with
  | error error =>
    rw [specialize, specialize, OverloadGroup.bind_erase, bound]
    rfl
  | ok binding =>
    have boundErased : group.erase.bind specializer.registry signature.erase = .ok binding :=
      (group.bind_erase specializer.registry signature).trans bound
    rw [specializer.specialize_of_bind boundErased, specializer.specialize_of_bind bound,
      foldBody_erase, Stmt.callsIntrinsic_eraseAll, Stmt.firstReference?_eraseAll, emit_erase]
    -- the outcome of the checks is the same, and so is the name of the group in their errors
    split
    · rfl
    · split <;> rfl

/-- Specializing all signatures of an erased group gives the same failure or the erased methods. -/
theorem specializeAll_erase (group : OverloadGroup) :
    specializer.specializeAll group.erase =
      (specializer.specializeAll group).map fun specializations =>
        specializations.map Specialization.erase := by
  rw [specializeAll, specializeAll]
  exact mapM_map_eq fun signature _ => specializer.specialize_erase group signature

/-- Specializing a scope with erased bodies gives the same failure or the erased methods. -/
theorem specializeScope_erase (owner : Option String) (decls : List FunctionDecl) :
    specializer.specializeScope owner (decls.map FunctionDecl.erase) =
      (specializer.specializeScope owner decls).map fun specializations =>
        specializations.map Specialization.erase := by
  rw [specializeScope, specializeScope, collectGroups_erase]
  refine map_bind_eq fun groups => ?_
  rw [mapM_map_eq fun group _ => specializer.specializeAll_erase group]
  refine map_bind_eq fun specialized => ?_
  exact congrArg Except.ok List.map_flatten.symm

/-- Specializing a class with erased bodies gives the same failure or the erased methods under the same
name. -/
theorem specializeClass_erase (declared : ClassDecl) :
    specializer.specializeClass declared.erase =
      (specializer.specializeClass declared).map fun named =>
        (named.1, named.2.map Specialization.erase) := by
  rw [specializeClass, specializeClass]
  refine (congrArg (· >>= _) (specializer.specializeScope_erase (some declared.name)
    declared.members)).trans (map_bind_eq fun specializations => ?_)
  rfl

/-- The methods of erased specializations are the erased methods. -/
theorem methods_erase (specializations : List Specialization) :
    (specializations.map Specialization.erase).map Specialization.method =
      (specializations.map Specialization.method).map SpecializedMethod.erase := by
  rw [List.map_map, List.map_map]
  rfl

/-- Erasing signatures keeps the mismatches of visibility. -/
theorem mismatches_erase (specializations : List Specialization) :
    (specializations.map Specialization.erase).filterMap Specialization.mismatch =
      specializations.filterMap Specialization.mismatch := by
  rw [List.filterMap_map]
  rfl

/-- Specializing a module and erasing signatures commute; failures and diagnostics stay the same. -/
theorem specializeModule_erase (module : Module) :
    specializer.specializeModule module.erase =
      (specializer.specializeModule module).map SpecializedModule.erase := by
  have ofClasses : (module.classes.map ClassDecl.erase).mapM specializer.specializeClass =
      (module.classes.mapM specializer.specializeClass).map fun classes =>
        classes.map fun named => (named.1, named.2.map Specialization.erase) :=
    mapM_map_eq fun declared _ => specializer.specializeClass_erase declared
  rw [specializeModule_eq, specializeModule_eq, Module.erase, specializeScope_erase, ofClasses]
  -- failures are not erased, so the two computations fail together
  refine map_bind_eq fun functions => map_bind_eq fun classes => ?_
  refine congrArg Except.ok ?_
  rw [SpecializedModule.erase, SpecializedModule.mk.injEq, Diagnostics.mk.injEq]
  refine ⟨rfl, methods_erase functions, ?_, ?_⟩
  · rw [List.map_map, List.map_map]
    refine List.map_congr_left fun named _ => ?_
    exact congrArg (SpecializedClass.mk named.1) (methods_erase named.2)
  · simp only [mismatches_erase, List.flatMap_map]

end Specializer

/-! ## Resolving calls first -/

/-- Resolving calls anew changes nothing but signatures. -/
theorem Stmt.eraseAll_resolveAll (registry : Registry) (options : Options) (body : List Stmt) :
    Stmt.eraseAll (Stmt.resolveAll registry options body) = Stmt.eraseAll body :=
  Stmt.eraseAll_retargetAll _ body

/-- Resolving the calls of a function anew changes nothing but signatures. -/
theorem FunctionDecl.erase_resolveCalls (registry : Registry) (options : Options)
    (function : FunctionDecl) :
    (function.resolveCalls registry options).erase = function.erase := by
  have bodies : Stmt.eraseAll ∘ Stmt.resolveAll registry options = Stmt.eraseAll :=
    funext (Stmt.eraseAll_resolveAll registry options)
  rw [resolveCalls, erase, erase, Option.map_map, bodies]

/-- Resolving the calls of a module anew changes nothing but signatures. -/
theorem Module.erase_resolveCalls (registry : Registry) (options : Options) (module : Module) :
    (module.resolveCalls registry options).erase = module.erase := by
  have functions (decls : List FunctionDecl) :
      (decls.map (FunctionDecl.resolveCalls registry options)).map FunctionDecl.erase =
        decls.map FunctionDecl.erase := by
    rw [List.map_map]
    exact List.map_congr_left fun decl _ => decl.erase_resolveCalls registry options
  have classes (declared : ClassDecl) :
      ({ declared with
          members := declared.members.map (FunctionDecl.resolveCalls registry options) } :
        ClassDecl).erase = declared.erase := by
    rw [ClassDecl.erase, ClassDecl.erase, functions]
  rw [resolveCalls, erase, erase, functions, List.map_map]
  congr 1
  exact List.map_congr_left fun declared _ => classes declared

/-- Whether two runs of specialization come to the same but for the signatures of calls: both fail with
one error, or both succeed, with the same diagnostics and the same methods without those signatures. -/
def OutcomesAgree : Except SpecializeError SpecializedModule →
    Except SpecializeError SpecializedModule → Prop
  | .ok result, .ok other => result.diagnostics = other.diagnostics ∧ result.erase = other.erase
  | .error error, .error other => error = other
  | _, _ => False

/-- Outcomes that are the same once erased agree. -/
theorem outcomesAgree_of_erase {outcome other : Except SpecializeError SpecializedModule}
    (same : outcome.map SpecializedModule.erase = other.map SpecializedModule.erase) :
    OutcomesAgree outcome other := by
  match outcome, other with
  | .ok result, .ok other =>
    have erased : result.erase = other.erase := Except.ok.inj same
    have diagnostics : result.erase.diagnostics = other.erase.diagnostics :=
      congrArg SpecializedModule.diagnostics erased
    exact ⟨diagnostics, erased⟩
  | .error error, .error other => exact Except.error.inj same
  | .ok _, .error _ | .error _, .ok _ => cases same

/-- **Resolving calls anew does not get in the way of specialization.** A module whose calls were resolved
anew specializes as the module itself does, up to the signatures of calls. Of each body, folding keeps
the same, under whatever types, and the folded body passes the same checks. -/
theorem Specializer.specializeModule_resolveCalls (specializer : Specializer) (registry : Registry)
    (options : Options) (module : Module) :
    OutcomesAgree (specializer.specializeModule (module.resolveCalls registry options))
      (specializer.specializeModule module) ∧
    ∀ context body,
      let folded := Stmt.foldAll context body
      let resolvedFirst := Stmt.foldAll context (Stmt.resolveAll registry options body)
      Stmt.eraseAll resolvedFirst = Stmt.eraseAll folded ∧
        (∀ name, Stmt.callsIntrinsic name resolvedFirst = Stmt.callsIntrinsic name folded) ∧
        ∀ decls, Stmt.firstReference? decls resolvedFirst = Stmt.firstReference? decls folded := by
  constructor
  · -- erased, the module and the module resolved anew are the same
    apply outcomesAgree_of_erase
    rw [← specializeModule_erase, ← specializeModule_erase, Module.erase_resolveCalls]
  · intro context body folded resolvedFirst
    have same : Stmt.eraseAll resolvedFirst = Stmt.eraseAll folded := by
      rw [Stmt.eraseAll_foldAll, Stmt.eraseAll_foldAll, Stmt.eraseAll_resolveAll]
    refine ⟨same, fun name => ?_, fun decls => ?_⟩
    · rw [← Stmt.callsIntrinsic_eraseAll, same, Stmt.callsIntrinsic_eraseAll]
    · rw [← Stmt.firstReference?_eraseAll, same, Stmt.firstReference?_eraseAll]

end Overloading
