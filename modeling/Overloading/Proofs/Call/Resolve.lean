import Overloading.Call.Resolve
import Overloading.Proofs.Tree.Rewrite

/-! # Resolving calls anew changes signatures only

`Module.RepickedTo` says node by node what resolving the calls of a module anew may do: a node keeps its
label, and it gets the signature that it is resolved to as it stood in the module before. One module
answers to that, the one that `Module.resolveCalls` gives. A walk that changes the bodies in place and
counts the changes gives the same module, and the count is the number of nodes whose signature is
another one afterwards. -/

namespace Overloading

variable (registry : Registry) (options : Options)

/-! ## What may change -/

/-- The signature that a node is resolved to anew; none for what is not a resolved call. -/
def Node.resolved? : Node → Option DeclHandle
  | .ofExpr expr => expr.resolved? registry options
  | .ofStmt _ => none

/-- Whether a node stands in the place of another one after calls were resolved anew. The parts of both
are nodes of their own. -/
structure Node.RepickedTo (before after : Node) : Prop where
  label_eq : after.label = before.label
  signature_eq : after.signature? = before.resolved? registry options

/-- Whether a body is another one after calls were resolved anew: in the order of the source, each node
stands in the place of one of the other body. -/
def Stmt.RepickedTo (before after : List Stmt) : Prop :=
  List.Forall₂ (Node.RepickedTo registry options) (Stmt.nodes before) (Stmt.nodes after)

/-- Whether a function is another one after calls were resolved anew. -/
structure FunctionDecl.RepickedTo (before after : FunctionDecl) : Prop where
  frame : after = { before with body := after.body }
  bodies : Option.Rel (Stmt.RepickedTo registry options) before.body after.body

/-- Whether a class is another one after calls were resolved anew. -/
structure ClassDecl.RepickedTo (before after : ClassDecl) : Prop where
  frame : after = { before with members := after.members }
  members : List.Forall₂ (FunctionDecl.RepickedTo registry options) before.members after.members

/-- Whether a module is another one after calls were resolved anew. -/
structure Module.RepickedTo (before after : Module) : Prop where
  name_eq : after.name = before.name
  functions : List.Forall₂ (FunctionDecl.RepickedTo registry options) before.functions after.functions
  classes : List.Forall₂ (ClassDecl.RepickedTo registry options) before.classes after.classes

/-! ## What does change -/

/-- The signature of an expression is the one that its call site is resolved to. -/
theorem Expr.signature?_eq_map (expr : Expr) :
    expr.signature? = (CallSite.ofExpr? expr).map fun site => site.resolved := by
  cases expr with
  | call _ _ _ signature | new _ _ _ signature => cases signature <;> rfl
  | _ => rfl

/-- A node that is resolved anew gets the signature that it is resolved to. -/
theorem Node.signature?_retarget (node : Node) :
    (node.retarget (Expr.resolved? registry options)).signature? =
      node.resolved? registry options := by
  match node with
  | .ofExpr expr =>
    cases expr <;> rfl
  | .ofStmt stmt => rfl

/-- Retargeting a node to what its call is resolved to anew is what repicking asks for. -/
theorem Node.repickedTo_retarget (node : Node) :
    node.RepickedTo registry options (node.retarget (Expr.resolved? registry options)) :=
  ⟨node.label_retarget _, node.signature?_retarget registry options⟩

variable {registry options}

/-- One node stands in the place of a given one, up to its parts. -/
theorem Node.RepickedTo.sameHead {before after : Node}
    (repicked : before.RepickedTo registry options after) :
    after.SameHead (before.retarget (Expr.resolved? registry options)) := by
  have expected := before.repickedTo_retarget registry options
  exact ⟨repicked.label_eq.trans expected.label_eq.symm,
    repicked.signature_eq.trans expected.signature_eq.symm⟩

/-- A body has its calls repicked to another one iff that is the body resolved anew. -/
theorem Stmt.repickedTo_iff {before after : List Stmt} :
    Stmt.RepickedTo registry options before after ↔
      after = Stmt.resolveAll registry options before := by
  constructor
  · intro repicked
    -- a body is known by its nodes, and these are known up to their parts
    apply Stmt.eq_of_nodes
    rw [resolveAll, nodes_retargetAll, List.forall₂_map_right_iff]
    exact List.Forall₂.flip (repicked.imp fun _ _ repicked => repicked.sameHead)
  · rintro rfl
    rw [RepickedTo, resolveAll, nodes_retargetAll, List.forall₂_map_right_iff, List.forall₂_same]
    exact fun node _ => node.repickedTo_retarget registry options

/-- A body that may be missing has its calls repicked to another one iff that is the body resolved anew. -/
theorem Stmt.rel_repickedTo_iff {before after : Option (List Stmt)} :
    Option.Rel (Stmt.RepickedTo registry options) before after ↔
      after = before.map (Stmt.resolveAll registry options) := by
  cases before <;> cases after <;> simp [Stmt.repickedTo_iff]

/-- A function has its calls repicked to another one iff that is the function resolved anew. -/
theorem FunctionDecl.repickedTo_iff {before after : FunctionDecl} :
    before.RepickedTo registry options after ↔ after = before.resolveCalls registry options := by
  constructor
  · rintro ⟨frame, bodies⟩
    rw [frame, Stmt.rel_repickedTo_iff.mp bodies, resolveCalls]
  · rintro rfl
    exact ⟨rfl, Stmt.rel_repickedTo_iff.mpr rfl⟩

/-- Lists whose members are images in turn are images. -/
theorem forall₂_iff_eq_map {α β : Type} {related : α → β → Prop} {f : α → β}
    (image : ∀ a b, related a b ↔ b = f a) {as : List α} {bs : List β} :
    List.Forall₂ related as bs ↔ bs = as.map f := by
  have same : related = fun a b => f a = b := by
    funext a b
    exact propext ((image a b).trans eq_comm)
  have mapped : List.Forall₂ (fun a b => f a = b) as bs ↔ List.Forall₂ Eq (as.map f) bs :=
    List.forall₂_map_left_iff.symm
  rw [same, mapped, List.forall₂_eq_eq_eq, eq_comm]

/-- Functions have their calls repicked to others, one by one, iff those are the functions resolved anew. -/
theorem FunctionDecl.forall₂_repickedTo_iff {before after : List FunctionDecl} :
    List.Forall₂ (FunctionDecl.RepickedTo registry options) before after ↔
      after = before.map (FunctionDecl.resolveCalls registry options) := by
  apply forall₂_iff_eq_map
  intro function other
  exact FunctionDecl.repickedTo_iff

/-- A class has its calls repicked to another one iff that is the class with its members resolved anew.
-/
theorem ClassDecl.repickedTo_iff {before after : ClassDecl} :
    before.RepickedTo registry options after ↔
      after = { before with
        members := before.members.map (FunctionDecl.resolveCalls registry options) } := by
  constructor
  · rintro ⟨frame, members⟩
    rw [frame, FunctionDecl.forall₂_repickedTo_iff.mp members]
  · rintro rfl
    exact ⟨rfl, FunctionDecl.forall₂_repickedTo_iff.mpr rfl⟩

/-- Classes have their calls repicked to others, one by one, iff those are the classes with their members
resolved anew. -/
theorem ClassDecl.forall₂_repickedTo_iff {before after : List ClassDecl} :
    List.Forall₂ (ClassDecl.RepickedTo registry options) before after ↔
      after = before.map fun declared => { declared with
        members := declared.members.map (FunctionDecl.resolveCalls registry options) } := by
  apply forall₂_iff_eq_map
  intro declared other
  exact ClassDecl.repickedTo_iff

/-- One module comes of resolving the calls of a given one anew. -/
theorem Module.repickedTo_iff {before after : Module} :
    before.RepickedTo registry options after ↔ after = before.resolveCalls registry options := by
  constructor
  · rintro ⟨name, functions, classes⟩
    obtain ⟨_, _, _⟩ := after
    cases name
    cases FunctionDecl.forall₂_repickedTo_iff.mp functions
    cases ClassDecl.forall₂_repickedTo_iff.mp classes
    rfl
  · rintro rfl
    exact ⟨rfl, FunctionDecl.forall₂_repickedTo_iff.mpr rfl,
      ClassDecl.forall₂_repickedTo_iff.mpr rfl⟩

/-! ## How many signatures change -/

/-- The nodes of the bodies of a module, in order. -/
def Module.nodes (module : Module) : List Node := module.bodies.flatMap Stmt.nodes

/-- Resolving the calls of a module anew resolves those of each body, in order. -/
theorem Module.bodies_resolveCalls (module : Module) :
    (module.resolveCalls registry options).bodies =
      module.bodies.map (Stmt.resolveAll registry options) := by
  have functions : (module.resolveCalls registry options).functions ++
        ((module.resolveCalls registry options).classes.flatMap fun declared => declared.members) =
      (module.functions ++ module.classes.flatMap fun declared => declared.members).map
        (FunctionDecl.resolveCalls registry options) := by
    rw [List.map_append, List.map_flatMap, resolveCalls, List.flatMap_map]
  rw [bodies, bodies, functions, List.filterMap_map, List.map_filterMap]
  rfl

/-- Resolving the calls of a module anew retargets each of its nodes in place. -/
theorem Module.nodes_resolveCalls (module : Module) :
    (module.resolveCalls registry options).nodes =
      module.nodes.map (Node.retarget (Expr.resolved? registry options)) := by
  rw [nodes, nodes, bodies_resolveCalls, List.flatMap_map, List.map_flatMap]
  exact List.flatMap_congr fun body _ => Stmt.nodes_retargetAll _ body

/-- The number of changes is the number of nodes whose signature is another one afterwards. -/
theorem Module.changedCount_eq (module : Module) :
    module.changedCount registry options =
      (module.nodes.zip (module.resolveCalls registry options).nodes).countP fun pair =>
        pair.2.signature? ≠ pair.1.signature? := by
  have ofBody (body : List Stmt) : (Stmt.changedCalls registry options body).length =
      (Stmt.nodes body).countP fun node =>
        node.resolved? registry options ≠ node.signature? := by
    rw [Stmt.changedCalls, ← List.countP_eq_length_filter, Stmt.subexprsAll_eq,
      Stmt.preorderExprs, ← Stmt.nodes, List.countP_filterMap]
    refine List.countP_congr fun node _ => ?_
    cases node with
    | ofExpr expr => exact Iff.rfl
    -- statements are not counted on either side
    | ofStmt stmt => simp [Node.expr?, Node.resolved?, Node.signature?]
  have inPlace : module.nodes.zip (module.resolveCalls registry options).nodes =
      module.nodes.map fun node =>
        (node, node.retarget (Expr.resolved? registry options)) := by
    have self : module.nodes.zip module.nodes = module.nodes.map fun node => (node, node) :=
      List.zip_eq_zipWith.trans List.zipWith_self
    rw [nodes_resolveCalls, List.zip_map_right, self, List.map_map]
    rfl
  rw [inPlace, List.countP_map, changedCount, List.length_flatMap, nodes, List.countP_flatMap]
  simp [ofBody, Function.comp_def, Node.signature?_retarget]

/-! ## Walking in place -/

variable (registry options)

/-- Resolves a call anew where it stands, and counts it if that changes its signature. -/
def Expr.repick (expr : Expr) : StateM Nat Expr :=
  match CallSite.ofExpr? expr with
  | none => return expr
  | some site => do
    if site.resolve registry options = site.resolved then return expr
    modify (· + 1)
    return expr.setSignature (some (site.resolve registry options))

/-- Resolves the calls of a function anew where they stand. -/
def FunctionDecl.repickCalls (limit : Nat) (function : FunctionDecl) :
    StateT Nat Option FunctionDecl :=
  match function.body with
  | none => return function
  | some body =>
    return { function with
      body := some (← Stmt.rewriteAll (Expr.repick registry options) limit body) }

/-- Resolves the calls of a module anew where they stand: those of the free functions, then those of
the members of the classes. -/
def Module.repickCalls (limit : Nat) (module : Module) : StateT Nat Option Module := do
  let functions ← module.functions.mapM (FunctionDecl.repickCalls registry options limit)
  let classes ← module.classes.mapM fun declared => return { declared with
    members := ← declared.members.mapM (FunctionDecl.repickCalls registry options limit) }
  return { module with functions := functions, classes := classes }

/-- One more for an expression whose signature changes. -/
def Expr.countChange (expr : Expr) (count : Nat) : Nat :=
  if expr.resolved? registry options ≠ expr.signature? then count + 1 else count

variable {registry options}

/-- To set the signature that an expression has already changes nothing. -/
theorem Expr.setSignature_signature? (expr : Expr) : expr.setSignature expr.signature? = expr := by
  cases expr <;> rfl

/-- The visitor sets the signature that an expression is resolved to. -/
theorem Expr.repick_eq (expr : Expr) (count : Nat) :
    expr.repick registry options count =
      (expr.setSignature (expr.resolved? registry options),
        expr.countChange registry options count) := by
  have now : expr.signature? = (CallSite.ofExpr? expr).map fun site => site.resolved :=
    expr.signature?_eq_map
  cases isSite : CallSite.ofExpr? expr with
  | none =>
    -- the visitor returns the expression, which comes to setting the signature that it has
    have absent : expr.signature? = none := by rw [now, isSite, Option.map_none]
    have same : expr.resolved? registry options = expr.signature? := by
      rw [absent, resolved?, isSite, Option.map_none]
    rw [countChange, if_neg (not_not.mpr same), same, setSignature_signature?, repick, isSite]
    rfl
  | some site =>
    have resolved : expr.signature? = some site.resolved := by rw [now, isSite, Option.map_some]
    have anew : expr.resolved? registry options = some (site.resolve registry options) := by
      rw [resolved?, isSite, Option.map_some]
    rw [countChange, anew, resolved]
    by_cases same : site.resolve registry options = site.resolved
    · have keeps : expr.repick registry options = pure expr := by
        rw [repick, isSite]
        exact if_pos same
      rw [keeps, same, ← resolved, setSignature_signature?, if_neg (not_not.mpr rfl)]
      rfl
    · have changes : expr.repick registry options = do
          modify (· + 1)
          return expr.setSignature (some (site.resolve registry options)) := by
        rw [repick, isSite]
        exact if_neg same
      rw [changes, if_pos fun equal => same (Option.some.inj equal)]
      rfl

/-- Counting over expressions adds the number of those whose signature changes. -/
theorem Expr.foldl_countChange (exprs : List Expr) (count : Nat) :
    exprs.foldl (fun count expr => expr.countChange registry options count) count =
      count + exprs.countP fun expr => expr.resolved? registry options ≠ expr.signature? := by
  induction exprs generalizing count with
  | nil => rfl
  | cons expr exprs ih =>
    rw [List.foldl_cons, ih, List.countP_cons, countChange]
    by_cases changed : expr.resolved? registry options ≠ expr.signature?
    · rw [if_pos changed, if_pos (decide_eq_true changed)]
      omega
    · rw [if_neg changed, if_neg (by simpa using changed)]
      omega

/-- The expressions inside the body of a function, in order. -/
def FunctionDecl.subexprs (function : FunctionDecl) : List Expr :=
  function.body.toList.flatMap Stmt.subexprsAll

/-- The walk over a function gives the function resolved anew, and counts over its subexpressions in
order. -/
theorem FunctionDecl.visits_repickCalls {limit : Nat} {function : FunctionDecl}
    (enough : ∀ body ∈ function.body, sizeOf body ≤ limit) :
    Visits (Expr.countChange registry options) (function.repickCalls registry options limit)
      (function.resolveCalls registry options) function.subexprs := by
  rw [repickCalls, resolveCalls, subexprs]
  cases hasBody : function.body with
  | none =>
    have frame : { function with body := none } = function := by rw [← hasBody]
    rw [Option.map_none, frame]
    exact visits_pure function
  | some body =>
    -- the limit is enough for the body, so the walk has a result
    have walks : Visits (Expr.countChange registry options)
        (Stmt.rewriteAll (Expr.repick registry options) limit body)
        (Stmt.resolveAll registry options body) (Stmt.subexprsAll body) :=
      Stmt.visits_rewriteAll Expr.repick_eq (enough body hasBody)
    rw [Option.toList_some, List.flatMap_singleton]
    exact walks.bind_pure

/-- The walk over a module gives the module resolved anew, and counts over the subexpressions of its
bodies in order. -/
theorem Module.visits_repickCalls {limit : Nat} {module : Module}
    (enough : ∀ body ∈ module.bodies, sizeOf body ≤ limit) :
    Visits (Expr.countChange registry options) (module.repickCalls registry options limit)
      (module.resolveCalls registry options) (module.bodies.flatMap Stmt.subexprsAll) := by
  have ofFunction (function : FunctionDecl)
      (isFunction : function ∈
        module.functions ++ module.classes.flatMap fun declared => declared.members) :
      Visits (Expr.countChange registry options) (function.repickCalls registry options limit)
        (function.resolveCalls registry options) function.subexprs := by
    refine FunctionDecl.visits_repickCalls fun body isBody => enough body ?_
    exact List.mem_filterMap.mpr ⟨function, isFunction, isBody⟩
  -- the walk goes through the functions and then through the members, as the list of bodies does
  have seen : module.bodies.flatMap Stmt.subexprsAll =
      module.functions.flatMap FunctionDecl.subexprs ++
        module.classes.flatMap fun declared => declared.members.flatMap FunctionDecl.subexprs := by
    rw [bodies, List.filterMap_eq_flatMap_toList, List.flatMap_assoc, List.flatMap_append,
      List.flatMap_assoc]
    rfl
  rw [seen]
  refine (Visits.mapM fun function isFunction => ?_).bind
    (Visits.mapM fun declared isClass => ?_).bind_pure
  · exact ofFunction function (List.mem_append_left _ isFunction)
  · refine (Visits.mapM fun member isMember => ofFunction member ?_).bind_pure
    exact List.mem_append_right _ (List.mem_flatMap.mpr ⟨declared, isClass, isMember⟩)

/-- Walking in place gives the same module, with the number of changes. -/
theorem Module.repickCalls_eq (module : Module) (extra : Nat) :
    module.repickCalls registry options (sizeOf module.bodies + extra) 0 =
      some (module.resolveCalls registry options, module.changedCount registry options) := by
  have enough (body : List Stmt) (isBody : body ∈ module.bodies) :
      sizeOf body ≤ sizeOf module.bodies + extra := by
    have smaller : sizeOf body < sizeOf module.bodies := List.sizeOf_lt_of_mem isBody
    omega
  have count : module.changedCount registry options =
      (module.bodies.flatMap Stmt.subexprsAll).countP fun expr =>
        expr.resolved? registry options ≠ expr.signature? := by
    rw [changedCount, List.countP_eq_length_filter, List.filter_flatMap]
    rfl
  rw [Module.visits_repickCalls enough, Expr.foldl_countChange, Nat.zero_add, count]

variable (registry options) in
/-- **Resolving calls anew changes signatures node by node and nothing else.** One module stands node by
node in the place of the given one with each signature resolved to anew in the module before; the count
is that of the nodes whose signature is another one; and a walk that changes the calls where they stand,
each before its parts, gives that module and that count. -/
theorem Module.resolveCalls_pointwise (module : Module) :
    (∀ after, module.RepickedTo registry options after ↔
      after = module.resolveCalls registry options) ∧
    module.changedCount registry options =
      ((module.nodes.zip (module.resolveCalls registry options).nodes).countP fun pair =>
        pair.2.signature? ≠ pair.1.signature?) ∧
    ∀ extra, module.repickCalls registry options (sizeOf module.bodies + extra) 0 =
      some (module.resolveCalls registry options, module.changedCount registry options) := by
  refine ⟨fun after => ?_, ?_, fun extra => ?_⟩
  · exact repickedTo_iff
  · exact module.changedCount_eq
  · exact module.repickCalls_eq extra

end Overloading
