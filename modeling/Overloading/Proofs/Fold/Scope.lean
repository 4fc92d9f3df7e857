import Overloading.Proofs.Fold.Normal
import Overloading.Proofs.Tree.Scope

/-! # Folding keeps bodies well scoped

Folding moves a statement to another list only out of a block that binds no local. So no `let` leaves its
list, and what a place of the source brings into scope is in scope wherever its part ends up
(`PlacesFrom`).

`Node.exists_keeps` traces each node of the result back to the node that it is the folded form of, with no
fewer locals in scope. That folding keeps bodies well scoped is what it says of identifiers. -/

namespace Overloading

variable {context : FoldContext}

/-! ## The lets of a folded list -/

namespace Stmt

/-- A statement other than a `let` binds nothing. -/
theorem binds_eq_nil {stmt : Stmt} (notLet : stmt.isLet = false) : stmt.binds = [] := by
  cases stmt with
  | letDecl => cases notLet
  | _ => rfl

/-- Folding neither makes up nor loses a `let`. -/
@[simp] theorem isLet_fold (stmt : Stmt) : (stmt.fold context).isLet = stmt.isLet := by
  cases stmt with
  | ifElse =>
    unfold fold foldedIf
    split <;> rfl
  | _ => rfl

/-- A folded statement binds what the statement binds. -/
@[simp] theorem binds_fold (stmt : Stmt) : (stmt.fold context).binds = stmt.binds := by
  cases stmt with
  | ifElse =>
    unfold fold foldedIf
    split <;> rfl
  | _ => rfl

/-- The locals that a statement list binds. -/
def bindsAll (stmts : List Stmt) : List DeclHandle := stmts.flatMap Stmt.binds

/-- A list without lets binds nothing. -/
theorem bindsAll_eq_nil {stmts : List Stmt} (noLet : stmts.any isLet = false) :
    Stmt.bindsAll stmts = [] := by
  refine List.flatMap_eq_nil_iff.mpr fun stmt mem => binds_eq_nil ?_
  simpa using List.any_eq_false.mp noLet stmt mem

/-- What a statement contributes to its list binds what the statement binds. -/
theorem bindsAll_splice (stmt : Stmt) : Stmt.bindsAll stmt.splice = stmt.binds := by
  cases stmt with
  | block body =>
    rw [splice]
    split
    · rfl
    · next noLet => exact bindsAll_eq_nil (Bool.not_eq_true _ ▸ noLet)
  | _ => rfl

/-- In two lists put together the locals of the first are in scope in the second. -/
theorem places_append (stmts others : List Stmt) :
    Stmt.places (stmts ++ others) =
      Stmt.places stmts ++ (Stmt.places others).map (.under (Stmt.bindsAll stmts)) := by
  induction stmts with
  | nil => exact (List.map_id _).symm
  | cons stmt stmts ih =>
    have nested : (Place.under stmt.binds ∘ Place.under (Stmt.bindsAll stmts)) =
        Place.under (Stmt.bindsAll (stmt :: stmts)) := by
      funext place
      simp [Place.under, bindsAll]
    rw [List.cons_append, places, ih, List.map_append, List.map_map, nested, places, List.cons_append]

end Stmt

/-! ## Places of folded parts -/

/-- Whether a place holds a given node, or a part of it that the node brings no local into scope for. -/
def Place.OpenedFrom (place : Place) (node : Node) : Prop :=
  place.node = node ∨ .plain place.node ∈ node.places

/-- What is seen from such a place is seen from the node. -/
theorem Place.OpenedFrom.sees {place : Place} {node inner : Node} {scope : List DeclHandle}
    (opened : place.OpenedFrom node) (sees : place.node.Sees scope inner) : node.Sees scope inner := by
  rcases opened with same | isPart
  · rwa [← same]
  · exact .insidePlain isPart sees

variable (context) in
/-- Whether each of some places holds what is left of the folded part at a given place, with no fewer
locals in scope. -/
def PlacesFrom (sources results : List Place) : Prop :=
  ∀ result ∈ results, ∃ source ∈ sources,
    source.binds ⊆ result.binds ∧ result.OpenedFrom (source.node.fold context)

namespace PlacesFrom

theorem nil (sources : List Place) : PlacesFrom context sources [] :=
  List.forall_mem_nil _

theorem mono {sources sources' results : List Place} (folded : PlacesFrom context sources results)
    (subset : sources ⊆ sources') : PlacesFrom context sources' results := by
  intro result mem
  obtain ⟨source, isSource, fromSource⟩ := folded result mem
  exact ⟨source, subset isSource, fromSource⟩

theorem append {sources results sources' results' : List Place}
    (first : PlacesFrom context sources results) (second : PlacesFrom context sources' results') :
    PlacesFrom context (sources ++ sources') (results ++ results') := by
  intro result mem
  rcases List.mem_append.mp mem with mem | mem
  · exact first.mono (List.subset_append_left _ _) result mem
  · exact second.mono (List.subset_append_right _ _) result mem

/-- A folded node stands in the place of the node. -/
theorem plain (node : Node) : PlacesFrom context [.plain node] [.plain (node.fold context)] := by
  intro result mem
  cases List.mem_singleton.mp mem
  exact ⟨_, List.mem_singleton_self _, List.nil_subset _, .inl rfl⟩

theorem cons {expr : Expr} {sources results : List Place} (rest : PlacesFrom context sources results) :
    PlacesFrom context (.plain (.ofExpr expr) :: sources)
      (.plain (.ofExpr (expr.fold context)) :: results) :=
  (plain (.ofExpr expr)).append rest

/-- The same locals may be brought into scope on both sides. -/
theorem under {sources results : List Place} (folded : PlacesFrom context sources results)
    (locals : List DeclHandle) :
    PlacesFrom context (sources.map (.under locals)) (results.map (.under locals)) := by
  intro result mem
  obtain ⟨inner, isInner, rfl⟩ := List.mem_map.mp mem
  obtain ⟨source, isSource, binds, opened⟩ := folded inner isInner
  refine ⟨source.under locals, List.mem_map_of_mem isSource, ?_, opened⟩
  simp only [Place.binds_under, List.append_subset, List.subset_append_left, true_and]
  exact List.subset_append_of_subset_right _ binds

end PlacesFrom

/-- Parts that are expressions stay where they are. -/
theorem Node.FromFold.places {sources results : List Node} (folded : FromFold context sources results)
    (noStmts : ∀ stmt, .ofStmt stmt ∉ sources) :
    PlacesFrom context (sources.map .plain) (results.map .plain) := by
  intro result mem
  obtain ⟨part, isPart, rfl⟩ := List.mem_map.mp mem
  obtain ⟨source, isSource, same | ⟨body, isBlock, -⟩⟩ := folded part isPart
  · exact ⟨_, List.mem_map_of_mem isSource, List.nil_subset _, .inl same⟩
  · cases source with
    | ofExpr expr => cases isBlock
    | ofStmt stmt => exact absurd isSource (noStmts stmt)

namespace Stmt

/-- In a list without lets no local is brought into scope. -/
theorem places_eq_of_noLet {stmts : List Stmt} (noLet : stmts.any isLet = false) :
    Stmt.places stmts = (stmts.map .ofStmt).map .plain := by
  induction stmts with
  | nil => rfl
  | cons stmt stmts ih =>
    obtain ⟨first, others⟩ : stmt.isLet = false ∧ stmts.any isLet = false := by simpa using noLet
    have unchanged : Place.under [] = id := rfl
    rw [places, binds_eq_nil first, unchanged, List.map_id, ih others, List.map_cons, List.map_cons]

/-- A block is opened only if it binds no local. -/
theorem openedFrom_of_mem_places_splice {stmt : Stmt} {place : Place}
    (mem : place ∈ Stmt.places stmt.splice) : place.OpenedFrom (.ofStmt stmt) := by
  cases stmt with
  | block body =>
    rw [splice] at mem
    split at mem
    · cases List.mem_singleton.mp mem
      exact .inl rfl
    · next noLet =>
      -- a block that binds no local brings nothing into scope for its own statements
      have isPlain : Stmt.places body = (body.map Node.ofStmt).map .plain :=
        places_eq_of_noLet (Bool.not_eq_true _ ▸ noLet)
      rw [isPlain] at mem
      obtain ⟨node, isPart, rfl⟩ := List.mem_map.mp mem
      refine .inr ?_
      rw [Node.places, isPlain]
      exact List.mem_map_of_mem isPart
  | empty => cases mem
  | _ =>
    cases List.mem_singleton.mp mem
    exact .inl rfl

/-- In a folded list no statement loses a local from its scope. -/
theorem placesFrom_foldAll (stmts : List Stmt) :
    PlacesFrom context (Stmt.places stmts) (Stmt.places (Stmt.foldAll context stmts)) := by
  induction stmts with
  | nil => exact .nil _
  | cons stmt stmts ih =>
    have first : PlacesFrom context [.plain (.ofStmt stmt)]
        (Stmt.places (stmt.fold context).splice) := by
      intro result mem
      exact ⟨_, List.mem_singleton_self _, List.nil_subset _, openedFrom_of_mem_places_splice mem⟩
    rw [foldAll, foldedCons]
    split
    · exact first.mono (by simp [places])
    · -- the others still see the local that the first statement may bind
      rw [places_append, bindsAll_splice, binds_fold]
      exact first.append (ih.under stmt.binds)

/-- In a folded branch no statement loses a local from its scope. -/
theorem placesFrom_foldBranch (branch : Option (List Stmt)) :
    PlacesFrom context (Stmt.places (branch.getD []))
      (Stmt.places ((Stmt.foldBranch context branch).getD [])) := by
  cases branch with
  | none => exact .nil _
  | some body => exact placesFrom_foldAll body

end Stmt

/-- In a folded handler no statement loses a local from its scope, the parameter of the handler
included. -/
theorem CatchClause.placesFrom_foldOption (handler : Option CatchClause) :
    PlacesFrom context (handler.elim [] CatchClause.places)
      ((CatchClause.foldOption context handler).elim [] CatchClause.places) := by
  cases handler with
  | none => exact .nil _
  | some handler =>
    obtain ⟨param, body⟩ := handler
    exact (Stmt.placesFrom_foldAll body).under param.toList

/-- In the folded arms of a `switch` statement no part loses a local from its scope. -/
theorem SwitchCase.placesFrom_foldAll (cases : List SwitchCase) :
    PlacesFrom context (cases.flatMap SwitchCase.places)
      ((SwitchCase.foldAll context cases).flatMap SwitchCase.places) := by
  induction cases with
  | nil => exact .nil _
  | cons arm cases ih =>
    obtain ⟨test, body⟩ := arm
    have ofTest : PlacesFrom context ((test.toList.map Node.ofExpr).map .plain)
        (((Expr.foldOption context test).toList.map Node.ofExpr).map .plain) :=
      (Node.fromFold_optionExpr test).places (by simp)
    exact (ofTest.append (Stmt.placesFrom_foldAll body)).append ih

/-! ## Nodes -/

namespace Node

variable (context) in
/-- What folding keeps of a node, unless it leaves only a part of it: a result that is an identifier is the
node itself; nothing new is declared; each statement list is the folded form of one of the node; and no
part loses a local from its scope. -/
structure Keeps (node result : Node) : Prop where
  ident : result.IsIdent → node = result
  declares : result.declares ⊆ node.declares
  lists : ∀ stmts ∈ result.stmtLists, ∃ source ∈ node.stmtLists, stmts = Stmt.foldAll context source
  places : PlacesFrom context node.places result.places

/-- A result without statement lists that declares nothing. -/
theorem keeps_of_places {node result : Node} (notIdent : ¬ result.IsIdent)
    (noDeclares : result.declares = []) (noLists : result.stmtLists = [])
    (places : PlacesFrom context node.places result.places) : node.Keeps context result where
  ident isIdent := absurd isIdent notIdent
  declares := by simp [noDeclares]
  lists := by simp [noLists]
  places := places

/-- A result with the statement lists of the node, each of them folded. -/
theorem keeps_of_stmtLists {node result : Node} (notIdent : ¬ result.IsIdent)
    (declares : result.declares = node.declares)
    (lists : result.stmtLists = node.stmtLists.map (Stmt.foldAll context))
    (places : PlacesFrom context node.places result.places) : node.Keeps context result where
  ident isIdent := absurd isIdent notIdent
  declares := declares ▸ List.Subset.refl _
  lists stmts isList := by
    rw [lists] at isList
    obtain ⟨source, isSource, rfl⟩ := List.mem_map.mp isList
    exact ⟨source, isSource, rfl⟩
  places := places

variable (context) in
/-- What folding can make of a node, as far as scopes are concerned. -/
inductive KeptOrPart (node : Node) : Node → Prop
  | kept {result : Node} (keeps : node.Keeps context result) : KeptOrPart node result
  /-- The one part that is left, which the node brings no local into scope for. -/
  | part {part : Node} (isPart : .plain part ∈ node.places) : KeptOrPart node (part.fold context)

/-- A boolean literal declares nothing and has no parts that could lose a local. -/
theorem keeps_bool (node : Node) (value : Bool) : node.Keeps context (.ofExpr (.bool value)) :=
  keeps_of_places id rfl rfl (.nil _)

/-- A boolean operator is kept, becomes a literal, or leaves its right operand. -/
theorem keptOrPart_logical (op : LogicalOp) (left right : Expr) :
    (Node.ofExpr (.logical op left right)).KeptOrPart context
      (.ofExpr (Expr.foldedLogical op (left.fold context) (right.fold context))) := by
  have isPart : .plain (.ofExpr right) ∈ (Node.ofExpr (.logical op left right)).places := by
    simp [Node.places, Node.parts, Expr.parts]
  unfold Expr.foldedLogical
  split
  · exact .kept (keeps_bool _ _)
  · exact .part isPart
  · exact .kept (keeps_bool _ _)
  · exact .part isPart
  · exact .kept (keeps_of_places id rfl rfl ((fromFold_expr right).cons.places (by simp)))

/-- A conditional expression is kept or leaves one of its operands. -/
theorem keptOrPart_conditional (condition whenTrue whenFalse : Expr) :
    (Node.ofExpr (.conditional condition whenTrue whenFalse)).KeptOrPart context
      (.ofExpr (Expr.foldedConditional (condition.fold context) (whenTrue.fold context)
        (whenFalse.fold context))) := by
  have truePart : .plain (.ofExpr whenTrue) ∈
      (Node.ofExpr (.conditional condition whenTrue whenFalse)).places := by
    simp [Node.places, Node.parts, Expr.parts]
  have falsePart : .plain (.ofExpr whenFalse) ∈
      (Node.ofExpr (.conditional condition whenTrue whenFalse)).places := by
    simp [Node.places, Node.parts, Expr.parts]
  unfold Expr.foldedConditional
  split
  · exact .part truePart
  · exact .part falsePart
  · exact .kept (keeps_of_places id rfl rfl ((fromFold_expr whenFalse).cons.cons.places (by simp)))

/-- An operator on one operand is kept or becomes a literal. -/
theorem keeps_unary (op : UnaryOp) (operand : Expr) :
    (Node.ofExpr (.unary op operand)).Keeps context
      (.ofExpr (Expr.foldedUnary op (operand.fold context))) := by
  unfold Expr.foldedUnary
  split
  · exact keeps_bool _ _
  · exact keeps_of_places id rfl rfl ((fromFold_expr operand).places (by simp))

/-- Parentheses are kept or leave a literal. -/
theorem keeps_paren (inner : Expr) :
    (Node.ofExpr (.paren inner)).Keeps context (.ofExpr (Expr.foldedParen (inner.fold context))) := by
  unfold Expr.foldedParen
  split
  · exact keeps_bool _ _
  · exact keeps_of_places id rfl rfl ((fromFold_expr inner).places (by simp))

/-- The expressions, one kind after the other. -/
theorem keptOrPart_expr (expr : Expr) :
    (Node.ofExpr expr).KeptOrPart context (.ofExpr (expr.fold context)) := by
  cases expr with
  | undefined | null | bool | number | string | this =>
    exact .kept (keeps_of_places id rfl rfl (.nil _))
  | ident name decl =>
    exact .kept ⟨fun _ => rfl, List.nil_subset _, List.forall_mem_nil _, .nil _⟩
  | template _ exprs | array exprs =>
    exact .kept (keeps_of_places id rfl rfl ((fromFold_exprs exprs).places (by simp)))
  | member inner | spread inner | cast inner | nonNull inner =>
    exact .kept (keeps_of_places id rfl rfl ((fromFold_expr inner).places (by simp)))
  | index _ last | binary _ _ last | compare _ _ last | assign _ last =>
    exact .kept (keeps_of_places id rfl rfl ((fromFold_expr last).cons.places (by simp)))
  | call callee typeArgs args signature =>
    rw [Expr.fold]
    split
    · exact .kept (keeps_bool _ _)
    · exact .kept (keeps_of_places id rfl rfl ((fromFold_exprs args).cons.places (by simp)))
  | new _ _ args =>
    exact .kept (keeps_of_places id rfl rfl ((fromFold_exprs args).cons.places (by simp)))
  | object properties =>
    exact .kept (keeps_of_places id rfl rfl ((fromFold_properties properties).places (by simp)))
  | logical op left right => exact keptOrPart_logical op left right
  | unary op operand => exact .kept (keeps_unary op operand)
  | conditional condition whenTrue whenFalse =>
    exact keptOrPart_conditional condition whenTrue whenFalse
  | paren inner => exact .kept (keeps_paren inner)
  | closure params body =>
    exact .kept (keeps_of_stmtLists id rfl rfl ((Stmt.placesFrom_foldAll body).under params))

/-- A decided `if` leaves one of its branches as a list of its own. -/
theorem keeps_block {node : Node} {body : List Stmt} (isList : body ∈ node.stmtLists)
    (places : Stmt.places body ⊆ node.places) :
    node.Keeps context (.ofStmt (.block (Stmt.foldAll context body))) where
  ident := False.elim
  declares := List.nil_subset _
  lists := List.forall_mem_singleton.mpr ⟨body, isList, rfl⟩
  places := (Stmt.placesFrom_foldAll body).mono places

/-- A decided `if` statement leaves a branch as a block of its own, so that the locals of the branch
stay inside. -/
theorem keeps_if (condition : Expr) (thenBranch : List Stmt) (elseBranch : Option (List Stmt)) :
    (Node.ofStmt (.ifElse condition thenBranch elseBranch)).Keeps context
      (.ofStmt (Stmt.foldedIf (condition.fold context) (Stmt.foldAll context thenBranch)
        (Stmt.foldBranch context elseBranch))) := by
  cases elseBranch with
  | none =>
    unfold Stmt.foldBranch Stmt.foldedIf
    split
    · exact keeps_block List.mem_cons_self (by simp [Node.places])
    · next isBranch => cases isBranch
    · exact keeps_of_places id rfl rfl (.nil _)
    · exact keeps_of_stmtLists id rfl rfl
        ((Stmt.placesFrom_foldAll thenBranch).append (.nil _)).cons
  | some body =>
    unfold Stmt.foldBranch Stmt.foldedIf
    split
    · exact keeps_block List.mem_cons_self (by simp [Node.places])
    · next isBranch =>
      cases isBranch
      exact keeps_block (List.mem_cons_of_mem _ (List.mem_singleton_self body)) (by simp [Node.places])
    · next isBranch => cases isBranch
    · exact keeps_of_stmtLists id rfl rfl
        ((Stmt.placesFrom_foldAll thenBranch).append (Stmt.placesFrom_foldAll body)).cons

/-- A `for` loop is kept with its header, whose local stays in scope in the rest of the loop. -/
theorem keeps_for (init : Option Stmt) (condition update : Option Expr) (body : List Stmt) :
    (Node.ofStmt (.forLoop init condition update body)).Keeps context
      (.ofStmt ((Stmt.forLoop init condition update body).fold context)) := by
  have inner : PlacesFrom context
      ((condition.toList.map Node.ofExpr ++ update.toList.map Node.ofExpr).map Place.plain ++
        Stmt.places body)
      (((Expr.foldOption context condition).toList.map Node.ofExpr ++
        (Expr.foldOption context update).toList.map Node.ofExpr).map Place.plain ++
          Stmt.places (Stmt.foldAll context body)) :=
    (((fromFold_optionExpr condition).append (fromFold_optionExpr update)).places (by simp)).append
      (Stmt.placesFrom_foldAll body)
  refine keeps_of_stmtLists id rfl rfl ?_
  cases init with
  | none => exact inner.under []
  | some init =>
    -- the local of the header is the same one
    simp only [Stmt.fold, Node.places, Stmt.foldOption, Option.elim_some, Stmt.binds_fold]
    exact (PlacesFrom.plain (.ofStmt init)).append (inner.under init.binds)

/-- The statements, one kind after the other. -/
theorem keptOrPart_stmt (stmt : Stmt) :
    (Node.ofStmt stmt).KeptOrPart context (.ofStmt (stmt.fold context)) := by
  refine .kept ?_
  cases stmt with
  | breakLoop | continueLoop | empty => exact keeps_of_places id rfl rfl (.nil _)
  | letDecl decl name type isMutable init =>
    exact keeps_of_stmtLists id rfl rfl ((fromFold_optionExpr init).places (by simp))
  | expr value | throw value =>
    exact keeps_of_places id rfl rfl ((fromFold_expr value).places (by simp))
  | ret value => exact keeps_of_places id rfl rfl ((fromFold_optionExpr value).places (by simp))
  | ifElse condition thenBranch elseBranch => exact keeps_if condition thenBranch elseBranch
  | whileLoop condition body =>
    exact keeps_of_stmtLists id rfl rfl (Stmt.placesFrom_foldAll body).cons
  | forLoop init condition update body => exact keeps_for init condition update body
  | tryCatch body handler finalizer =>
    refine keeps_of_stmtLists id ?_ (stmtLists_fold_tryCatch body handler finalizer)
      ((Stmt.placesFrom_foldAll body).append ((CatchClause.placesFrom_foldOption handler).append
        (Stmt.placesFrom_foldBranch finalizer)))
    cases handler with
    | none => rfl
    | some handler =>
      cases handler
      rfl
  | switch discriminant cases =>
    exact keeps_of_stmtLists id rfl (stmtLists_fold_switch discriminant cases)
      (SwitchCase.placesFrom_foldAll cases).cons
  | block body => exact keeps_of_stmtLists id rfl rfl (Stmt.placesFrom_foldAll body)

/-- Folding keeps a node as far as scopes are concerned, or leaves a part of it. -/
theorem keptOrPart_fold (node : Node) : node.KeptOrPart context (node.fold context) := by
  cases node with
  | ofExpr expr => exact keptOrPart_expr expr
  | ofStmt stmt => exact keptOrPart_stmt stmt

/-- What is seen from a folded node is what folding has kept of a node that is seen from the node, with no
fewer locals in scope. -/
theorem exists_keeps {node inner : Node} {scope : List DeclHandle}
    (sees : (node.fold context).Sees scope inner) :
    ∃ (origin : Node) (origScope : List DeclHandle),
      node.Sees origScope origin ∧ origScope ⊆ scope ∧ origin.Keeps context inner := by
  -- By induction over the node: a part that is left was seen without locals, so nothing is lost from
  -- the scope.
  induction node using Node.induction generalizing scope with
  | step node ih =>
    have kept : node.KeptOrPart context (node.fold context) := keptOrPart_fold node
    generalize node.fold context = whole at kept sees
    cases kept with
    | @part part isPart =>
      obtain ⟨origin, origScope, fromPart, subset, keeps⟩ := ih part (Place.node_mem_parts isPart) sees
      exact ⟨origin, origScope, .insidePlain isPart fromPart, subset, keeps⟩
    | kept keeps =>
      cases sees with
      | self => exact ⟨node, [], .self, List.nil_subset _, keeps⟩
      | @inside _ _ place scope isPlace sees =>
        obtain ⟨source, isSource, binds, opened⟩ := keeps.places place isPlace
        obtain ⟨origin, origScope, fromPart, subset, keeps⟩ :=
          ih source.node (Place.node_mem_parts isSource) (opened.sees sees)
        -- both the locals of the place and those collected below it have only become more
        have larger : origScope ++ source.binds ⊆ scope ++ place.binds :=
          List.append_subset.mpr ⟨List.subset_append_of_subset_left _ subset,
            List.subset_append_of_subset_right _ binds⟩
        exact ⟨origin, origScope ++ source.binds, .inside isSource fromPart, larger, keeps⟩

end Node

/-! ## Bodies -/

namespace Stmt

/-- Folding a body keeps each reference to one of the given locals in the scope of that local. -/
theorem KeepsInScope.foldAll {locals : DeclHandle → Prop} {body : List Stmt}
    (inScope : Stmt.KeepsInScope locals body) :
    Stmt.KeepsInScope locals (Stmt.foldAll context body) := by
  intro scope name decl sees isLocal
  have fromFold : ((Node.ofStmt (.block body)).fold context).Sees scope
      (.ofExpr (.ident name (some decl))) := sees
  obtain ⟨origin, origScope, fromBody, subset, keeps⟩ := Node.exists_keeps fromFold
  -- the identifier is one of the body, in a scope that is no larger
  rw [keeps.ident trivial] at fromBody
  exact subset (inScope origScope name decl fromBody isLocal)

end Stmt

/-- A branch that binds a local of its own and returns it. -/
def Sample.binding : List Stmt :=
  [.letDecl ⟨10⟩ "y" none false (some .null), .ret (some (.ident "y" (some ⟨10⟩)))]

end Overloading
