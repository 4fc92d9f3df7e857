import Overloading.Proofs.Tree
import Overloading.Proofs.Tree.Label
import Overloading.Tree.Rewrite

/-! # Walks in place

A walk in place hands each expression to a visitor and goes on into the parts of what the visitor returns.
Where the visitor leaves the parts alone, the walk comes to the same as handing it the expressions of the
body one after the other (`Stmt.turns_rewriteAll`). The result has the shape of the body, and its expressions
have the heads that the visitor gave them (`Node.Reheaded`). -/

namespace Overloading

/-! ## Changed heads -/

namespace Node

/-- Whether trees differ from others only by the heads of their expressions, which are those of the given
answers: one answer for each expression, in pre-order. -/
inductive Reheaded : List Node → List Expr → List Node → Prop
  | nil : Reheaded [] [] []
  | expr {expr expr' answer : Expr} {inner answers : List Expr} {sources results : List Node}
    (head : SameHead (.ofExpr expr') (.ofExpr answer))
    (inside : Reheaded expr.parts inner expr'.parts) (after : Reheaded sources answers results) :
    Reheaded (.ofExpr expr :: sources) (answer :: (inner ++ answers)) (.ofExpr expr' :: results)
  | stmt {stmt stmt' : Stmt} {inner answers : List Expr} {sources results : List Node}
    (head : SameHead (.ofStmt stmt') (.ofStmt stmt))
    (inside : Reheaded stmt.parts inner stmt'.parts) (after : Reheaded sources answers results) :
    Reheaded (.ofStmt stmt :: sources) (inner ++ answers) (.ofStmt stmt' :: results)

/-- Two lists of trees, each with answers of its own, can be put together. -/
theorem Reheaded.append {sources results sources' results' : List Node} {answers answers' : List Expr}
    (first : Reheaded sources answers results) (second : Reheaded sources' answers' results') :
    Reheaded (sources ++ sources') (answers ++ answers') (results ++ results') := by
  induction first with
  | nil => exact second
  | expr head inside _ _ ih =>
    have joined := Reheaded.expr head inside ih
    rw [← List.append_assoc] at joined
    exact joined
  | stmt head inside _ _ ih =>
    have joined := Reheaded.stmt head inside ih
    rw [← List.append_assoc] at joined
    exact joined

/-- There is one answer for each expression. -/
theorem Reheaded.length_answers {sources results : List Node} {answers : List Expr}
    (reheaded : Reheaded sources answers results) :
    answers.length = (sources.flatMap subexprs).length := by
  induction reheaded with
  | nil => rfl
  | @expr expr _ _ _ _ _ _ _ _ _ ofInside ofAfter =>
    rw [List.flatMap_cons, subexprs, expr.subexprs_eq, List.cons_append, List.length_cons,
      List.length_cons, List.length_append, List.length_append, ofInside, ofAfter]
  | @stmt stmt _ _ _ _ _ _ _ _ ofInside ofAfter =>
    rw [List.flatMap_cons, subexprs, stmt.subexprs_eq, List.length_append, List.length_append, ofInside,
      ofAfter]

/-- The answers determine the result. -/
theorem Reheaded.unique {sources results results' : List Node} {answers : List Expr}
    (reheaded : Reheaded sources answers results) (reheaded' : Reheaded sources answers results') :
    results = results' := by
  induction reheaded generalizing results' with
  | nil =>
    cases reheaded'
    rfl
  | @expr expr expr' answer inner answers sources results head inside after ofInside ofAfter =>
    generalize isAll : answer :: (inner ++ answers) = all at reheaded'
    cases reheaded' with
    | expr head' inside' after' =>
      -- the answers inside the expression are as many on either side
      obtain ⟨rfl, isRest⟩ := List.cons.inj isAll
      obtain ⟨rfl, rfl⟩ := List.append_inj isRest
        (inside.length_answers.trans inside'.length_answers.symm)
      have same : Node.ofExpr expr' = .ofExpr _ :=
        ext (head.1.trans head'.1.symm) (head.2.trans head'.2.symm) (ofInside inside')
      rw [same, ofAfter after']
  | @stmt stmt stmt' inner answers sources results head inside after ofInside ofAfter =>
    generalize isAll : inner ++ answers = all at reheaded'
    cases reheaded' with
    | stmt head' inside' after' =>
      obtain ⟨rfl, rfl⟩ := List.append_inj isAll
        (inside.length_answers.trans inside'.length_answers.symm)
      have same : Node.ofStmt stmt' = .ofStmt _ :=
        ext (head.1.trans head'.1.symm) (head.2.trans head'.2.symm) (ofInside inside')
      rw [same, ofAfter after']

end Node

/-! ## Actions that turn trees into others -/

section Turns

variable {σ : Type} {α β : Type} (visit : Expr → StateM σ Expr)

/-- Handing a list to the visitor starts with its first expression. -/
theorem mapM_cons_apply (expr : Expr) (exprs : List Expr) (state : σ) :
    (expr :: exprs).mapM visit state =
      ((visit expr state).1 :: (exprs.mapM visit (visit expr state).2).1,
        (exprs.mapM visit (visit expr state).2).2) := by
  rw [List.mapM_cons]
  rfl

/-- Handing two lists to the visitor goes on with the state that the first list leads to. -/
theorem mapM_append_apply (exprs others : List Expr) (state : σ) :
    (exprs ++ others).mapM visit state =
      ((exprs.mapM visit state).1 ++ (others.mapM visit (exprs.mapM visit state).2).1,
        (others.mapM visit (exprs.mapM visit state).2).2) := by
  rw [List.mapM_append]
  rfl

/-- Whether an action hands the expressions of trees to the visitor in order, and gives a value that is good
for the trees with the heads of the answers. -/
def Turns (sources : List Node) (action : StateT σ Option α) (good : List Node → α → Prop) : Prop :=
  ∀ state, ∃ value results,
    action state = some (value, ((sources.flatMap Node.subexprs).mapM visit state).2) ∧
    Node.Reheaded sources ((sources.flatMap Node.subexprs).mapM visit state).1 results ∧
    good results value

/-- Whether a value has the given nodes for its parts, and the label of another value. -/
def Rebuilt (parts : α → List Node) (label : α → β) (source : α) (results : List Node) (value : α) :
    Prop :=
  results = parts value ∧ label value = label source

variable {visit}

/-- An action that only gives a value visits no tree. -/
theorem turns_pure {good : List Node → α → Prop} {value : α} (isGood : good [] value) :
    Turns visit [] (pure value) good :=
  fun _ => ⟨value, [], rfl, .nil, isGood⟩

/-- Two actions in a row turn the trees of the first and then those of the second. -/
theorem Turns.bind {sources others : List Node} {first : StateT σ Option α}
    {next : α → StateT σ Option β} {good : List Node → α → Prop} {better : List Node → β → Prop}
    (turns : Turns visit sources first good)
    (rest : ∀ results value, good results value →
      Turns visit others (next value) fun more => better (results ++ more)) :
    Turns visit (sources ++ others) (first >>= next) better := by
  intro state
  obtain ⟨value, results, run, reheaded, isGood⟩ := turns state
  obtain ⟨final, more, run', reheaded', isBetter⟩ := rest results value isGood _
  rw [List.flatMap_append, mapM_append_apply]
  refine ⟨final, results ++ more, ?_, reheaded.append reheaded', isBetter⟩
  have step : (first >>= next) state = (first state).bind fun pair => next pair.1 pair.2 := rfl
  rw [step, run, Option.bind_some, run']

/-- A last step that only puts values together turns nothing. -/
theorem Turns.bind_pure {sources : List Node} {first : StateT σ Option α} {f : α → β}
    {good : List Node → α → Prop} {better : List Node → β → Prop} (turns : Turns visit sources first good)
    (rest : ∀ results value, good results value → better results (f value)) :
    Turns visit sources (first >>= fun value => pure (f value)) better := by
  have all : Turns visit (sources ++ []) (first >>= fun value => pure (f value)) better := by
    refine turns.bind fun results value isGood => turns_pure ?_
    rw [List.append_nil]
    exact rest results value isGood
  rwa [List.append_nil] at all

/-- An action on the parts of a statement turns the statement, if it keeps the label. -/
theorem turns_stmt {stmt : Stmt} {action : StateT σ Option Stmt}
    (turns : Turns visit stmt.parts action (Rebuilt Stmt.parts Stmt.label stmt)) :
    Turns visit [.ofStmt stmt] action fun results stmt' => results = [.ofStmt stmt'] := by
  intro state
  obtain ⟨stmt', _, run, reheaded, rfl, sameLabel⟩ := turns state
  have head : Node.SameHead (.ofStmt stmt') (.ofStmt stmt) := ⟨congrArg Node.ofStmt sameLabel, rfl⟩
  have whole := Node.Reheaded.stmt head reheaded .nil
  rw [List.append_nil] at whole
  rw [List.flatMap_singleton, Node.subexprs, stmt.subexprs_eq]
  exact ⟨stmt', _, run, whole, rfl⟩

end Turns

/-! ## Expressions and statements -/

section Walk

variable {σ : Type} {visit : Expr → StateM σ Expr} {walk : Expr → StateT σ Option Expr}

variable (visit walk) in
/-- Whether an action turns an expression into another one. -/
def Expr.TurnedBy (expr : Expr) : Prop :=
  Turns visit [.ofExpr expr] (walk expr) fun results expr' => results = [.ofExpr expr']

/-- An expression is one of its own subexpressions. -/
theorem Expr.self_mem_subexprs (expr : Expr) : expr ∈ expr.subexprs := by
  rw [Expr.subexprs_eq]
  exact List.mem_cons_self

/-- Walking through a list of expressions turns its trees in order. -/
theorem Expr.turns_mapM {exprs : List Expr}
    (each : ∀ sub ∈ Expr.subexprsAll exprs, sub.TurnedBy visit walk) :
    Turns visit (exprs.map .ofExpr) (exprs.mapM walk)
      (Rebuilt (List.map .ofExpr) Expr.blanks exprs) := by
  induction exprs with
  | nil => exact turns_pure ⟨rfl, rfl⟩
  | cons expr exprs ih =>
    obtain ⟨ofFirst, ofRest⟩ := List.forall_mem_append.mp each
    rw [List.mapM_cons]
    refine (ofFirst expr expr.self_mem_subexprs).bind ?_
    rintro _ expr' rfl
    refine (ih ofRest).bind_pure ?_
    rintro _ exprs' ⟨rfl, blanks⟩
    exact ⟨rfl, congrArg (Expr.undefined :: ·) blanks⟩

/-- Walking through the properties of an object literal turns the trees of its values in order. -/
theorem Expr.turns_properties {properties : List (String × Expr)}
    (each : ∀ sub ∈ Expr.subexprsProperties properties, sub.TurnedBy visit walk) :
    Turns visit (properties.map fun property => .ofExpr property.2)
      (properties.mapM fun property => return (property.1, ← walk property.2))
      (Rebuilt (List.map fun property => .ofExpr property.2)
        (List.map fun property => (property.1, Expr.undefined)) properties) := by
  induction properties with
  | nil => exact turns_pure ⟨rfl, rfl⟩
  | cons property properties ih =>
    obtain ⟨ofFirst, ofRest⟩ := List.forall_mem_append.mp each
    rw [List.mapM_cons, bind_assoc]
    refine (ofFirst property.2 property.2.self_mem_subexprs).bind ?_
    rintro _ value rfl
    rw [pure_bind]
    refine (ih ofRest).bind_pure ?_
    rintro _ others ⟨rfl, blanks⟩
    exact ⟨rfl, congrArg ((property.1, Expr.undefined) :: ·) blanks⟩

/-- Walking into an expression that may be missing turns its tree if it is there. -/
theorem Expr.turns_forOption {expr : Option Expr}
    (each : ∀ sub ∈ Expr.subexprsOption expr, sub.TurnedBy visit walk) :
    Turns visit (expr.toList.map .ofExpr) (Expr.forOption walk expr)
      (Rebuilt (fun expr => expr.toList.map .ofExpr) (Option.map fun _ => Expr.undefined) expr) := by
  cases expr with
  | none => exact turns_pure ⟨rfl, rfl⟩
  | some expr =>
    refine (each expr expr.self_mem_subexprs).bind_pure ?_
    rintro _ expr' rfl
    exact ⟨rfl, rfl⟩

mutual
/-- Applying the action to the outermost expressions of a statement turns the statement. -/
theorem Stmt.turns_forExprs : ∀ {stmt : Stmt},
    (∀ sub ∈ stmt.subexprs, sub.TurnedBy visit walk) →
    Turns visit [.ofStmt stmt] (Stmt.forExprs walk stmt) fun results stmt' => results = [.ofStmt stmt']
  | .letDecl decl name type isMutable _, each => by
    -- each case runs through the parts in the order of the walk, and then compares what is put together
    -- again
    rw [Stmt.forExprs]
    refine turns_stmt ((Expr.turns_forOption each).bind_pure ?_)
    rintro _ init ⟨rfl, same⟩
    exact ⟨rfl, congrArg (Stmt.letDecl decl name type isMutable) same⟩
  | .ret _, each => by
    rw [Stmt.forExprs]
    refine turns_stmt ((Expr.turns_forOption each).bind_pure ?_)
    rintro _ value ⟨rfl, same⟩
    exact ⟨rfl, congrArg Stmt.ret same⟩
  | .expr value, each | .throw value, each => by
    rw [Stmt.forExprs]
    refine turns_stmt ((each value value.self_mem_subexprs).bind_pure ?_)
    rintro _ value' rfl
    exact ⟨rfl, rfl⟩
  | .ifElse condition _ _, each => by
    simp only [Stmt.subexprs, List.forall_mem_append] at each
    rw [Stmt.forExprs]
    refine turns_stmt ((each.1 condition condition.self_mem_subexprs).bind ?_)
    rintro _ condition' rfl
    refine (Stmt.turns_forExprsAll each.2.1).bind ?_
    rintro _ thenBranch ⟨rfl, sameThen⟩
    refine (Stmt.turns_forExprsBranch each.2.2).bind_pure ?_
    rintro _ elseBranch ⟨rfl, sameElse⟩
    exact ⟨rfl, congrArg₂ (Stmt.ifElse .undefined) sameThen sameElse⟩
  | .whileLoop condition _, each => by
    simp only [Stmt.subexprs, List.forall_mem_append] at each
    rw [Stmt.forExprs]
    refine turns_stmt ((each.1 condition condition.self_mem_subexprs).bind ?_)
    rintro _ condition' rfl
    refine (Stmt.turns_forExprsAll each.2).bind_pure ?_
    rintro _ body ⟨rfl, same⟩
    exact ⟨rfl, congrArg (Stmt.whileLoop .undefined) same⟩
  | .forLoop _ _ _ _, each => by
    simp only [Stmt.subexprs, List.forall_mem_append] at each
    rw [Stmt.forExprs]
    refine turns_stmt ((Stmt.turns_forExprsOption each.1).bind ?_)
    rintro _ init ⟨rfl, sameInit⟩
    refine (Expr.turns_forOption each.2.1).bind ?_
    rintro _ condition ⟨rfl, sameCondition⟩
    refine (Expr.turns_forOption each.2.2.1).bind ?_
    rintro _ update ⟨rfl, sameUpdate⟩
    refine (Stmt.turns_forExprsAll each.2.2.2).bind_pure ?_
    rintro _ body ⟨rfl, sameBody⟩
    refine ⟨rfl, ?_⟩
    rw [Stmt.label, Stmt.label, sameInit, sameCondition, sameUpdate, sameBody]
  | .breakLoop, _ | .continueLoop, _ | .empty, _ => by
    rw [Stmt.forExprs]
    exact turns_stmt (turns_pure ⟨rfl, rfl⟩)
  | .tryCatch _ _ _, each => by
    simp only [Stmt.subexprs, List.forall_mem_append] at each
    rw [Stmt.forExprs]
    refine turns_stmt ((Stmt.turns_forExprsAll each.1).bind ?_)
    rintro _ body ⟨rfl, sameBody⟩
    refine (CatchClause.turns_forExprsOption each.2.1).bind ?_
    rintro _ handler ⟨rfl, sameHandler⟩
    refine (Stmt.turns_forExprsBranch each.2.2).bind_pure ?_
    rintro _ finalizer ⟨rfl, sameFinalizer⟩
    refine ⟨rfl, ?_⟩
    rw [Stmt.label, Stmt.label, sameBody, sameHandler, sameFinalizer]
  | .switch discriminant _, each => by
    simp only [Stmt.subexprs, List.forall_mem_append] at each
    rw [Stmt.forExprs]
    refine turns_stmt ((each.1 discriminant discriminant.self_mem_subexprs).bind ?_)
    rintro _ discriminant' rfl
    refine (SwitchCase.turns_forExprsAll each.2).bind_pure ?_
    rintro _ cases ⟨rfl, same⟩
    exact ⟨rfl, congrArg (Stmt.switch .undefined) same⟩
  | .block _, each => by
    rw [Stmt.forExprs]
    refine turns_stmt ((Stmt.turns_forExprsAll each).bind_pure ?_)
    rintro _ body ⟨rfl, same⟩
    exact ⟨rfl, congrArg Stmt.block same⟩
/-- Walking through a list of statements turns its trees in order. -/
theorem Stmt.turns_forExprsAll : ∀ {stmts : List Stmt},
    (∀ sub ∈ Stmt.subexprsAll stmts, sub.TurnedBy visit walk) →
    Turns visit (stmts.map .ofStmt) (Stmt.forExprsAll walk stmts)
      (Rebuilt (List.map .ofStmt) Stmt.blanks stmts)
  | [], _ => turns_pure ⟨rfl, rfl⟩
  | _ :: _, each => by
    obtain ⟨ofFirst, ofRest⟩ := List.forall_mem_append.mp each
    refine (Stmt.turns_forExprs ofFirst).bind ?_
    rintro _ stmt' rfl
    refine (Stmt.turns_forExprsAll ofRest).bind_pure ?_
    rintro _ stmts' ⟨rfl, blanks⟩
    exact ⟨rfl, congrArg (Stmt.empty :: ·) blanks⟩
/-- Walking into a statement that may be missing turns its tree if it is there. -/
theorem Stmt.turns_forExprsOption : ∀ {stmt : Option Stmt},
    (∀ sub ∈ Stmt.subexprsOption stmt, sub.TurnedBy visit walk) →
    Turns visit (stmt.toList.map .ofStmt) (Stmt.forExprsOption walk stmt)
      (Rebuilt (fun stmt => stmt.toList.map .ofStmt) (Option.map fun _ => Stmt.empty) stmt)
  | none, _ => turns_pure ⟨rfl, rfl⟩
  | some _, each => by
    refine (Stmt.turns_forExprs each).bind_pure ?_
    rintro _ stmt' rfl
    exact ⟨rfl, rfl⟩
/-- Walking through a branch turns the trees of its statements in order. -/
theorem Stmt.turns_forExprsBranch : ∀ {branch : Option (List Stmt)},
    (∀ sub ∈ Stmt.subexprsBranch branch, sub.TurnedBy visit walk) →
    Turns visit ((branch.getD []).map .ofStmt) (Stmt.forExprsBranch walk branch)
      (Rebuilt (fun branch => (branch.getD []).map .ofStmt) (Option.map Stmt.blanks) branch)
  | none, _ => turns_pure ⟨rfl, rfl⟩
  | some _, each => by
    refine (Stmt.turns_forExprsAll each).bind_pure ?_
    rintro _ body ⟨rfl, blanks⟩
    exact ⟨rfl, congrArg some blanks⟩
/-- Walking through a handler turns the trees of its statements in order. -/
theorem CatchClause.turns_forExprsOption : ∀ {handler : Option CatchClause},
    (∀ sub ∈ CatchClause.subexprsOption handler, sub.TurnedBy visit walk) →
    Turns visit ((handler.elim [] CatchClause.body).map .ofStmt)
      (CatchClause.forExprsOption walk handler)
      (Rebuilt (fun handler => (handler.elim [] CatchClause.body).map .ofStmt)
        (Option.map CatchClause.label) handler)
  | none, _ => turns_pure ⟨rfl, rfl⟩
  | some ⟨param, _⟩, each => by
    refine (Stmt.turns_forExprsAll each).bind_pure ?_
    rintro _ body ⟨rfl, blanks⟩
    exact ⟨rfl, congrArg (fun body => some (CatchClause.mk param body)) blanks⟩
/-- Walking through the arms of a `switch` statement turns the trees of their parts in order. -/
theorem SwitchCase.turns_forExprsAll : ∀ {cases : List SwitchCase},
    (∀ sub ∈ SwitchCase.subexprsAll cases, sub.TurnedBy visit walk) →
    Turns visit (cases.flatMap SwitchCase.parts) (SwitchCase.forExprsAll walk cases)
      (Rebuilt (List.flatMap SwitchCase.parts) (List.map SwitchCase.label) cases)
  | [], _ => turns_pure ⟨rfl, rfl⟩
  | ⟨_, _⟩ :: _, each => by
    simp only [SwitchCase.subexprsAll, List.forall_mem_append] at each
    rw [List.flatMap_cons, SwitchCase.parts, List.append_assoc]
    refine (Expr.turns_forOption each.1).bind ?_
    rintro _ test ⟨rfl, sameTest⟩
    refine (Stmt.turns_forExprsAll each.2.1).bind ?_
    rintro _ body ⟨rfl, sameBody⟩
    refine (SwitchCase.turns_forExprsAll each.2.2).bind_pure ?_
    rintro _ cases ⟨rfl, sameCases⟩
    refine ⟨by simp [SwitchCase.parts], ?_⟩
    rw [List.map_cons, List.map_cons, SwitchCase.label, SwitchCase.label, sameTest, sameBody, sameCases]
end

/-- Applying the action to the parts of an expression turns the parts and keeps the head. -/
theorem Expr.turns_forParts {expr : Expr}
    (each : ∀ sub ∈ expr.subexprs.tail, sub.TurnedBy visit walk) :
    Turns visit expr.parts (expr.forParts walk) fun results expr' =>
      results = expr'.parts ∧ Node.SameHead (.ofExpr expr') (.ofExpr expr) := by
  -- The parts have answers of their own, which `bind` takes one after the other; the head stays.
  cases expr with
  | undefined | null | bool | number | string | ident | this => exact turns_pure ⟨rfl, rfl, rfl⟩
  | template quasis =>
    refine (Expr.turns_mapM each).bind_pure ?_
    rintro _ parts ⟨rfl, blanks⟩
    exact ⟨rfl, congrArg (fun parts => Node.ofExpr (.template quasis parts)) blanks, rfl⟩
  | array =>
    refine (Expr.turns_mapM each).bind_pure ?_
    rintro _ items ⟨rfl, blanks⟩
    exact ⟨rfl, congrArg (fun items => Node.ofExpr (.array items)) blanks, rfl⟩
  | object =>
    refine (Expr.turns_properties each).bind_pure ?_
    rintro _ properties ⟨rfl, blanks⟩
    exact ⟨rfl, congrArg (fun properties => Node.ofExpr (.object properties)) blanks, rfl⟩
  | closure params =>
    refine (Stmt.turns_forExprsAll each).bind_pure ?_
    rintro _ body ⟨rfl, blanks⟩
    exact ⟨rfl, congrArg (fun body => Node.ofExpr (.closure params body)) blanks, rfl⟩
  | member inner | unary _ inner | spread inner | cast inner | nonNull inner | paren inner =>
    refine (each inner inner.self_mem_subexprs).bind_pure ?_
    rintro _ inner' rfl
    exact ⟨rfl, rfl, rfl⟩
  | index left right | binary _ left right | compare _ left right | logical _ left right
  | assign left right =>
    obtain ⟨ofLeft, ofRight⟩ := List.forall_mem_append.mp each
    refine (ofLeft left left.self_mem_subexprs).bind ?_
    rintro _ left' rfl
    refine (ofRight right right.self_mem_subexprs).bind_pure ?_
    rintro _ right' rfl
    exact ⟨rfl, rfl, rfl⟩
  | conditional condition whenTrue whenFalse =>
    obtain ⟨ofCondition, rest⟩ := List.forall_mem_append.mp each
    obtain ⟨ofTrue, ofFalse⟩ := List.forall_mem_append.mp rest
    refine (ofCondition condition condition.self_mem_subexprs).bind ?_
    rintro _ condition' rfl
    refine (ofTrue whenTrue whenTrue.self_mem_subexprs).bind ?_
    rintro _ whenTrue' rfl
    refine (ofFalse whenFalse whenFalse.self_mem_subexprs).bind_pure ?_
    rintro _ whenFalse' rfl
    exact ⟨rfl, rfl, rfl⟩
  | call callee typeArgs =>
    obtain ⟨ofCallee, ofArgs⟩ := List.forall_mem_append.mp each
    refine (ofCallee callee callee.self_mem_subexprs).bind ?_
    rintro _ callee' rfl
    refine (Expr.turns_mapM ofArgs).bind_pure ?_
    rintro _ args ⟨rfl, blanks⟩
    exact ⟨rfl, congrArg (fun args => Node.ofExpr (.call .undefined typeArgs args none)) blanks, rfl⟩
  | new callee typeArgs =>
    obtain ⟨ofCallee, ofArgs⟩ := List.forall_mem_append.mp each
    refine (ofCallee callee callee.self_mem_subexprs).bind ?_
    rintro _ callee' rfl
    refine (Expr.turns_mapM ofArgs).bind_pure ?_
    rintro _ args ⟨rfl, blanks⟩
    exact ⟨rfl, congrArg (fun args => Node.ofExpr (.new .undefined typeArgs args none)) blanks, rfl⟩

end Walk

/-! ## Walks -/

section Sizes

/-- What stands inside a node is no larger than the node. -/
theorem Node.Within.sizeOf_le {inner node : Node} (within : inner.Within node) :
    sizeOf inner ≤ sizeOf node := by
  induction within with
  | refl => exact Nat.le_refl _
  | tail _ isPart ih => exact Nat.le_of_lt (Nat.lt_of_le_of_lt ih (sizeOf_lt_of_mem_parts isPart))

/-- The subexpressions of a node are no larger than the node. -/
theorem Node.sizeOf_le_of_mem_subexprs {sub : Expr} {node : Node} (mem : sub ∈ node.subexprs) :
    sizeOf (Node.ofExpr sub) ≤ sizeOf node := by
  rw [Node.subexprs_eq_preorder, List.mem_filterMap] at mem
  obtain ⟨inner, isInner, isSub⟩ := mem
  cases inner with
  | ofExpr expr =>
    cases isSub
    exact (mem_preorder_iff_within.mp isInner).sizeOf_le
  | ofStmt stmt => cases isSub

/-- The subexpressions of an expression other than itself are smaller. -/
theorem Expr.sizeOf_lt_of_mem_tail {sub expr : Expr} (mem : sub ∈ expr.subexprs.tail) :
    sizeOf sub < sizeOf expr := by
  rw [Expr.subexprs_eq, List.tail_cons, List.mem_flatMap] at mem
  obtain ⟨part, isPart, mem⟩ := mem
  have small : sizeOf part < sizeOf (Node.ofExpr expr) := Node.sizeOf_lt_of_mem_parts isPart
  have inside : sizeOf (Node.ofExpr sub) ≤ sizeOf part := Node.sizeOf_le_of_mem_subexprs mem
  simp only [Node.ofExpr.sizeOf_spec] at small inside
  omega

/-- The subexpressions of a body are smaller than the body, so its size is depth enough for the walk. -/
theorem Stmt.sizeOf_lt_of_mem_subexprsAll {sub : Expr} {body : List Stmt}
    (mem : sub ∈ Stmt.subexprsAll body) : sizeOf sub < sizeOf body := by
  obtain ⟨stmt, isStmt, within⟩ := Stmt.mem_subexprsAll_iff.mp mem
  have small : sizeOf stmt < sizeOf body := List.sizeOf_lt_of_mem isStmt
  have inside : sizeOf (Node.ofExpr sub) ≤ sizeOf (Node.ofStmt stmt) := within.sizeOf_le
  simp only [Node.ofExpr.sizeOf_spec, Node.ofStmt.sizeOf_spec] at inside
  omega

end Sizes

section Rewrite

variable {σ : Type} {visit : Expr → StateM σ Expr}

/-- A visitor that keeps the parts turns each expression for which the limit is high enough. -/
theorem Expr.turnedBy_rewrite (keeps : ∀ expr state, (visit expr state).1.parts = expr.parts)
    {limit : Nat} {expr : Expr} (enough : sizeOf expr ≤ limit) :
    expr.TurnedBy visit (Expr.rewrite visit limit) := by
  induction limit generalizing expr with
  | zero => cases expr <;> simp at enough
  | succ limit ih =>
    intro state
    -- the walk goes on into the answer, but the parts there are those of the expression
    have sameTail : (visit expr state).1.subexprs.tail = expr.subexprs.tail := by
      rw [Expr.subexprs_eq, Expr.subexprs_eq, keeps]
      rfl
    have inner : Turns visit (visit expr state).1.parts
        ((visit expr state).1.forParts (Expr.rewrite visit limit)) fun results expr' =>
          results = expr'.parts ∧ Node.SameHead (.ofExpr expr') (.ofExpr (visit expr state).1) := by
      refine Expr.turns_forParts fun sub mem => ih ?_
      rw [sameTail] at mem
      have smaller : sizeOf sub < sizeOf expr := Expr.sizeOf_lt_of_mem_tail mem
      omega
    obtain ⟨expr', _, run, reheaded, rfl, head⟩ := inner (visit expr state).2
    rw [keeps] at run reheaded
    have whole := Node.Reheaded.expr head reheaded .nil
    rw [List.append_nil] at whole
    rw [List.flatMap_singleton, Node.subexprs, Expr.subexprs_eq, mapM_cons_apply]
    exact ⟨expr', _, run, whole, rfl⟩

/-- **A walk in place turns a body.** -/
theorem Stmt.turns_rewriteAll (keeps : ∀ expr state, (visit expr state).1.parts = expr.parts)
    {limit : Nat} {body : List Stmt} (enough : sizeOf body ≤ limit) :
    Turns visit (body.map .ofStmt) (Stmt.rewriteAll visit limit body)
      (Rebuilt (List.map .ofStmt) Stmt.blanks body) := by
  refine Stmt.turns_forExprsAll fun sub mem => Expr.turnedBy_rewrite keeps ?_
  have smaller : sizeOf sub < sizeOf body := Stmt.sizeOf_lt_of_mem_subexprsAll mem
  omega

end Rewrite

end Overloading
