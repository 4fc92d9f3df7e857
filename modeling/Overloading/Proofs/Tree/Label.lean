import Mathlib.Data.List.Forall2
import Overloading.Proofs.Tree
import Overloading.Tree.Rewrite

/-! # Trees as lists of labels

The label of a node is the node without its signature and with blanks in the place of its parts. It tells
how many parts there are, so a body can be read off the list of its nodes in pre-order if only the label
and the signature of each is known (`Stmt.eq_of_nodes`). What happens to a body may thus be said node by
node. -/

namespace Overloading

/-! ## Labels -/

/-- Statements that only keep the place of others. -/
def Stmt.blanks (stmts : List Stmt) : List Stmt := stmts.map fun _ => .empty

/-- Expressions that only keep the place of others. -/
def Expr.blanks (exprs : List Expr) : List Expr := exprs.map fun _ => .undefined

/-- An expression without its parts and without its signature. -/
def Expr.label : Expr → Expr
  | .template quasis parts => .template quasis (Expr.blanks parts)
  | .member _ property decl => .member .undefined property decl
  | .index _ _ => .index .undefined .undefined
  | .call _ typeArgs args _ => .call .undefined typeArgs (Expr.blanks args) none
  | .new _ typeArgs args _ => .new .undefined typeArgs (Expr.blanks args) none
  | .binary op _ _ => .binary op .undefined .undefined
  | .compare op _ _ => .compare op .undefined .undefined
  | .logical op _ _ => .logical op .undefined .undefined
  | .unary op _ => .unary op .undefined
  | .conditional _ _ _ => .conditional .undefined .undefined .undefined
  | .assign _ _ => .assign .undefined .undefined
  | .array items => .array (Expr.blanks items)
  | .object properties => .object (properties.map fun property => (property.1, .undefined))
  | .spread _ => .spread .undefined
  | .cast _ type => .cast .undefined type
  | .nonNull _ => .nonNull .undefined
  | .paren _ => .paren .undefined
  | .closure params body => .closure params (Stmt.blanks body)
  | leaf => leaf

/-- An arm of a `switch` statement without its parts. -/
def SwitchCase.label : SwitchCase → SwitchCase
  | ⟨test, body⟩ => ⟨test.map fun _ => .undefined, Stmt.blanks body⟩

/-- A handler without its parts. -/
def CatchClause.label : CatchClause → CatchClause
  | ⟨param, body⟩ => ⟨param, Stmt.blanks body⟩

/-- A statement without its parts. -/
def Stmt.label : Stmt → Stmt
  | .letDecl decl name type isMutable init =>
    .letDecl decl name type isMutable (init.map fun _ => .undefined)
  | .expr _ => .expr .undefined
  | .ret value => .ret (value.map fun _ => .undefined)
  | .ifElse _ thenBranch elseBranch =>
    .ifElse .undefined (Stmt.blanks thenBranch) (elseBranch.map Stmt.blanks)
  | .whileLoop _ body => .whileLoop .undefined (Stmt.blanks body)
  | .forLoop init condition update body =>
    .forLoop (init.map fun _ => .empty) (condition.map fun _ => .undefined)
      (update.map fun _ => .undefined) (Stmt.blanks body)
  | .throw _ => .throw .undefined
  | .tryCatch body handler finalizer =>
    .tryCatch (Stmt.blanks body) (handler.map CatchClause.label) (finalizer.map Stmt.blanks)
  | .switch _ cases => .switch .undefined (cases.map SwitchCase.label)
  | .block body => .block (Stmt.blanks body)
  | leaf => leaf

namespace Node

/-- A node without its parts and without its signature. -/
def label : Node → Node
  | .ofExpr expr => .ofExpr expr.label
  | .ofStmt stmt => .ofStmt stmt.label

/-- The signature that a node was resolved to, if it is a call or instantiation. -/
def signature? : Node → Option DeclHandle
  | .ofExpr expr => expr.signature?
  | .ofStmt _ => none

end Node

/-! ## A node is its label, its signature and its parts -/

/-- Blanking keeps the number of statements. -/
theorem Stmt.length_blanks (stmts : List Stmt) : (Stmt.blanks stmts).length = stmts.length :=
  List.length_map _

/-- Lists that are the same once blanked are of the same length. -/
theorem Stmt.length_eq_of_blanks {stmts others : List Stmt}
    (same : Stmt.blanks stmts = Stmt.blanks others) : stmts.length = others.length := by
  rw [← Stmt.length_blanks stmts, same, Stmt.length_blanks]

namespace Node

/-- Lists of expressions are the same if they are as nodes. -/
theorem map_ofExpr_inj {exprs others : List Expr} :
    exprs.map Node.ofExpr = others.map Node.ofExpr ↔ exprs = others :=
  List.map_inj_right fun _ _ same => Node.ofExpr.inj same

theorem map_ofStmt_inj {stmts others : List Stmt} :
    stmts.map Node.ofStmt = others.map Node.ofStmt ↔ stmts = others :=
  List.map_inj_right fun _ _ same => Node.ofStmt.inj same

/-- The label of an arm has as many parts as the arm. -/
theorem length_parts_arm (arm : SwitchCase) : arm.label.parts.length = arm.parts.length := by
  obtain ⟨test, body⟩ := arm
  cases test <;> simp [SwitchCase.label, SwitchCase.parts, Stmt.blanks]

/-- The labels of arms have as many parts as the arms. -/
theorem length_parts_arms (cases : List SwitchCase) :
    ((cases.map SwitchCase.label).flatMap SwitchCase.parts).length =
      (cases.flatMap SwitchCase.parts).length := by
  simp only [List.flatMap_map, List.length_flatMap, length_parts_arm]

/-- The label of a branch has as many statements as the branch. -/
theorem length_branch (branch : Option (List Stmt)) :
    ((branch.map Stmt.blanks).getD []).length = (branch.getD []).length := by
  cases branch with
  | none => rfl
  | some body => exact Stmt.length_blanks body

/-- The label of a handler has as many statements as the handler. -/
theorem length_handler (handler : Option CatchClause) :
    ((handler.map CatchClause.label).elim [] CatchClause.body).length =
      (handler.elim [] CatchClause.body).length := by
  cases handler with
  | none => rfl
  | some handler =>
    obtain ⟨_, body⟩ := handler
    exact Stmt.length_blanks body

/-- A label has as many parts as the node. -/
theorem length_parts_label (node : Node) : node.label.parts.length = node.parts.length := by
  match node with
  | .ofExpr expr =>
    cases expr <;> simp [label, Expr.label, parts, Expr.parts, Expr.blanks, Stmt.blanks]
  | .ofStmt stmt =>
    cases stmt with
    | letDecl _ _ _ _ init => cases init <;> rfl
    | ret value => cases value <;> rfl
    | ifElse _ _ elseBranch =>
      simp only [label, Stmt.label, parts, Stmt.parts, List.length_cons, List.length_append,
        List.length_map, Stmt.length_blanks, length_branch]
    | forLoop init condition update _ =>
      cases init <;> cases condition <;> cases update <;>
        simp [label, Stmt.label, parts, Stmt.parts, Stmt.length_blanks]
    | tryCatch _ handler finalizer =>
      simp only [label, Stmt.label, parts, Stmt.parts, List.length_append, List.length_map,
        Stmt.length_blanks, length_handler, length_branch]
    | switch _ cases => exact congrArg (· + 1) (length_parts_arms cases)
    | _ => simp [label, Stmt.label, parts, Stmt.parts, Stmt.length_blanks]

/-- The properties of an object literal are given by their names and their values. -/
theorem properties_ext {properties others : List (String × Expr)}
    (same : properties.map (fun property => (property.1, Expr.undefined)) =
      others.map fun property => (property.1, Expr.undefined))
    (sameParts : (properties.map fun property => Node.ofExpr property.2) =
      others.map fun property => Node.ofExpr property.2) : properties = others := by
  have names : properties.map Prod.fst = others.map Prod.fst := by
    simpa [Function.comp_def] using congrArg (List.map Prod.fst) same
  have values : properties.map Prod.snd = others.map Prod.snd := by
    rw [← map_ofExpr_inj, List.map_map, List.map_map]
    exact sameParts
  rw [← List.zip_unzip properties, ← List.zip_unzip others, List.unzip_fst, List.unzip_fst,
    List.unzip_snd, List.unzip_snd, names, values]

/-- An expression is given by its label, its signature and its parts. -/
theorem expr_ext {expr other : Expr} (same : expr.label = other.label)
    (signature : expr.signature? = other.signature?) (sameParts : expr.parts = other.parts) :
    expr = other := by
  cases expr <;> cases other <;>
    simp_all [Expr.label, Expr.signature?, Expr.parts, map_ofExpr_inj, map_ofStmt_inj]
  case object.object => exact properties_ext same sameParts

/-- A part that may be missing is given by the list of nodes that it makes up. -/
theorem option_ext {α : Type} {part other : Option α} {node : α → Node}
    (injective : ∀ a b, node a = node b → a = b)
    (sameParts : part.toList.map node = other.toList.map node) : part = other := by
  cases part <;> cases other
  case some.some part other => rw [injective part other (List.cons.inj sameParts).1]
  case none.none => rfl
  all_goals cases sameParts

/-- Whether a part is missing is told by its label. -/
theorem length_option {α : Type} {part other : Option α} {blank : α}
    (same : (part.map fun _ => blank) = other.map fun _ => blank) :
    part.toList.length = other.toList.length := by
  match part, other with
  | none, none | some _, some _ => rfl
  | none, some _ | some _, none => cases same

/-- A branch that may be missing is given by its label and its statements. -/
theorem branch_ext {branch other : Option (List Stmt)}
    (same : branch.map Stmt.blanks = other.map Stmt.blanks)
    (sameParts : branch.getD [] = other.getD []) : branch = other := by
  cases branch <;> cases other <;> simp_all

/-- A handler that may be missing is given by its label and its statements. -/
theorem handler_ext {handler other : Option CatchClause}
    (same : handler.map CatchClause.label = other.map CatchClause.label)
    (sameParts : handler.elim [] CatchClause.body = other.elim [] CatchClause.body) :
    handler = other := by
  cases handler <;> cases other <;> simp_all
  next handler other =>
  obtain ⟨param, body⟩ := handler
  obtain ⟨param', body'⟩ := other
  simp_all [CatchClause.label, CatchClause.body]

/-- An arm is given by its label and its parts. -/
theorem arm_ext {arm other : SwitchCase} (same : arm.label = other.label)
    (sameParts : arm.parts = other.parts) : arm = other := by
  obtain ⟨test, body⟩ := arm
  obtain ⟨test', body'⟩ := other
  cases test <;> cases test' <;>
    simp_all [SwitchCase.label, SwitchCase.parts, map_ofStmt_inj]

/-- The arms of a `switch` statement are given by their labels and all their parts in a row. -/
theorem arms_ext {cases others : List SwitchCase}
    (same : cases.map SwitchCase.label = others.map SwitchCase.label)
    (sameParts : cases.flatMap SwitchCase.parts = others.flatMap SwitchCase.parts) :
    cases = others := by
  induction cases generalizing others with
  | nil => cases others <;> simp_all
  | cons arm cases ih =>
    cases others with
    | nil => simp at same
    | cons other others =>
      obtain ⟨sameArm, sameRest⟩ := List.cons.inj same
      -- the label tells how many of the parts in a row belong to the first arm
      have length : arm.parts.length = other.parts.length := by
        rw [← length_parts_arm arm, sameArm, length_parts_arm]
      obtain ⟨armParts, restParts⟩ := List.append_inj sameParts length
      rw [arm_ext sameArm armParts, ih sameRest restParts]

/-- A statement is given by its label and its parts. -/
theorem stmt_ext {stmt other : Stmt} (same : stmt.label = other.label)
    (sameParts : stmt.parts = other.parts) : stmt = other := by
  cases stmt <;> cases other
  case letDecl.letDecl =>
    obtain ⟨rfl, rfl, rfl, rfl, _⟩ := Stmt.letDecl.inj same
    rw [option_ext (fun _ _ => Node.ofExpr.inj) sameParts]
  case ret.ret => rw [option_ext (fun _ _ => Node.ofExpr.inj) sameParts]
  -- where several lists of parts stand in a row, the label tells where each of them ends
  case ifElse.ifElse =>
    obtain ⟨_, sameThen, sameElse⟩ := Stmt.ifElse.inj same
    obtain ⟨condition, rest⟩ := List.cons.inj sameParts
    obtain ⟨thenParts, elseParts⟩ := List.append_inj rest
      (by simpa using Stmt.length_eq_of_blanks sameThen)
    rw [Node.ofExpr.inj condition, map_ofStmt_inj.mp thenParts,
      branch_ext sameElse (map_ofStmt_inj.mp elseParts)]
  case forLoop.forLoop =>
    obtain ⟨sameInit, sameCondition, sameUpdate, _⟩ := Stmt.forLoop.inj same
    obtain ⟨init, rest⟩ := List.append_inj sameParts (by simpa using length_option sameInit)
    obtain ⟨condition, rest⟩ := List.append_inj rest (by simpa using length_option sameCondition)
    obtain ⟨update, body⟩ := List.append_inj rest (by simpa using length_option sameUpdate)
    rw [option_ext (fun _ _ => Node.ofStmt.inj) init, option_ext (fun _ _ => Node.ofExpr.inj) condition,
      option_ext (fun _ _ => Node.ofExpr.inj) update, map_ofStmt_inj.mp body]
  case tryCatch.tryCatch body handler finalizer body' handler' finalizer' =>
    obtain ⟨sameBody, sameHandler, sameFinalizer⟩ := Stmt.tryCatch.inj same
    have length : (handler.elim [] CatchClause.body).length =
        (handler'.elim [] CatchClause.body).length := by
      rw [← length_handler handler, sameHandler, length_handler]
    obtain ⟨bodyParts, rest⟩ := List.append_inj sameParts
      (by simpa using Stmt.length_eq_of_blanks sameBody)
    obtain ⟨handlerParts, finalizerParts⟩ := List.append_inj rest (by simpa using length)
    rw [map_ofStmt_inj.mp bodyParts, handler_ext sameHandler (map_ofStmt_inj.mp handlerParts),
      branch_ext sameFinalizer (map_ofStmt_inj.mp finalizerParts)]
  case switch.switch =>
    obtain ⟨_, sameArms⟩ := Stmt.switch.inj same
    obtain ⟨discriminant, arms⟩ := List.cons.inj sameParts
    rw [Node.ofExpr.inj discriminant, arms_ext sameArms arms]
  all_goals simp_all [Stmt.label, Stmt.parts, map_ofStmt_inj]

/-- Two nodes are the same if their labels, their signatures and their parts are. -/
theorem ext {node other : Node} (same : node.label = other.label)
    (signature : node.signature? = other.signature?) (sameParts : node.parts = other.parts) :
    node = other := by
  cases node <;> cases other
  · exact congrArg ofExpr (expr_ext (Node.ofExpr.inj same) signature sameParts)
  · cases same
  · cases same
  · exact congrArg ofStmt (stmt_ext (Node.ofStmt.inj same) sameParts)

/-- Whether two nodes are the same but for their parts. -/
def SameHead (node other : Node) : Prop :=
  node.label = other.label ∧ node.signature? = other.signature?

/-- Lists of trees are the same if their nodes in pre-order are, provided that there are as many trees. -/
theorem eq_of_forest {parts others rest rest' : List Node}
    (each : ∀ part ∈ parts, ∀ other rest rest',
      List.Forall₂ SameHead (part.preorder ++ rest) (other.preorder ++ rest') →
        part = other ∧ List.Forall₂ SameHead rest rest')
    (length : parts.length = others.length)
    (same : List.Forall₂ SameHead (parts.flatMap preorder ++ rest)
      (others.flatMap preorder ++ rest')) :
    parts = others ∧ List.Forall₂ SameHead rest rest' := by
  induction parts generalizing others with
  | nil =>
    obtain rfl : others = [] := List.length_eq_zero_iff.mp length.symm
    exact ⟨rfl, same⟩
  | cons part parts ih =>
    cases others with
    | nil => cases length
    | cons other others =>
      -- the first tree takes its own share of the list and leaves the rest to the others
      rw [List.flatMap_cons, List.flatMap_cons, List.append_assoc, List.append_assoc] at same
      obtain ⟨first, others⟩ := List.forall_mem_cons.mp each
      obtain ⟨rfl, tail⟩ := first _ _ _ same
      obtain ⟨rfl, final⟩ := ih others (Nat.succ.inj length) tail
      exact ⟨rfl, final⟩

/-- A tree is read off the list of its nodes, whatever comes after it. -/
theorem eq_of_preorder {node other : Node} {rest rest' : List Node}
    (same : List.Forall₂ SameHead (node.preorder ++ rest) (other.preorder ++ rest')) :
    node = other ∧ List.Forall₂ SameHead rest rest' := by
  induction node using Node.induction generalizing other rest rest' with
  | step node ih =>
    rw [preorder_eq, preorder_eq other, List.cons_append, List.cons_append] at same
    cases same with
    | cons head tail =>
      -- the label says how many parts there are, so it is clear where the node ends
      have length : node.parts.length = other.parts.length := by
        rw [← length_parts_label node, head.1, length_parts_label]
      obtain ⟨sameParts, final⟩ :=
        eq_of_forest (fun part isPart _ _ _ same => ih part isPart same) length tail
      exact ⟨ext head.1 head.2 sameParts, final⟩

end Node

/-- The nodes of a body, each before its parts, in source order. -/
def Stmt.nodes (body : List Stmt) : List Node := body.flatMap fun stmt => (Node.ofStmt stmt).preorder

/-- A body is determined by its nodes in pre-order, taken without their parts. -/
theorem Stmt.eq_of_nodes {body other : List Stmt}
    (same : List.Forall₂ Node.SameHead (Stmt.nodes body) (Stmt.nodes other)) : body = other := by
  induction body generalizing other with
  | nil =>
    cases other with
    | nil => rfl
    | cons stmt other =>
      rw [nodes, nodes, List.flatMap_cons, Node.preorder_eq] at same
      cases same
  | cons stmt body ih =>
    cases other with
    | nil =>
      rw [nodes, nodes, List.flatMap_cons, Node.preorder_eq] at same
      cases same
    | cons stmt' other =>
      -- the pre-order of the first statement tells where it ends
      obtain ⟨sameFirst, sameRest⟩ := Node.eq_of_preorder same
      rw [Node.ofStmt.inj sameFirst, ih sameRest]

end Overloading
