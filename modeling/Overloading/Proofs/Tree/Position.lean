import Mathlib.Data.List.Basic
import Overloading.Proofs.Tree.Walk

/-! # Positions

The same expression may occur in a body many times. An occurrence is known by its position: the numbers of
the parts on the way to it, from the outermost statement inward. `Node.located` lists the nodes inside a
node with their positions, and the positions come in lexicographic order (`Node.located_sorted`), which is
pre-order.

The expressions of a body with their positions are the `Stmt.occurrences`. Reading a body visits each of
them once, in order. So does a walk in place with a visitor that leaves the parts alone, and it changes what
stands at these positions into the answers of the visitor, and nothing else (`Stmt.walks_agree`). -/

namespace Overloading

/-- Whether entries are sorted by their positions, with no position twice. -/
def SortedByPath {α : Type} (entries : List (List Nat × α)) : Prop :=
  entries.Pairwise fun entry later => List.Lex (· < ·) entry.1 later.1

/-- A position that is before another one is not that one. -/
theorem ne_of_lex {path path' : List Nat} (before : List.Lex (· < ·) path path') : path ≠ path' := by
  rintro rfl
  exact List.lex_irrefl Nat.lt_irrefl path before

/-- In a sorted list, looking up a position gives the only entry that it has. -/
theorem SortedByPath.lookup_eq {α : Type} {entries : List (List Nat × α)} {path : List Nat} {item : α}
    (sorted : SortedByPath entries) (mem : (path, item) ∈ entries) : entries.lookup path = some item := by
  induction sorted with
  | nil => cases mem
  | cons before _ ih =>
    obtain rfl | mem := List.mem_cons.mp mem
    · exact List.lookup_cons_self
    · rw [List.lookup_cons, beq_false_of_ne (ne_of_lex (before _ mem)).symm]
      exact ih mem

namespace Node

/-! ## Nodes by position -/

/-- The node at a position inside a node; each number says which part to go to. -/
def at? (node : Node) : List Nat → Option Node
  | [] => some node
  | index :: path => node.parts[index]?.bind fun part => part.at? path

/-- The node at a position inside one of several nodes; the first number says which of them. -/
def atAny? (nodes : List Node) : List Nat → Option Node
  | [] => none
  | index :: path => nodes[index]?.bind fun node => node.at? path

/-- A position below a node is a position in one of its parts. -/
theorem at?_cons (node : Node) (index : Nat) (path : List Nat) :
    node.at? (index :: path) = atAny? node.parts (index :: path) := rfl

/-- The nodes inside a node with their positions, each before its parts, in source order. -/
def located (node : Node) : List (List Nat × Node) :=
  ([], node) :: node.parts.attach.zipIdx.flatMap fun part =>
    part.1.1.located.map fun inner => (part.2 :: inner.1, inner.2)
termination_by sizeOf node
decreasing_by exact sizeOf_lt_of_mem_parts part.1.2

/-- The nodes inside several nodes, which are numbered from `start` on, with their positions. -/
def locatedFrom (start : Nat) (nodes : List Node) : List (List Nat × Node) :=
  (nodes.zipIdx start).flatMap fun node => node.1.located.map fun inner => (node.2 :: inner.1, inner.2)

/-- The first of several nodes has the first number, and the others are numbered on. -/
theorem locatedFrom_cons (start : Nat) (node : Node) (nodes : List Node) :
    locatedFrom start (node :: nodes) =
      (node.located.map fun inner => (start :: inner.1, inner.2)) ++ locatedFrom (start + 1) nodes := by
  rw [locatedFrom, List.zipIdx_cons, List.flatMap_cons, locatedFrom]

/-- A node stands at the empty position, and its parts are numbered from zero. -/
theorem located_eq (node : Node) : node.located = ([], node) :: locatedFrom 0 node.parts := by
  have attached : node.parts.zipIdx = node.parts.attach.zipIdx.map (Prod.map Subtype.val id) := by
    rw [← List.zipIdx_map, List.attach_map_subtype_val]
  rw [located, locatedFrom, attached, List.flatMap_map]
  rfl

/-- The step of `map_located`: if each of the nodes lists its pre-order, so do all of them. -/
theorem map_locatedFrom_of_each {start : Nat} {nodes : List Node}
    (each : ∀ node ∈ nodes, node.located.map Prod.snd = node.preorder) :
    (locatedFrom start nodes).map Prod.snd = nodes.flatMap preorder := by
  induction nodes generalizing start with
  | nil => rfl
  | cons node nodes ih =>
    obtain ⟨first, rest⟩ := List.forall_mem_cons.mp each
    rw [locatedFrom_cons, List.map_append, ih rest, List.map_map, List.flatMap_cons, ← first]
    rfl

/-- Without the positions, the list is the pre-order. -/
theorem map_located (node : Node) : node.located.map Prod.snd = node.preorder := by
  induction node using Node.induction with
  | step node ih => rw [located_eq, List.map_cons, map_locatedFrom_of_each ih, preorder_eq]

/-- Without the positions the located nodes are the pre-orders in a row. -/
theorem map_locatedFrom (start : Nat) (nodes : List Node) :
    (locatedFrom start nodes).map Prod.snd = nodes.flatMap preorder :=
  map_locatedFrom_of_each fun node _ => node.map_located

/-- A located node of several stands below one of them, under the number of that one. -/
theorem mem_locatedFrom_iff {start : Nat} {nodes : List Node} {path : List Nat} {inner : Node} :
    (path, inner) ∈ locatedFrom start nodes ↔
      ∃ node index rest, (node, index) ∈ nodes.zipIdx start ∧ (rest, inner) ∈ node.located ∧
        path = index :: rest := by
  rw [locatedFrom, List.mem_flatMap]
  constructor
  · rintro ⟨⟨node, index⟩, isNode, mem⟩
    obtain ⟨⟨rest, _⟩, isInner, same⟩ := List.mem_map.mp mem
    cases same
    exact ⟨node, index, rest, isNode, isInner, rfl⟩
  · rintro ⟨node, index, rest, isNode, isInner, rfl⟩
    exact ⟨(node, index), isNode, List.mem_map.mpr ⟨(rest, inner), isInner, rfl⟩⟩

/-- The step of `mem_located_iff`: if each of the nodes lists what stands at its positions, so do all of
them. -/
theorem mem_locatedFrom_of_each {nodes : List Node}
    (each : ∀ node ∈ nodes, ∀ path inner, (path, inner) ∈ node.located ↔ node.at? path = some inner)
    {path : List Nat} {inner : Node} :
    (path, inner) ∈ locatedFrom 0 nodes ↔ atAny? nodes path = some inner := by
  rw [mem_locatedFrom_iff]
  cases path with
  | nil => simp [atAny?]
  | cons index path =>
    rw [atAny?, Option.bind_eq_some_iff]
    constructor
    · rintro ⟨node, _, _, isNode, isInner, isCons⟩
      cases isCons
      have isNode : nodes[index]? = some node := List.mem_zipIdx_iff_getElem?.mp isNode
      exact ⟨node, isNode, (each node (List.mem_of_getElem? isNode) path inner).mp isInner⟩
    · rintro ⟨node, isNode, isInner⟩
      exact ⟨node, index, path, List.mem_zipIdx_iff_getElem?.mpr isNode,
        (each node (List.mem_of_getElem? isNode) path inner).mpr isInner, rfl⟩

/-- The nodes listed are those at their positions. -/
theorem mem_located_iff (node : Node) (path : List Nat) (inner : Node) :
    (path, inner) ∈ node.located ↔ node.at? path = some inner := by
  induction node using Node.induction generalizing path inner with
  | step node ih =>
    rw [located_eq, List.mem_cons, mem_locatedFrom_of_each ih]
    cases path with
    | nil => simp [at?, atAny?, eq_comm]
    | cons index path => simp [at?_cons]

/-- Located nodes of several are those that stand at their positions. -/
theorem mem_locatedFrom_zero_iff {nodes : List Node} {path : List Nat} {inner : Node} :
    (path, inner) ∈ locatedFrom 0 nodes ↔ atAny? nodes path = some inner :=
  mem_locatedFrom_of_each fun node _ => node.mem_located_iff

/-- The step of `located_sorted`: if each of the nodes lists its positions in order, so do all of them.
-/
theorem locatedFrom_sorted_of_each {start : Nat} {nodes : List Node}
    (each : ∀ node ∈ nodes, SortedByPath node.located) : SortedByPath (locatedFrom start nodes) := by
  induction nodes generalizing start with
  | nil => exact .nil
  | cons node nodes ih =>
    obtain ⟨first, rest⟩ := List.forall_mem_cons.mp each
    rw [locatedFrom_cons, SortedByPath, List.pairwise_append]
    refine ⟨List.pairwise_map.mpr (first.imp .cons), ih rest, ?_⟩
    -- positions in a later node have a higher first number
    rintro _ mem ⟨path, inner⟩ mem'
    obtain ⟨entry, _, rfl⟩ := List.mem_map.mp mem
    obtain ⟨later, index, path, isLater, _, rfl⟩ := mem_locatedFrom_iff.mp mem'
    exact .rel (List.le_snd_of_mem_zipIdx isLater)

/-- The positions listed are in lexicographic order. -/
theorem located_sorted (node : Node) : SortedByPath node.located := by
  induction node using Node.induction with
  | step node ih =>
    rw [located_eq, SortedByPath, List.pairwise_cons]
    refine ⟨?_, locatedFrom_sorted_of_each ih⟩
    rintro ⟨path, inner⟩ mem
    obtain ⟨_, index, rest, _, _, rfl⟩ := mem_locatedFrom_iff.mp mem
    exact .nil

/-- The located nodes of several are listed in the order of their positions. -/
theorem locatedFrom_sorted (start : Nat) (nodes : List Node) :
    SortedByPath (locatedFrom start nodes) :=
  locatedFrom_sorted_of_each fun node _ => node.located_sorted

/-- Looking up a position gives the node there. -/
theorem lookup_locatedFrom (nodes : List Node) (path : List Nat) :
    (locatedFrom 0 nodes).lookup path = atAny? nodes path := by
  cases found : atAny? nodes path with
  | some node => exact (locatedFrom_sorted 0 nodes).lookup_eq (mem_locatedFrom_zero_iff.mpr found)
  | none =>
    refine List.lookup_eq_none_iff.mpr fun entry mem => bne_iff_ne.mpr ?_
    rintro rfl
    rw [mem_locatedFrom_zero_iff.mp mem] at found
    cases found

/-! ## Heads by position -/

/-- What a node is but for its parts. -/
def head (node : Node) : Node × Option DeclHandle := (node.label, node.signature?)

/-- Nodes of the same head have the same label and the same signature. -/
theorem SameHead.head_eq {node other : Node} (same : SameHead node other) : node.head = other.head :=
  Prod.ext same.1 same.2

/-- The step of `eq_of_heads`: lists of nodes are the same if each node is given by the heads at its
positions. -/
theorem eq_of_heads_of_each {nodes others : List Node}
    (each : ∀ node ∈ nodes, ∀ other : Node,
      (∀ path, (node.at? path).map head = (other.at? path).map head) → node = other)
    (same : ∀ path, (atAny? nodes path).map head = (atAny? others path).map head) : nodes = others := by
  refine List.ext_getElem? fun index => ?_
  -- the shortest position in a part says whether the part is there, the longer ones what it is
  have first := same [index]
  have below := fun path => same (index :: path)
  simp only [atAny?, at?] at first below
  cases isNode : nodes[index]? with
  | none =>
    cases isOther : others[index]? with
    | none => rfl
    | some other => simp [isNode, isOther] at first
  | some node =>
    cases isOther : others[index]? with
    | none => simp [isNode, isOther] at first
    | some other =>
      rw [isNode, isOther] at below
      rw [each node (List.mem_of_getElem? isNode) other below]

/-- A node is determined by the heads at its positions. -/
theorem eq_of_heads (node other : Node)
    (same : ∀ path, (node.at? path).map head = (other.at? path).map head) : node = other := by
  induction node using Node.induction generalizing other with
  | step node ih =>
    have own : node.head = other.head := Option.some.inj (same [])
    obtain ⟨sameLabel, sameSignature⟩ := Prod.mk.inj own
    refine ext sameLabel sameSignature (eq_of_heads_of_each ih fun path => ?_)
    cases path with
    | nil => rfl
    | cons index path => exact same (index :: path)

/-- Lists of nodes are given by the heads at all positions. -/
theorem eq_of_heads_any {nodes others : List Node}
    (same : ∀ path, (atAny? nodes path).map head = (atAny? others path).map head) : nodes = others :=
  eq_of_heads_of_each (fun node _ => node.eq_of_heads) same

/-! ## Changed heads by position -/

/-- The expression at a listed position, if the node there is one. -/
def occurrence? (entry : List Nat × Node) : Option (List Nat × Expr) :=
  entry.2.expr?.map fun expr => (entry.1, expr)

/-- Whether nodes differ from others at the same positions only by the heads of the expressions, which are
those of the given answers. -/
inductive Aligned : List (List Nat × Node) → List Expr → List (List Nat × Node) → Prop
  | nil : Aligned [] [] []
  | expr (path : List Nat) {expr expr' answer : Expr} {answers : List Expr}
    {entries entries' : List (List Nat × Node)} (head : SameHead (.ofExpr expr') (.ofExpr answer))
    (after : Aligned entries answers entries') :
    Aligned ((path, .ofExpr expr) :: entries) (answer :: answers) ((path, .ofExpr expr') :: entries')
  | stmt (path : List Nat) {stmt stmt' : Stmt} {answers : List Expr}
    {entries entries' : List (List Nat × Node)} (head : SameHead (.ofStmt stmt') (.ofStmt stmt))
    (after : Aligned entries answers entries') :
    Aligned ((path, .ofStmt stmt) :: entries) answers ((path, .ofStmt stmt') :: entries')

/-- Two aligned lists, put together with their answers, are aligned. -/
theorem Aligned.append {entries entries' others others' : List (List Nat × Node)}
    {answers answers' : List Expr} (first : Aligned entries answers entries')
    (second : Aligned others answers' others') :
    Aligned (entries ++ others) (answers ++ answers') (entries' ++ others') := by
  induction first with
  | nil => exact second
  | expr path head _ ih => exact .expr path head ih
  | stmt path head _ ih => exact .stmt path head ih

/-- Aligned nodes stay aligned if they are moved below the same part. -/
theorem Aligned.under {entries entries' : List (List Nat × Node)} {answers : List Expr}
    (aligned : Aligned entries answers entries') (index : Nat) :
    Aligned (entries.map fun inner => (index :: inner.1, inner.2)) answers
      (entries'.map fun inner => (index :: inner.1, inner.2)) := by
  induction aligned with
  | nil => exact .nil
  | expr path head _ ih => exact .expr (index :: path) head ih
  | stmt path head _ ih => exact .stmt (index :: path) head ih

/-- Trees that differ only by heads have their nodes at the same positions. -/
theorem Reheaded.aligned {sources results : List Node} {answers : List Expr}
    (reheaded : Reheaded sources answers results) (start : Nat) :
    Aligned (locatedFrom start sources) answers (locatedFrom start results) := by
  induction reheaded generalizing start with
  | nil => exact .nil
  | expr head _ _ ofInside ofAfter =>
    rw [locatedFrom_cons, locatedFrom_cons, located_eq, located_eq]
    exact .expr [start] head (((ofInside 0).under start).append (ofAfter (start + 1)))
  | stmt head _ _ ofInside ofAfter =>
    rw [locatedFrom_cons, locatedFrom_cons, located_eq, located_eq]
    exact .stmt [start] head (((ofInside 0).under start).append (ofAfter (start + 1)))

/-- A position before all the listed ones has no answer. -/
theorem lookup_zip_of_before {path : List Nat} {entries : List (List Nat × Node)} {answers : List Expr}
    (before : ∀ entry ∈ entries, List.Lex (· < ·) path entry.1) :
    (((entries.filterMap occurrence?).map Prod.fst).zip answers).lookup path = none := by
  refine List.lookup_eq_none_iff.mpr fun answered mem => bne_iff_ne.mpr ?_
  obtain ⟨occurrence, isOccurrence, isPath⟩ := List.mem_map.mp (List.of_mem_zip mem).1
  obtain ⟨entry, isEntry, isExpr⟩ := List.mem_filterMap.mp isOccurrence
  obtain ⟨expr, _, rfl⟩ := Option.map_eq_some_iff.mp isExpr
  rw [← isPath]
  exact ne_of_lex (before entry isEntry)

/-- The node at a position after the change has the head of the answer for that position, if there is one,
and otherwise the head that it had. -/
theorem Aligned.heads {entries entries' : List (List Nat × Node)} {answers : List Expr}
    (aligned : Aligned entries answers entries') (sorted : SortedByPath entries) (path : List Nat) :
    (entries'.lookup path).map head =
      ((((((entries.filterMap occurrence?).map Prod.fst).zip answers).lookup path).map ofExpr).or
        (entries.lookup path)).map head := by
  -- Along the entries: an expression takes the next answer, a statement takes none and keeps its head.
  induction aligned with
  | nil => rfl
  | @expr here expr _ _ _ _ _ sameHead _ ih =>
    obtain ⟨_, sorted⟩ := List.pairwise_cons.mp sorted
    have isExpr : occurrence? (here, .ofExpr expr) = some (here, expr) := rfl
    rw [List.filterMap_cons_some isExpr, List.map_cons, List.zip_cons_cons]
    obtain rfl | apart := eq_or_ne path here
    · rw [List.lookup_cons_self, List.lookup_cons_self]
      exact congrArg some sameHead.head_eq
    · simp only [List.lookup_cons, beq_false_of_ne apart]
      exact ih sorted
  | @stmt here _ _ _ _ _ sameHead _ ih =>
    obtain ⟨before, sorted⟩ := List.pairwise_cons.mp sorted
    rw [List.filterMap_cons_none rfl]
    obtain rfl | apart := eq_or_ne path here
    · -- no later entry has this position, so no answer is found for the statement
      rw [List.lookup_cons_self, List.lookup_cons_self, lookup_zip_of_before before]
      exact congrArg some sameHead.head_eq
    · simp only [List.lookup_cons, beq_false_of_ne apart]
      exact ih sorted

end Node

/-! ## Bodies -/

namespace Stmt

/-- The node at a position inside a body. -/
def at? (body : List Stmt) (path : List Nat) : Option Node := Node.atAny? (body.map .ofStmt) path

/-- The expressions inside a body with their positions, each before its parts, in source order. -/
def occurrences (body : List Stmt) : List (List Nat × Expr) :=
  (Node.locatedFrom 0 (body.map .ofStmt)).filterMap Node.occurrence?

/-- What stands at a position inside a body once its expressions have been given answers, in order. -/
def changedAt? (body : List Stmt) (answers : List Expr) (path : List Nat) : Option Node :=
  (((((occurrences body).map Prod.fst).zip answers).lookup path).map .ofExpr).or (at? body path)

/-- Without the positions the occurrences are the subexpressions of the body. -/
theorem map_occurrences (body : List Stmt) :
    (occurrences body).map Prod.snd = Stmt.subexprsAll body := by
  have listed := congrArg (List.filterMap Node.expr?) (Node.map_locatedFrom 0 (body.map .ofStmt))
  rw [List.filterMap_map, List.flatMap_map] at listed
  rw [Stmt.subexprsAll_eq, preorderExprs, ← listed, occurrences, List.map_filterMap]
  refine List.filterMap_congr fun entry _ => ?_
  rw [Node.occurrence?, Option.map_map]
  exact Option.map_id_apply

/-- The occurrences of a body are listed in the order of their positions. -/
theorem occurrences_sorted (body : List Stmt) : SortedByPath (occurrences body) := by
  refine List.Pairwise.filterMap _ ?_ (Node.locatedFrom_sorted 0 (body.map .ofStmt))
  intro entry later before occurrence isOccurrence laterOccurrence isLater
  obtain ⟨_, _, rfl⟩ := Option.map_eq_some_iff.mp isOccurrence
  obtain ⟨_, _, rfl⟩ := Option.map_eq_some_iff.mp isLater
  exact before

/-- An expression occurs at a position iff it stands there. -/
theorem mem_occurrences_iff {body : List Stmt} {path : List Nat} {expr : Expr} :
    (path, expr) ∈ occurrences body ↔ at? body path = some (.ofExpr expr) := by
  rw [at?, ← Node.mem_locatedFrom_zero_iff, occurrences, List.mem_filterMap]
  constructor
  · rintro ⟨⟨_, node⟩, mem, isOccurrence⟩
    obtain ⟨_, isExpr, same⟩ := Option.map_eq_some_iff.mp isOccurrence
    cases same
    cases node with
    | ofExpr _ =>
      cases isExpr
      exact mem
    | ofStmt _ => cases isExpr
  · exact fun mem => ⟨_, mem, rfl⟩

/-- A body is determined by the heads at its positions. -/
theorem eq_of_heads {body other : List Stmt}
    (same : ∀ path, (at? body path).map Node.head = (at? other path).map Node.head) : body = other :=
  Node.map_ofStmt_inj.mp (Node.eq_of_heads_any same)

/-- At each position of a reheaded body stands what the answers in order say. -/
theorem heads_of_reheaded {body changed : List Stmt} {answers : List Expr}
    (reheaded : Node.Reheaded (body.map .ofStmt) answers (changed.map .ofStmt)) (path : List Nat) :
    (at? changed path).map Node.head = (changedAt? body answers path).map Node.head := by
  have heads := (reheaded.aligned 0).heads (Node.locatedFrom_sorted 0 _) path
  rwa [Node.lookup_locatedFrom, Node.lookup_locatedFrom] at heads

end Stmt

/-! ## Visitors that keep a record -/

section Recording

variable {σ : Type} (visit : Expr → StateM σ Expr)

/-- The visitor that also keeps a record of the expressions that it has been given. -/
def Expr.recording : Expr → StateM (σ × List Expr) Expr := fun expr state =>
  ((visit expr state.1).1, (visit expr state.1).2, state.2 ++ [expr])

/-- A visitor that records what it is given does what it does without recording. -/
theorem mapM_recording (exprs : List Expr) (state : σ) (record : List Expr) :
    exprs.mapM (Expr.recording visit) (state, record) =
      ((exprs.mapM visit state).1, (exprs.mapM visit state).2, record ++ exprs) := by
  induction exprs generalizing state record with
  | nil =>
    rw [List.append_nil]
    rfl
  | cons expr exprs ih =>
    rw [mapM_cons_apply, mapM_cons_apply, Expr.recording, ih, List.append_assoc]
    rfl

variable {visit}

/-- A walk in place has the same result whatever the limit, provided that it is high enough. -/
theorem Stmt.exists_rewriteAll (keeps : ∀ expr state, (visit expr state).1.parts = expr.parts)
    (body : List Stmt) (state : σ) :
    ∃ changed : List Stmt,
      Node.Reheaded (body.map .ofStmt) ((Stmt.subexprsAll body).mapM visit state).1
        (changed.map .ofStmt) ∧
      ∀ limit, sizeOf body ≤ limit →
        Stmt.rewriteAll visit limit body state =
          some (changed, ((Stmt.subexprsAll body).mapM visit state).2) := by
  rw [Stmt.subexprsAll_eq_flatMap]
  obtain ⟨changed, _, _, reheaded, rfl, _⟩ :=
    Stmt.turns_rewriteAll keeps (Nat.le_refl (sizeOf body)) state
  refine ⟨changed, reheaded, fun limit enough => ?_⟩
  obtain ⟨changed', _, run, reheaded', rfl, _⟩ := Stmt.turns_rewriteAll keeps enough state
  rw [run, Node.map_ofStmt_inj.mp (reheaded.unique reheaded')]

end Recording

/-! ## The two walks -/

/-- **The walks over a body agree.** Reading it visits its expressions once for each position at which one
stands, in lexicographic order of the positions. A walk in place, with a visitor that leaves the parts of
what it is given alone, has a result. It has been given the same expressions in the same order, and the
result is the one body that has the head of the answer where the expression stood, and elsewhere the head
that was there. -/
theorem Stmt.walks_agree (body : List Stmt) :
    (occurrences body).map Prod.snd = subexprsAll body ∧
    SortedByPath (occurrences body) ∧
    (∀ path expr, (path, expr) ∈ occurrences body ↔ at? body path = some (.ofExpr expr)) ∧
    (∀ expr : Expr, expr ∈ subexprsAll body ↔ expr.OccursIn body) ∧
    ∀ (σ : Type) (visit : Expr → StateM σ Expr),
      (∀ expr state, (visit expr state).1.parts = expr.parts) →
      ∀ state : σ, ∃ changed : List Stmt,
        (∀ limit, sizeOf body ≤ limit →
          rewriteAll visit limit body state =
            some (changed, ((subexprsAll body).mapM visit state).2) ∧
          rewriteAll (Expr.recording visit) limit body (state, []) =
            some (changed, ((subexprsAll body).mapM visit state).2, subexprsAll body)) ∧
        ∀ other : List Stmt,
          (∀ path, (at? other path).map Node.head =
            (changedAt? body ((subexprsAll body).mapM visit state).1 path).map Node.head) ↔
          other = changed := by
  refine ⟨map_occurrences body, occurrences_sorted body, fun _ _ => mem_occurrences_iff,
    fun _ => mem_subexprsAll_iff, fun σ visit keeps state => ?_⟩
  obtain ⟨changed, reheaded, run⟩ := exists_rewriteAll keeps body state
  -- keeping a record changes neither the answers nor the parts
  have keepsRecording (expr : Expr) (state : σ × List Expr) :
      (Expr.recording visit expr state).1.parts = expr.parts := keeps expr state.1
  obtain ⟨changed', reheaded', run'⟩ := exists_rewriteAll keepsRecording body (state, [])
  rw [mapM_recording] at reheaded' run'
  obtain rfl : changed = changed' := Node.map_ofStmt_inj.mp (reheaded.unique reheaded')
  refine ⟨changed, fun limit enough => ⟨run limit enough, run' limit enough⟩, fun other => ⟨?_, ?_⟩⟩
  · intro same
    exact eq_of_heads fun path => (same path).trans (heads_of_reheaded reheaded path).symm
  · rintro rfl
    exact heads_of_reheaded reheaded

namespace Sample

/-- The visitor that gives calls and identifiers the next number. -/
def numbering (expr : Expr) : StateM UInt32 Expr := fun next =>
  match expr with
  | .ident name _ => (.ident name (some ⟨next⟩), next + 1)
  | .call callee typeArgs args _ => (.call callee typeArgs args (some ⟨next⟩), next + 1)
  | other => (other, next)

/-- A `for` loop that calls a function for its update. -/
def stepping : List Stmt :=
  [.forLoop (some (.expr (.ident "start" none))) (some (.unary .not (.ident "done" none)))
    (some (.call (.ident "step" none) [] [.ident "by" none] none)) [.throw (.ident "error" none)]]

/-- The same loop, numbered. -/
def numbered : List Stmt :=
  [.forLoop (some (.expr (.ident "start" (some ⟨0⟩)))) (some (.unary .not (.ident "done" (some ⟨1⟩))))
    (some (.call (.ident "step" (some ⟨3⟩)) [] [.ident "by" (some ⟨4⟩)] (some ⟨2⟩)))
    [.throw (.ident "error" (some ⟨5⟩))]]

end Sample

/-- Numbering a loop: the visitor changes heads only, and is handed all six expressions in order. -/
theorem Stmt.walks_agree_sample :
    (∀ expr next, (Sample.numbering expr next).1.parts = expr.parts) ∧
    ∀ limit, sizeOf Sample.stepping ≤ limit →
      rewriteAll (Expr.recording Sample.numbering) limit Sample.stepping (0, []) =
        some (Sample.numbered, 6, subexprsAll Sample.stepping) := by
  have keeps (expr : Expr) (next : UInt32) : (Sample.numbering expr next).1.parts = expr.parts := by
    cases expr <;> rfl
  obtain ⟨_, _, _, _, walk⟩ := walks_agree Sample.stepping
  obtain ⟨changed, runs, _⟩ := walk UInt32 Sample.numbering keeps 0
  refine ⟨keeps, fun limit enough => ?_⟩
  have computed : rewriteAll Sample.numbering (sizeOf Sample.stepping + 2) Sample.stepping 0 =
      some (Sample.numbered, 6) := rfl
  obtain ⟨rfl, last⟩ := Prod.mk.inj (Option.some.inj
    (computed.symm.trans (runs (sizeOf Sample.stepping + 2) (Nat.le_add_right _ _)).1))
  rw [(runs limit enough).2, ← last]

end Overloading
