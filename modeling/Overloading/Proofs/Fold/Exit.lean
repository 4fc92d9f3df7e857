import Overloading.Proofs.Specialize

/-! # Folding keeps guaranteed exits

A statement list that has a statement that always exits still ends in one after folding, although ifs
become blocks, blocks are spliced and what cannot be reached is dropped on the way. Statements and lists
depend on each other: `Stmt.endsInExit_splice_fold` traces the exit of a statement into what it
contributes to its list, `Stmt.endsInExit_foldAll` that of a list into the folded list. -/

namespace Overloading

namespace Stmt

/-- A list ends in an exit iff it has a last statement and that always exits. -/
theorem endsInExit_iff {stmts : List Stmt} :
    Stmt.endsInExit stmts = true ↔
      ∃ front last, stmts = front ++ [last] ∧ last.alwaysExits = true := by
  rw [endsInExit, Option.any_eq_true]
  constructor
  · rintro ⟨last, isLast, exits⟩
    obtain ⟨front, rfl⟩ := List.getLast?_eq_some_iff.mp isLast
    exact ⟨front, last, rfl, exits⟩
  · rintro ⟨front, last, rfl, exits⟩
    exact ⟨last, List.getLast?_concat, exits⟩

/-- A list that ends in an exit has an exit. -/
theorem someExits_of_endsInExit {stmts : List Stmt} (ends : Stmt.endsInExit stmts = true) :
    Stmt.someExits stmts = true := by
  obtain ⟨front, last, rfl, exits⟩ := endsInExit_iff.mp ends
  rw [someExits_eq_any, List.any_eq_true]
  exact ⟨last, List.mem_append_right front (List.mem_singleton_self last), exits⟩

/-- What stands before a list does not change how it ends. -/
theorem endsInExit_append {stmts others : List Stmt} (ends : Stmt.endsInExit others = true) :
    Stmt.endsInExit (stmts ++ others) = true := by
  obtain ⟨front, last, rfl, exits⟩ := endsInExit_iff.mp ends
  exact endsInExit_iff.mpr ⟨stmts ++ front, last, (List.append_assoc _ _ _).symm, exits⟩

/-- A statement that always exits contributes a list that ends in an exit, unless it is a block, of
which only the statements may be left. -/
theorem endsInExit_splice {stmt : Stmt} (exits : stmt.alwaysExits = true)
    (notBlock : ∀ body, stmt ≠ .block body) : Stmt.endsInExit stmt.splice = true := by
  cases stmt with
  | block body => exact absurd rfl (notBlock body)
  | empty => cases exits
  | _ => exact endsInExit_iff.mpr ⟨[], _, rfl, exits⟩

/-- A block whose statements end in an exit does so spliced or not. -/
theorem endsInExit_splice_block {body : List Stmt} (ends : Stmt.endsInExit body = true) :
    Stmt.endsInExit (Stmt.block body).splice = true := by
  rw [splice]
  split
  · have exits : (Stmt.block body).alwaysExits = true := by
      rw [alwaysExits, someExits_of_endsInExit ends]
    exact endsInExit_iff.mpr ⟨[], .block body, rfl, exits⟩
  · exact ends

/-- An `if` statement keeps its exit if both branches end in one. -/
theorem endsInExit_splice_foldedIf (condition : Expr) {thenBranch elseBranch : List Stmt}
    (thenEnds : Stmt.endsInExit thenBranch = true) (elseEnds : Stmt.endsInExit elseBranch = true) :
    Stmt.endsInExit (Stmt.foldedIf condition thenBranch (some elseBranch)).splice = true := by
  -- undecided, the statement exits by both branches; decided, the branch that is left does
  cases known : condition.boolLiteral? with
  | none =>
    have exits : (Stmt.ifElse condition thenBranch (some elseBranch)).alwaysExits = true := by
      rw [alwaysExits, branchExits, someExits_of_endsInExit thenEnds, someExits_of_endsInExit elseEnds]
      rfl
    simp only [foldedIf, known]
    exact endsInExit_splice exits (by simp)
  | some value =>
    cases value with
    | true =>
      simp only [foldedIf, known]
      exact endsInExit_splice_block thenEnds
    | false =>
      simp only [foldedIf, known]
      exact endsInExit_splice_block elseEnds

variable (context : FoldContext)

mutual
/-- What a folded statement contributes to its list ends in an exit, if the statement always exits. -/
theorem endsInExit_splice_fold : ∀ {stmt : Stmt}, stmt.alwaysExits = true →
    Stmt.endsInExit (stmt.fold context).splice = true
  | .ret _, _ => endsInExit_splice rfl (by simp [Stmt.fold])
  | .throw _, _ => endsInExit_splice rfl (by simp [Stmt.fold])
  | .block _, exits => by
    rw [alwaysExits] at exits
    exact endsInExit_splice_block (endsInExit_foldAll exits)
  | .ifElse _ _ elseBranch, exits => by
    rw [alwaysExits, Bool.and_eq_true] at exits
    match elseBranch with
    | none => exact absurd exits.2 (by simp [branchExits])
    | some _ =>
      exact endsInExit_splice_foldedIf _ (endsInExit_foldAll exits.1) (endsInExit_foldAll exits.2)
  | .tryCatch body handler finalizer, exits => by
    rw [alwaysExits, Bool.or_eq_true, Bool.and_eq_true] at exits
    refine endsInExit_splice ?_ (by simp [Stmt.fold])
    rw [Stmt.fold, alwaysExits, Bool.or_eq_true, Bool.and_eq_true]
    -- either the finalizer exits, or the body and the handler both do, and folding keeps each of these
    rcases exits with finalizerExits | ⟨bodyExits, handlerExits⟩
    · match finalizer with
      | none => exact absurd finalizerExits (by simp [branchExits])
      | some _ => exact .inl (someExits_of_endsInExit (endsInExit_foldAll finalizerExits))
    · refine .inr ⟨someExits_of_endsInExit (endsInExit_foldAll bodyExits), ?_⟩
      match handler with
      | none => rfl
      | some ⟨_, _⟩ => exact someExits_of_endsInExit (endsInExit_foldAll handlerExits)
/-- A folded list ends in an exit, if some statement of the list always exits. -/
theorem endsInExit_foldAll : ∀ {stmts : List Stmt}, Stmt.someExits stmts = true →
    Stmt.endsInExit (Stmt.foldAll context stmts) = true
  | stmt :: stmts, exits => by
    rw [someExits, Bool.or_eq_true] at exits
    rw [foldAll, foldedCons]
    split
    · -- an exit, be it the one of this statement or one that folding has laid open
      next ends => exact ends
    · next runsOn =>
      rcases exits with first | later
      · exact absurd (endsInExit_splice_fold first) runsOn
      · exact endsInExit_append (endsInExit_foldAll later)
end

/-- The same in terms of the statement that exits and of the last one of the folded list. -/
theorem exists_last_exits_foldAll {stmts : List Stmt} (exits : ∃ stmt ∈ stmts, stmt.alwaysExits = true) :
    ∃ front last, Stmt.foldAll context stmts = front ++ [last] ∧ last.alwaysExits = true := by
  have someExits : Stmt.someExits stmts = true := by
    rw [someExits_eq_any]
    exact List.any_eq_true.mpr exits
  exact endsInExit_iff.mp (endsInExit_foldAll context someExits)

end Stmt

/-- **Folding keeps guaranteed exits.** If some statement of a list always exits, the folded list has a
last statement and this one always exits. So if some statement of an implementation always exits, the
body of each method emitted for it ends in such a statement. -/
theorem Specializer.exits_kept (specializer : Specializer) :
    (∀ (context : FoldContext) (stmts : List Stmt), (∃ stmt ∈ stmts, stmt.alwaysExits = true) →
      ∃ front last, Stmt.foldAll context stmts = front ++ [last] ∧ last.alwaysExits = true) ∧
    ∀ (group : OverloadGroup) (signature : FunctionDecl) (specialization : Specialization),
      specializer.specialize group signature = .ok specialization →
      (∃ stmt ∈ group.implementation.body.getD [], stmt.alwaysExits = true) →
        ∃ front last, specialization.method.body = front ++ [last] ∧ last.alwaysExits = true := by
  constructor
  · exact fun context _ exits => Stmt.exists_last_exits_foldAll context exits
  · intro group signature specialization emitted exits
    obtain ⟨binding, -, -, -, rfl⟩ := specializer.specialize_eq_ok_iff.mp emitted
    exact Stmt.exists_last_exits_foldAll (specializer.foldContext group binding) exits

/-- A `try` statement that exits on both answers to a type test, and what cannot be reached after it. -/
def Sample.exiting : List Stmt :=
  [.tryCatch [.ifElse isNumber [.ret none] (some [.throw .null])] none none, .expr .this]

/-- The sample always exits, through a `try` statement, and so does what is emitted for numbers. -/
theorem Specializer.exits_kept_sample :
    (∃ stmt ∈ Sample.exiting, stmt.alwaysExits = true) ∧
    (∃ front last, Stmt.foldAll Sample.numberContext Sample.exiting = front ++ [last] ∧
      last.alwaysExits = true) ∧
    Sample.specializer.specialize Sample.group Sample.ofNumber = .ok ⟨Sample.numberMethod, none⟩ ∧
    ∃ front last, Sample.numberMethod.body = front ++ [last] ∧ last.alwaysExits = true := by
  obtain ⟨folding, emitting⟩ := exits_kept Sample.specializer
  have exits : ∃ stmt ∈ Sample.exiting, stmt.alwaysExits = true := ⟨_, List.mem_cons_self, rfl⟩
  have emitted : Sample.specializer.specialize Sample.group Sample.ofNumber =
      .ok ⟨Sample.numberMethod, none⟩ := by with_unfolding_all rfl
  have bodyExits : ∃ stmt ∈ Sample.group.implementation.body.getD [], stmt.alwaysExits = true :=
    ⟨.ret (some Sample.exclaim), List.mem_cons_of_mem _ List.mem_cons_self, rfl⟩
  exact ⟨exits, folding _ _ exits, emitted, emitting _ _ _ emitted bodyExits⟩

end Overloading
