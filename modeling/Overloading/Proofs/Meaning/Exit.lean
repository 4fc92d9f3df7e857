import Overloading.Proofs.Meaning.Run

/-! # Statements that never complete normally

An execution that ends is a run: `Interpretation.runs_of_exec` turns what the meaning of a statement says
into a run by the rules. So the soundness of the test for exits carries over, and a list that passes it
never completes normally. -/

namespace Overloading

universe u v

variable {State : Type u} {Value : Type v}

/-! ## Executions that end -/

/-- An evaluation with something to execute after it ends with a value and what follows, or with an
error. -/
theorem Evaluation.run_eq_some {first : Evaluation State Value} {next : Value → Execution State Value}
    {state state' : State} {completion : Completion Value}
    (ended : first.run next state = some (completion, state')) :
    (∃ value between, first state = some (.value value, between) ∧
      next value between = some (completion, state')) ∨
    ∃ error, first state = some (.throw error, state') ∧ completion = .throw error := by
  rw [Evaluation.run] at ended
  split at ended
  · cases ended
  · next value between yields => exact .inl ⟨value, between, yields, ended⟩
  · next error _ throws =>
    cases ended
    exact .inr ⟨error, throws, rfl⟩

namespace Execution

/-- A sequence ends where the second part ends after the first has completed normally, or else where the
first ends. -/
theorem seq_eq_some {first next : Execution State Value} {state state' : State}
    {completion : Completion Value} (ended : first.seq next state = some (completion, state')) :
    (∃ between, first state = some (.normal, between) ∧ next between = some (completion, state')) ∨
      (first state = some (completion, state') ∧ completion ≠ .normal) := by
  rw [seq] at ended
  split at ended
  · next between ran => exact .inl ⟨between, ran, ended⟩
  · next notNormal =>
    refine .inr ⟨ended, ?_⟩
    rintro rfl
    exact notNormal _ ended

/-- A handled body ends where the handler ends if the body throws, or else where the body ends. -/
theorem handle_eq_some {body : Execution State Value} {handler : Value → Execution State Value}
    {state state' : State} {completion : Completion Value}
    (ended : body.handle handler state = some (completion, state')) :
    (∃ error thrown, body state = some (.throw error, thrown) ∧
      handler error thrown = some (completion, state')) ∨
    (body state = some (completion, state') ∧ ∀ error, completion ≠ .throw error) := by
  rw [handle] at ended
  split at ended
  · next error thrown throws => exact .inl ⟨error, thrown, throws, ended⟩
  · next notThrown =>
    refine .inr ⟨ended, ?_⟩
    rintro error rfl
    exact notThrown _ _ ended

/-- After a body its finalizer runs in any case; its completion stands unless it is normal. -/
theorem finalize_eq_some {body finalizer : Execution State Value} {state state' : State}
    {completion : Completion Value}
    (ended : body.finalize finalizer state = some (completion, state')) :
    ∃ pending tried, body state = some (pending, tried) ∧
      ((finalizer tried = some (.normal, state') ∧ pending = completion) ∨
        (finalizer tried = some (completion, state') ∧ completion ≠ .normal)) := by
  rw [finalize] at ended
  split at ended
  · cases ended
  · next pending tried ran =>
    refine ⟨pending, tried, ran, ?_⟩
    split at ended
    · next final =>
      cases ended
      exact .inl ⟨final, rfl⟩
    · next notNormal =>
      refine .inr ⟨ended, ?_⟩
      rintro rfl
      exact notNormal _ ended

/-- Whether an execution never completes normally. -/
def NeverNormal (execution : Execution State Value) : Prop :=
  ∀ state state', execution state ≠ some (.normal, state')

/-- Nothing runs after an execution that never completes normally. -/
theorem NeverNormal.seq_eq {first : Execution State Value} (abrupt : NeverNormal first)
    (next : Execution State Value) : first.seq next = first := by
  funext state
  rw [seq]
  split
  · exact absurd ‹_› (abrupt _ _)
  · rfl

end Execution

/-! ## Executions as runs -/

namespace Interpretation

variable (interp : Interpretation State Value) (answers : Expr → Option Bool)

/-- The behavior in which expressions and open statements end as they mean to. -/
def behavior : Behavior State Value where
  eval expr state outcome state' := interp.eval answers expr state = some (outcome, state')
  truthy := interp.truthy
  noValue := interp.noValue
  bindError param error state outcome state' :=
    interp.bindError param error state = some (outcome, state')
  other stmt state completion state' := interp.exec answers stmt state = some (completion, state')

mutual
/-- A statement that completes by its meaning runs so by the rules. -/
theorem runs_of_exec : ∀ {stmt : Stmt} {state state' : State} {completion : Completion Value},
    interp.exec answers stmt state = some (completion, state') →
      (interp.behavior answers).Runs stmt state completion state'
  | .letDecl .., _, _, _, ended | .expr _, _, _, _, ended | .whileLoop .., _, _, _, ended
  | .forLoop .., _, _, _, ended | .switch .., _, _, _, ended => .other rfl ended
  | .empty, _, _, _, ended => by
    cases ended
    exact .empty
  | .breakLoop, _, _, _, ended => by
    cases ended
    exact .breakLoop
  | .continueLoop, _, _, _, ended => by
    cases ended
    exact .continueLoop
  | .ret none, _, _, _, ended => by
    cases ended
    exact .retNothing
  | .ret (some _), _, _, _, ended => by
    rcases Evaluation.run_eq_some ended with ⟨_, _, yields, returned⟩ | ⟨_, throws, rfl⟩
    · cases returned
      exact .ret yields
    · exact .retThrows throws
  | .throw _, _, _, _, ended => by
    rcases Evaluation.run_eq_some ended with ⟨_, _, yields, thrown⟩ | ⟨_, throws, rfl⟩
    · cases thrown
      exact .throw yields
    · exact .throwThrows throws
  | .block _, _, _, _, ended => .block (runsAll_of_execAll ended)
  | .ifElse _ _ elseBranch, _, _, _, ended => by
    rcases Evaluation.run_eq_some ended with ⟨value, _, yields, taken⟩ | ⟨_, throws, rfl⟩
    · cases counts : interp.truthy value with
      | true =>
        rw [counts, if_pos rfl] at taken
        exact .thenBranch yields counts (runsAll_of_execAll taken)
      | false =>
        rw [counts, if_neg Bool.false_ne_true] at taken
        refine .elseBranch yields counts ?_
        match elseBranch with
        | none =>
          cases taken
          exact .nil
        | some _ => exact runsAll_of_execAll taken
    · exact .conditionThrows throws
  | .tryCatch body handler finalizer, _, _, _, ended => by
    -- the part before the finalizer is the same whether there is a finalizer or not
    have tries : ∀ {state state' : State} {completion : Completion Value},
        interp.tryCatch (interp.execAll answers body) (interp.execHandler answers handler) none state =
          some (completion, state') →
        (interp.behavior answers).Tries body handler state completion state' := by
      intro state state' completion tried
      match handler with
      | none => exact .uncaught (runsAll_of_execAll tried) (.inl rfl)
      | some ⟨_, _⟩ =>
        rcases Execution.handle_eq_some tried with ⟨_, _, throws, handled⟩ | ⟨ran, notThrown⟩
        · rcases Evaluation.run_eq_some handled with ⟨_, _, binds, ran⟩ | ⟨_, binds, rfl⟩
          · exact .caught (runsAll_of_execAll throws) binds (runsAll_of_execAll ran)
          · exact .bindThrows (runsAll_of_execAll throws) binds
        · exact .uncaught (runsAll_of_execAll ran) (.inr notThrown)
    match finalizer with
    | none => exact .finalized (tries ended) .nil
    | some _ =>
      obtain ⟨_, _, tried, ⟨final, rfl⟩ | ⟨final, notNormal⟩⟩ := Execution.finalize_eq_some ended
      · exact .finalized (tries tried) (runsAll_of_execAll final)
      · exact .overridden (tries tried) (runsAll_of_execAll final) notNormal
/-- A statement list that completes by its meaning runs so by the rules. -/
theorem runsAll_of_execAll : ∀ {stmts : List Stmt} {state state' : State}
    {completion : Completion Value}, interp.execAll answers stmts state = some (completion, state') →
      (interp.behavior answers).RunsAll stmts state completion state'
  | [], _, _, _, ended => by
    cases ended
    exact .nil
  | _ :: _, _, _, _, ended => by
    rcases Execution.seq_eq_some ended with ⟨_, ran, rest⟩ | ⟨ran, notNormal⟩
    · exact .next (runs_of_exec ran) (runsAll_of_execAll rest)
    · exact .stop (runs_of_exec ran) notNormal
end

/-- A list that has a statement that always exits never completes normally. -/
theorem neverNormal_execAll {stmts : List Stmt} (exits : Stmt.someExits stmts = true) :
    (interp.execAll answers stmts).NeverNormal := by
  intro state state' ended
  exact Behavior.abrupt_of_someExits exits _ _ _ (interp.runsAll_of_execAll answers ended) rfl

end Interpretation

end Overloading
