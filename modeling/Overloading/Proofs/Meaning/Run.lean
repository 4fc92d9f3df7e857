import Overloading.Fold
import Overloading.Proofs.Meaning

/-! # Runs of statements

How statements may run, as a relation with one rule for each way that a run can go. Little is assumed: a
`Behavior` leaves open what expressions, conditions and the binding of an error do, and how bindings of
locals, loops and `switch` statements complete. All of these may end in several ways or not at all.

`Behavior.alwaysExits_sound` is the soundness of the syntactic test for exits: no run of a statement that
passes it completes normally, so nothing that follows it in its list is run. It may still complete by
`break` or `continue`, because a list passes as soon as one of its statements does. -/

namespace Overloading

universe u v

/-- What is left open about runs. -/
structure Behavior (State : Type u) (Value : Type v) where
  /-- How an expression may end. -/
  eval : Expr → State → Outcome Value → State → Prop
  /-- Whether a value counts as true. -/
  truthy : Value → Bool
  /-- The value of a `return` without an expression. -/
  noValue : Value
  /-- How binding an error to the parameter of a handler may end. -/
  bindError : Option DeclHandle → Value → State → Outcome Value → State → Prop
  /-- How a statement may complete of which that is left open. -/
  other : Stmt → State → Completion Value → State → Prop

/-- Whether it is left open how a statement runs: bindings of locals, expressions, loops, `switch`. -/
def Stmt.isOpen : Stmt → Bool
  | .letDecl .. | .expr _ | .whileLoop .. | .forLoop .. | .switch .. => true
  | _ => false

namespace Behavior

variable {State : Type u} {Value : Type v} (behavior : Behavior State Value)

mutual
/-- Whether a statement may run from a state to another, and complete in a given way. -/
inductive Runs : Stmt → State → Completion Value → State → Prop
  | other {stmt : Stmt} {state state' : State} {completion : Completion Value}
      (isOpen : stmt.isOpen = true) (ends : behavior.other stmt state completion state') :
    Runs stmt state completion state'
  | empty {state : State} : Runs .empty state .normal state
  | breakLoop {state : State} : Runs .breakLoop state .breakLoop state
  | continueLoop {state : State} : Runs .continueLoop state .continueLoop state
  | retNothing {state : State} : Runs (.ret none) state (.ret behavior.noValue) state
  | ret {value : Expr} {state state' : State} {result : Value}
      (yields : behavior.eval value state (.value result) state') :
    Runs (.ret (some value)) state (.ret result) state'
  | retThrows {value : Expr} {state state' : State} {error : Value}
      (throws : behavior.eval value state (.throw error) state') :
    Runs (.ret (some value)) state (.throw error) state'
  | throw {value : Expr} {state state' : State} {error : Value}
      (yields : behavior.eval value state (.value error) state') :
    Runs (.throw value) state (.throw error) state'
  | throwThrows {value : Expr} {state state' : State} {error : Value}
      (throws : behavior.eval value state (.throw error) state') :
    Runs (.throw value) state (.throw error) state'
  | block {body : List Stmt} {state state' : State} {completion : Completion Value}
      (runs : RunsAll body state completion state') : Runs (.block body) state completion state'
  | thenBranch {condition : Expr} {thenBranch : List Stmt} {elseBranch : Option (List Stmt)}
      {state decided state' : State} {value : Value} {completion : Completion Value}
      (yields : behavior.eval condition state (.value value) decided)
      (isTrue : behavior.truthy value = true)
      (runs : RunsAll thenBranch decided completion state') :
    Runs (.ifElse condition thenBranch elseBranch) state completion state'
  /-- A branch that is left out does nothing. -/
  | elseBranch {condition : Expr} {thenBranch : List Stmt} {elseBranch : Option (List Stmt)}
      {state decided state' : State} {value : Value} {completion : Completion Value}
      (yields : behavior.eval condition state (.value value) decided)
      (isFalse : behavior.truthy value = false)
      (runs : RunsAll (elseBranch.getD []) decided completion state') :
    Runs (.ifElse condition thenBranch elseBranch) state completion state'
  | conditionThrows {condition : Expr} {thenBranch : List Stmt} {elseBranch : Option (List Stmt)}
      {state state' : State} {error : Value}
      (throws : behavior.eval condition state (.throw error) state') :
    Runs (.ifElse condition thenBranch elseBranch) state (.throw error) state'
  /-- A finalizer that completes normally, or is left out, keeps the completion that it follows. -/
  | finalized {body : List Stmt} {handler : Option CatchClause} {finalizer : Option (List Stmt)}
      {state tried state' : State} {completion : Completion Value}
      (tries : Tries body handler state completion tried)
      (runs : RunsAll (finalizer.getD []) tried .normal state') :
    Runs (.tryCatch body handler finalizer) state completion state'
  /-- A finalizer that completes abruptly overrides the completion that it follows. -/
  | overridden {body : List Stmt} {handler : Option CatchClause} {finalizer : Option (List Stmt)}
      {state tried state' : State} {pending completion : Completion Value}
      (tries : Tries body handler state pending tried)
      (runs : RunsAll (finalizer.getD []) tried completion state') (abrupt : completion ≠ .normal) :
    Runs (.tryCatch body handler finalizer) state completion state'
/-- Whether a statement list may run from a state to another, and complete in a given way. -/
inductive RunsAll : List Stmt → State → Completion Value → State → Prop
  | nil {state : State} : RunsAll [] state .normal state
  | next {stmt : Stmt} {stmts : List Stmt} {state between state' : State}
      {completion : Completion Value} (runs : Runs stmt state .normal between)
      (rest : RunsAll stmts between completion state') :
    RunsAll (stmt :: stmts) state completion state'
  | stop {stmt : Stmt} {stmts : List Stmt} {state state' : State} {completion : Completion Value}
      (runs : Runs stmt state completion state') (abrupt : completion ≠ .normal) :
    RunsAll (stmt :: stmts) state completion state'
/-- Whether the body of a `try` statement, and its handler if the body throws, may run from a state to
another, and complete in a given way. -/
inductive Tries : List Stmt → Option CatchClause → State → Completion Value → State → Prop
  | uncaught {body : List Stmt} {handler : Option CatchClause} {state state' : State}
      {completion : Completion Value} (runs : RunsAll body state completion state')
      (notCaught : handler = none ∨ ∀ error, completion ≠ .throw error) :
    Tries body handler state completion state'
  | caught {body recover : List Stmt} {param : Option DeclHandle} {state thrown bound state' : State}
      {error result : Value} {completion : Completion Value}
      (throws : RunsAll body state (.throw error) thrown)
      (binds : behavior.bindError param error thrown (.value result) bound)
      (runs : RunsAll recover bound completion state') :
    Tries body (some ⟨param, recover⟩) state completion state'
  | bindThrows {body recover : List Stmt} {param : Option DeclHandle} {state thrown state' : State}
      {error error' : Value} (throws : RunsAll body state (.throw error) thrown)
      (binds : behavior.bindError param error thrown (.throw error') state') :
    Tries body (some ⟨param, recover⟩) state (.throw error') state'
end

/-- Whether a run of a statement list may get to a state in which a given rest of it is still to be
run. -/
inductive Reaches : List Stmt → State → List Stmt → State → Prop
  | start {stmts : List Stmt} {state : State} : Reaches stmts state stmts state
  | next {stmt : Stmt} {stmts rest : List Stmt} {state between state' : State}
      (runs : behavior.Runs stmt state .normal between)
      (further : Reaches stmts between rest state') : Reaches (stmt :: stmts) state rest state'

/-! ## Exits -/

/-- Whether no run of a statement list completes normally. -/
def Abrupt (stmts : List Stmt) : Prop :=
  ∀ state completion state', behavior.RunsAll stmts state completion state' → completion ≠ .normal

variable {behavior}

/-- A `try` statement whose body and handler never complete normally does not do so before its
finalizer. -/
theorem Tries.ne_normal {body : List Stmt} {handler : Option CatchClause} {state state' : State}
    {completion : Completion Value} (bodyAbrupt : behavior.Abrupt body)
    (handlerAbrupt : ∀ param recover, handler = some ⟨param, recover⟩ → behavior.Abrupt recover)
    (tries : behavior.Tries body handler state completion state') : completion ≠ .normal := by
  cases tries with
  | uncaught runs _ => exact bodyAbrupt _ _ _ runs
  | caught _ _ runs => exact handlerAbrupt _ _ rfl _ _ _ runs
  | bindThrows => simp

mutual
/-- A statement that always exits does not complete normally. -/
theorem Runs.ne_normal : ∀ {stmt : Stmt}, stmt.alwaysExits = true →
    ∀ {state state' : State} {completion : Completion Value},
      behavior.Runs stmt state completion state' → completion ≠ .normal
  | .ret _, _, _, _, _, run => by
    cases run with
    | other isOpen _ => cases isOpen
    | retNothing | ret | retThrows => simp
  | .throw _, _, _, _, _, run => by
    cases run with
    | other isOpen _ => cases isOpen
    | throw | throwThrows => simp
  | .block body, exits, _, _, _, run => by
    rw [Stmt.alwaysExits] at exits
    have abrupt : behavior.Abrupt body := abrupt_of_someExits exits
    cases run with
    | other isOpen _ => cases isOpen
    | block runs => exact abrupt _ _ _ runs
  | .ifElse _ thenBranch elseBranch, exits, _, _, _, run => by
    rw [Stmt.alwaysExits, Bool.and_eq_true] at exits
    have thenAbrupt : behavior.Abrupt thenBranch := abrupt_of_someExits exits.1
    have elseAbrupt : behavior.Abrupt (elseBranch.getD []) := by
      -- an `if` statement without an `else` branch does not pass the test
      match elseBranch with
      | none => exact absurd exits.2 (by simp [Stmt.branchExits])
      | some _ => exact abrupt_of_someExits exits.2
    cases run with
    | other isOpen _ => cases isOpen
    | conditionThrows => simp
    | thenBranch _ _ runs => exact thenAbrupt _ _ _ runs
    | elseBranch _ _ runs => exact elseAbrupt _ _ _ runs
  | .tryCatch body handler finalizer, exits, _, _, _, run => by
    rw [Stmt.alwaysExits, Bool.or_eq_true, Bool.and_eq_true] at exits
    rcases exits with finalizerExits | ⟨bodyExits, handlerExits⟩
    · -- the completion of the finalizer overrides whatever was pending
      have abrupt : behavior.Abrupt (finalizer.getD []) := by
        match finalizer with
        | none => exact absurd finalizerExits (by simp [Stmt.branchExits])
        | some _ => exact abrupt_of_someExits finalizerExits
      cases run with
      | other isOpen _ => cases isOpen
      | overridden _ _ notNormal => exact notNormal
      | finalized _ runs => exact absurd rfl (abrupt _ _ _ runs)
    · -- body and handler exit, and a finalizer that completes normally keeps that
      have bodyAbrupt : behavior.Abrupt body := abrupt_of_someExits bodyExits
      have handlerAbrupt : ∀ param recover, handler = some ⟨param, recover⟩ →
          behavior.Abrupt recover := by
        match handler with
        | none => exact fun _ _ isNone => nomatch isNone
        | some ⟨_, _⟩ =>
          rintro _ _ ⟨⟩
          exact abrupt_of_someExits handlerExits
      cases run with
      | other isOpen _ => cases isOpen
      | overridden _ _ notNormal => exact notNormal
      | finalized tries _ => exact tries.ne_normal bodyAbrupt handlerAbrupt
/-- A list that has a statement that always exits does not complete normally: a run stops there, if not
before. -/
theorem abrupt_of_someExits : ∀ {stmts : List Stmt}, Stmt.someExits stmts = true →
    behavior.Abrupt stmts
  | stmt :: stmts, exits => by
    rw [Stmt.someExits, Bool.or_eq_true] at exits
    intro state completion state' run
    cases run with
    | stop _ notNormal => exact notNormal
    | next runs rest =>
      rcases exits with first | later
      · exact absurd rfl (Runs.ne_normal first runs)
      · exact abrupt_of_someExits later _ _ _ rest
end

/-- A run of a list does not get past a statement that always exits. -/
theorem Reaches.isSuffix {stmt : Stmt} (exits : stmt.alwaysExits = true) {before after rest : List Stmt}
    {state state' : State} (reaches : behavior.Reaches (before ++ stmt :: after) state rest state') :
    stmt :: after <:+ rest := by
  induction before generalizing state with
  | nil =>
    cases reaches with
    | start => exact List.suffix_rfl
    | next runs _ => exact absurd rfl (Runs.ne_normal exits runs)
  | cons first before ih =>
    cases reaches with
    | start => exact List.suffix_append (first :: before) (stmt :: after)
    | next _ further => exact ih further

/-- What follows a statement that always exits makes no difference to the runs of its list. -/
theorem RunsAll.replace_after {stmt : Stmt} (exits : stmt.alwaysExits = true)
    {before after : List Stmt} {state state' : State} {completion : Completion Value}
    (run : behavior.RunsAll (before ++ stmt :: after) state completion state') (others : List Stmt) :
    behavior.RunsAll (before ++ stmt :: others) state completion state' := by
  induction before generalizing state with
  | nil =>
    cases run with
    | stop runs notNormal => exact .stop runs notNormal
    | next runs _ => exact absurd rfl (Runs.ne_normal exits runs)
  | cons first before ih =>
    cases run with
    | stop runs notNormal => exact .stop runs notNormal
    | next runs rest => exact .next runs (ih rest)

/-- **The test for exits is sound.** However expressions, conditions, error bindings, loops and `switch`
statements behave, no run of a statement that always exits completes normally. So no run of a list that
it stands in gets past it, and the list runs as if it ended there. -/
theorem alwaysExits_sound (behavior : Behavior State Value) (stmt : Stmt)
    (exits : stmt.alwaysExits = true) :
    (∀ state completion state', behavior.Runs stmt state completion state' → completion ≠ .normal) ∧
    ∀ before after state,
      (∀ rest state', behavior.Reaches (before ++ stmt :: after) state rest state' →
        stmt :: after <:+ rest) ∧
      ∀ completion state', behavior.RunsAll (before ++ stmt :: after) state completion state' ↔
        behavior.RunsAll (before ++ [stmt]) state completion state' := by
  refine ⟨fun state completion state' run => run.ne_normal exits, fun before after state => ⟨?_, ?_⟩⟩
  · intro rest state' reaches
    exact reaches.isSuffix exits
  · intro completion state'
    exact ⟨fun run => run.replace_after exits [], fun run => run.replace_after exits after⟩

end Behavior

/-- All that is left open may end in any way. -/
def Sample.anything : Behavior Unit Unit where
  eval _ _ _ _ := True
  truthy _ := true
  noValue := ()
  bindError _ _ _ _ _ := True
  other _ _ _ _ := True

/-- A `return` that a `break` in the finalizer overrides. -/
def Sample.breakingOut : Stmt := .tryCatch [.ret none] none (some [.breakLoop])

/-- A statement that always exits may still leave by a `break` in its finalizer, but never goes on to
what follows it. -/
theorem Behavior.alwaysExits_sound_sample :
    Sample.breakingOut.alwaysExits = true ∧
      Sample.anything.Runs Sample.breakingOut () .breakLoop () ∧
      ¬ Sample.anything.Runs Sample.breakingOut () .normal () ∧
      ∀ rest, Sample.anything.Reaches [.empty, Sample.breakingOut, .expr .this] () rest () →
        [Sample.breakingOut, .expr .this] <:+ rest := by
  have exits : Sample.breakingOut.alwaysExits = true := rfl
  have tries : Sample.anything.Tries [.ret none] none () (.ret ()) () :=
    .uncaught (.stop .retNothing (by simp)) (.inl rfl)
  obtain ⟨notNormal, inLists⟩ := alwaysExits_sound Sample.anything Sample.breakingOut exits
  refine ⟨exits, .overridden tries (.stop .breakLoop (by simp)) (by simp), ?_, ?_⟩
  · intro run
    exact notNormal _ _ _ run rfl
  · intro rest reaches
    exact (inLists [.empty] [.expr .this] ()).1 rest () reaches

end Overloading
