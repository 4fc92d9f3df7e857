import Mathlib.Data.List.Induction
import Overloading.Proofs.Call.Score

/-! # Scores, one argument at a time

An argument adds to the score what it earns at its own index, whatever stands before it
(`Candidate.score_concat`, `Candidate.exactScore_concat`). No argument earns more than two points or loses
more than two, which bounds the score of every list by its length, and with that the sums that are formed
on the way. A candidate that accepts a number of arguments has a parameter for each of them.

`Candidate.score_tally` puts these together. -/

namespace Overloading

namespace Candidate

variable (candidate : Candidate)

/-! ## What an argument earns -/

/-- The points for the argument at an index as an integer: two if it has the class of its parameter, minus
two if it has the opposite one, and nothing else. -/
def gainAt (arg : ArgumentClass) (index : Nat) : Int :=
  if candidate.holdsAt ArgumentClass.agrees (arg, index) then 2
  else if candidate.holdsAt ArgumentClass.opposes (arg, index) then -2
  else 0

/-- An argument does not both agree with its parameter and oppose it. -/
theorem not_opposes_of_agrees {arg : ArgumentClass × Nat}
    (agrees : candidate.holdsAt ArgumentClass.agrees arg = true) :
    candidate.holdsAt ArgumentClass.opposes arg = false := by
  obtain ⟨arg, index⟩ := arg
  rw [holdsAt] at agrees ⊢
  cases hasParam : candidate.paramFor? index with
  | none => rfl
  | some param =>
    rw [hasParam] at agrees
    revert agrees
    cases arg <;> cases isClass : param.typeClass <;>
      simp [isClass, ArgumentClass.agrees, ArgumentClass.opposes]

/-- The gain as a difference: two for agreeing less two for opposing, of which at most one is the case.
-/
theorem gainAt_eq (arg : ArgumentClass) (index : Nat) :
    candidate.gainAt arg index =
      2 * ((candidate.holdsAt ArgumentClass.agrees (arg, index)).toNat -
        (candidate.holdsAt ArgumentClass.opposes (arg, index)).toNat) := by
  rw [gainAt]
  by_cases agrees : candidate.holdsAt ArgumentClass.agrees (arg, index) = true
  · rw [if_pos agrees, candidate.not_opposes_of_agrees agrees, agrees]
    rfl
  · rw [if_neg agrees, eq_false_of_ne_true agrees]
    cases candidate.holdsAt ArgumentClass.opposes (arg, index) <;> rfl

/-- The points in 32 bits are the gain as an integer. -/
theorem pointsAt_eq (arg : ArgumentClass) (index : Nat) :
    candidate.pointsAt arg index = .ofInt (candidate.gainAt arg index) := by
  rw [gainAt_eq, ← candidate.toInt_pointsAt (arg, index), Int32.ofInt_toInt]

/-! ## One more argument -/

/-- One more argument adds its own points. -/
theorem score_concat (args : List ArgumentClass) (arg : ArgumentClass) :
    candidate.score (args ++ [arg]) =
      candidate.score args + .ofInt (candidate.gainAt arg args.length) := by
  rw [score, score, List.zipIdx_append, List.map_append, List.sum_append]
  simp [pointsAt_eq]

/-- One more argument adds its own gain to the exact score. -/
theorem exactScore_concat (args : List ArgumentClass) (arg : ArgumentClass) :
    candidate.exactScore (args ++ [arg]) =
      candidate.exactScore args + candidate.gainAt arg args.length := by
  rw [exactScore, exactScore, gainAt_eq, List.zipIdx_append, List.countP_append, List.countP_append]
  cases agrees : candidate.holdsAt ArgumentClass.agrees (arg, args.length) <;>
    cases opposes : candidate.holdsAt ArgumentClass.opposes (arg, args.length) <;>
    simp [agrees, opposes] <;> omega

/-- The score is the exact one as far as it fits into 32 bits. -/
theorem score_eq_ofInt (args : List ArgumentClass) :
    candidate.score args = .ofInt (candidate.exactScore args) := by
  -- The list grows at its end, because an argument earns its points at its own index.
  induction args using List.reverseRecOn with
  | nil => rfl
  | append_singleton args arg ih =>
    rw [score_concat, exactScore_concat, Int32.ofInt_add, ih]

/-! ## Bounds -/

/-- The exact score is at most two points for each argument away from zero. -/
theorem exactScore_le (args : List ArgumentClass) :
    -2 * (args.length : Int) ≤ candidate.exactScore args ∧
      candidate.exactScore args ≤ 2 * (args.length : Int) := by
  have agreeing : args.zipIdx.countP (candidate.holdsAt ArgumentClass.agrees) ≤ args.zipIdx.length :=
    List.countP_le_length
  have opposing : args.zipIdx.countP (candidate.holdsAt ArgumentClass.opposes) ≤ args.zipIdx.length :=
    List.countP_le_length
  rw [List.length_zipIdx] at agreeing opposing
  rw [exactScore]
  omega

/-! ## Parameters of arguments -/

variable {candidate}

/-- Within the list of parameters an argument goes to the parameter at its own index. -/
theorem paramFor?_of_lt {index : Nat} (within : index < candidate.parameters.length) :
    candidate.paramFor? index = candidate.parameters[index]? := by
  rw [paramFor?, List.getElem?_eq_getElem within]

/-- Beyond the last parameter it is the rest parameter that takes the arguments. -/
theorem paramFor?_of_length_le {index : Nat} (beyond : candidate.parameters.length ≤ index)
    {param : ParamShape} :
    candidate.paramFor? index = some param ↔
      candidate.parameters.getLast? = some param ∧ param.isRest = true := by
  rw [paramFor?, List.getElem?_eq_none beyond, Option.filter_eq_some_iff]

/-- A candidate that accepts a number of arguments has a parameter for each of them. -/
theorem exists_paramFor?_of_acceptsArity {count : Nat} (accepts : candidate.acceptsArity count = true)
    {index : Nat} (isIndex : index < count) : ∃ param, candidate.paramFor? index = some param := by
  by_cases within : index < candidate.parameters.length
  · exact ⟨candidate.parameters[index],
      (paramFor?_of_lt within).trans (List.getElem?_eq_getElem within)⟩
  · rw [acceptsArity, Bool.and_eq_true, Bool.or_eq_true, decide_eq_true_iff, decide_eq_true_iff] at accepts
    -- more arguments than parameters are accepted only with a rest parameter
    have rest : candidate.hasRest = true := accepts.2.resolve_left (by omega)
    obtain ⟨param, isLast, isRest⟩ := (Option.any_eq_true _ _).mp rest
    exact ⟨param, (paramFor?_of_length_le (Nat.le_of_not_lt within)).mpr ⟨isLast, isRest⟩⟩

variable (candidate) in
/-- **The arithmetic of scores.** The score is twice the difference between the arguments that have the
class of their parameter and those of the opposite class, reduced to 32 bits. One more argument adds two,
minus two or nothing by what it is at its own index. The exact score of every list of arguments from the
front is at most two points for each argument away from zero, so with fewer than 2 ^ 30 arguments all these
sums fit into 32 bits and are exact. An argument is compared with the parameter at its own index, beyond
the last parameter with the rest parameter, and if the number of arguments is accepted, each of them is
compared with a parameter. -/
theorem score_tally (args : List ArgumentClass) :
    candidate.score args = .ofInt (candidate.exactScore args) ∧
    (∀ arg, candidate.exactScore (args ++ [arg]) =
        candidate.exactScore args + candidate.gainAt arg args.length ∧
      candidate.score (args ++ [arg]) =
        candidate.score args + .ofInt (candidate.gainAt arg args.length)) ∧
    (∀ front, front <+: args → -2 * (front.length : Int) ≤ candidate.exactScore front ∧
      candidate.exactScore front ≤ 2 * (front.length : Int)) ∧
    (args.length < 1073741824 → ∀ front, front <+: args →
      Int32.minValue.toInt ≤ candidate.exactScore front ∧
      candidate.exactScore front ≤ Int32.maxValue.toInt ∧
      (candidate.score front).toInt = candidate.exactScore front) ∧
    (∀ index, index < candidate.parameters.length →
      candidate.paramFor? index = candidate.parameters[index]?) ∧
    (∀ index param, candidate.parameters.length ≤ index →
      (candidate.paramFor? index = some param ↔
        candidate.parameters.getLast? = some param ∧ param.isRest = true)) ∧
    (candidate.acceptsArity args.length = true →
      ∀ index < args.length, ∃ param, candidate.paramFor? index = some param) := by
  refine ⟨candidate.score_eq_ofInt args, fun arg => ⟨?_, ?_⟩, ?_, ?_, ?_, ?_, ?_⟩
  · exact candidate.exactScore_concat args arg
  · exact candidate.score_concat args arg
  · intro front _
    exact candidate.exactScore_le front
  · intro few front isFront
    have shorter : front.length ≤ args.length := isFront.length_le
    have bounds := candidate.exactScore_le front
    have least : Int32.minValue.toInt = -2147483648 := rfl
    have greatest : Int32.maxValue.toInt = 2147483647 := rfl
    exact ⟨by omega, by omega, candidate.toInt_score (by omega)⟩
  · intro index within
    exact paramFor?_of_lt within
  · intro index param beyond
    exact paramFor?_of_length_le beyond
  · intro accepts index isIndex
    exact exists_paramFor?_of_acceptsArity accepts isIndex

end Candidate

namespace Sample

/-- `join(separator: string, ...chars: char[])`. -/
def join : Candidate where
  handle := ⟨0⟩
  parameters := [⟨.stringLike, false, false⟩, ⟨.char, false, true⟩]
  isConstructLike := false

/-- A string, two characters, a string and a number. -/
def joined : List ArgumentClass := [.stringLike, .charTyped, .charTyped, .stringLike, .other]

end Sample

namespace Candidate

/-- With the rest parameter of `join`: three arguments that agree earn six points, the string in a place
for characters takes two away, and the last argument earns nothing. -/
theorem score_tally_join :
    Sample.join.acceptsArity Sample.joined.length = true ∧
    [.stringLike, .charTyped, .charTyped] <+: Sample.joined ∧
    (Sample.join.score [.stringLike, .charTyped, .charTyped]).toInt = 6 ∧
    (Sample.join.score Sample.joined).toInt = 4 ∧
    (∃ param, Sample.join.paramFor? 4 = some param) ∧
    Sample.join.paramFor? 0 = some ⟨.stringLike, false, false⟩ ∧
    Sample.join.paramFor? 4 = some ⟨.char, false, true⟩ := by
  obtain ⟨-, -, -, exactly, inside, beyond, hasParam⟩ := Sample.join.score_tally Sample.joined
  have accepts : Sample.join.acceptsArity Sample.joined.length = true := by decide
  have isFront : [.stringLike, .charTyped, .charTyped] <+: Sample.joined := by decide
  refine ⟨accepts, isFront, ?_, ?_, hasParam accepts 4 (by decide), ?_, ?_⟩
  · exact (exactly (by decide) _ isFront).2.2.trans (by decide)
  · exact (exactly (by decide) _ List.prefix_rfl).2.2.trans (by decide)
  · exact (inside 0 (by decide)).trans (by decide)
  · exact (beyond 4 _ (by decide)).mpr (by decide)

end Candidate

end Overloading
