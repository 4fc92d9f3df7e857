import Overloading.Call.Resolve

/-! # The best candidate

The scan over the candidates gives the first of those with the highest score, if that is higher than the
score it starts from, and else what it starts from (`Candidate.foldl_better_cases`).

Scores are sums in 32 bits. `Candidate.exactScore` is the score as an integer: two points for each
argument that has the class of its parameter, less two for each of the opposite class. With few enough
arguments the two agree (`Candidate.toInt_score`). -/

namespace Overloading

namespace Candidate

/-! ## The scan -/

section Scan

variable {resolved : DeclHandle} {args : List ArgumentClass}

/-- Whether a candidate is the first of those with the highest score. -/
def IsFirstBest (candidates : List Candidate) (args : List ArgumentClass) (winner : Candidate) : Prop :=
  ∃ before after, candidates = before ++ winner :: after ∧
    (∀ candidate ∈ before, candidate.score args < winner.score args) ∧
    ∀ candidate ∈ after, candidate.score args ≤ winner.score args

/-- The first of the best candidates is one of the candidates. -/
theorem IsFirstBest.mem {candidates : List Candidate} {winner : Candidate}
    (first : IsFirstBest candidates args winner) : winner ∈ candidates := by
  obtain ⟨before, after, rfl, _, _⟩ := first
  exact List.mem_append_right _ List.mem_cons_self

/-- No candidate has a higher score than the first of the best. -/
theorem IsFirstBest.score_le {candidates : List Candidate} {winner : Candidate}
    (first : IsFirstBest candidates args winner) :
    ∀ candidate ∈ candidates, candidate.score args ≤ winner.score args := by
  obtain ⟨before, after, rfl, lower, notHigher⟩ := first
  intro candidate mem
  rcases List.mem_append.mp mem with mem | mem
  · exact Int32.le_of_lt (lower candidate mem)
  · rcases List.mem_cons.mp mem with same | mem
    · exact same ▸ Int32.le_rfl
    · exact notHigher candidate mem

/-- A candidate with a lower score may be put in front. -/
theorem IsFirstBest.cons {candidate : Candidate} {candidates : List Candidate} {winner : Candidate}
    (lower : candidate.score args < winner.score args)
    (first : IsFirstBest candidates args winner) : IsFirstBest (candidate :: candidates) args winner := by
  obtain ⟨before, after, rfl, allLower, notHigher⟩ := first
  exact ⟨candidate :: before, after, rfl, List.forall_mem_cons.mpr ⟨lower, allLower⟩, notHigher⟩

/-- What the scan gives: what it starts from, if no candidate has a higher score, and else the first
candidate with the highest score. The candidates that it passes over must have no higher score than it
starts from. -/
theorem foldl_better_cases {candidates : List Candidate} {best : DeclHandle × Int32}
    (passed : ∀ candidate ∈ candidates, candidate.handle = resolved → candidate.score args ≤ best.2) :
    ((∀ candidate ∈ candidates, candidate.score args ≤ best.2) ∧
        candidates.foldl (better resolved args) best = best) ∨
      ∃ winner, IsFirstBest candidates args winner ∧ best.2 < winner.score args ∧
        candidates.foldl (better resolved args) best = (winner.handle, winner.score args) := by
  -- The scan may start from any pair; only a strictly higher score replaces it.
  induction candidates generalizing best with
  | nil => exact .inl ⟨List.forall_mem_nil _, rfl⟩
  | cons candidate candidates ih =>
    obtain ⟨firstPassed, othersPassed⟩ := List.forall_mem_cons.mp passed
    rw [List.foldl_cons]
    by_cases higher : best.2 < candidate.score args
    · -- the scan goes on from the candidate
      have other : candidate.handle ≠ resolved :=
        fun same => Int32.not_lt.mpr (firstPassed same) higher
      rw [better, if_neg other, if_pos higher]
      have stillPassed : ∀ next ∈ candidates, next.handle = resolved →
          next.score args ≤ candidate.score args :=
        fun next mem same => Int32.le_trans (othersPassed next mem same) (Int32.le_of_lt higher)
      rcases @ih (candidate.handle, candidate.score args) stillPassed with
        ⟨notHigher, kept⟩ | ⟨winner, first, more, found⟩
      · exact .inr ⟨candidate, ⟨[], candidates, rfl, List.forall_mem_nil _, notHigher⟩, higher, kept⟩
      · exact .inr ⟨winner, first.cons more, Int32.lt_trans higher more, found⟩
    · -- the scan keeps what it has
      have keeps : better resolved args best candidate = best := by
        rw [better, if_neg higher, ite_self]
      have notHigher : candidate.score args ≤ best.2 := Int32.not_lt.mp higher
      rw [keeps]
      rcases ih othersPassed with ⟨others, kept⟩ | ⟨winner, first, more, found⟩
      · exact .inl ⟨List.forall_mem_cons.mpr ⟨notHigher, others⟩, kept⟩
      · exact .inr ⟨winner, first.cons (Int32.lt_of_le_of_lt notHigher more), more, found⟩

end Scan

/-- What is picked, where no other candidate stands for the resolved signature. -/
theorem pickBest_cases {candidates : List Candidate} {resolved : Candidate}
    {args : List ArgumentClass}
    (unique : ∀ candidate ∈ candidates, candidate.handle = resolved.handle → candidate = resolved) :
    ((∀ candidate ∈ candidates, candidate.score args ≤ resolved.score args) ∧
        pickBest candidates resolved args = (resolved.handle, resolved.score args)) ∨
      ∃ winner, IsFirstBest candidates args winner ∧ resolved.score args < winner.score args ∧
        pickBest candidates resolved args = (winner.handle, winner.score args) := by
  have passed : ∀ candidate ∈ candidates, candidate.handle = resolved.handle →
      candidate.score args ≤ resolved.score args :=
    fun candidate mem same => unique candidate mem same ▸ Int32.le_rfl
  exact @foldl_better_cases _ _ _ (resolved.handle, resolved.score args) passed

/-- A resolved signature with the highest score is kept. -/
theorem pickBest_eq_self {candidates : List Candidate} {resolved : Candidate}
    {args : List ArgumentClass}
    (highest : ∀ candidate ∈ candidates, candidate.score args ≤ resolved.score args) :
    pickBest candidates resolved args = (resolved.handle, resolved.score args) := by
  have passed : ∀ candidate ∈ candidates, candidate.handle = resolved.handle →
      candidate.score args ≤ resolved.score args := fun candidate mem _ => highest candidate mem
  rcases @foldl_better_cases _ _ _ (resolved.handle, resolved.score args) passed with
    ⟨_, kept⟩ | ⟨winner, first, more, _⟩
  · exact kept
  · exact absurd (highest winner first.mem) (Int32.not_le.mpr more)

end Candidate

/-! ## Exact scores -/

namespace ArgumentClass

/-- Whether an argument has the class of its parameter. -/
def agrees : ArgumentClass → TypeClass → Bool
  | .charTyped, .char => true
  | .stringLike, .stringLike => true
  | _, _ => false

/-- Whether an argument is a character where a string is declared, or the other way round. -/
def opposes : ArgumentClass → TypeClass → Bool
  | .charTyped, .stringLike => true
  | .stringLike, .char => true
  | _, _ => false

/-- The points for an argument as an integer. -/
theorem toInt_points (arg : ArgumentClass) (param : TypeClass) :
    (arg.points param).toInt = 2 * ((arg.agrees param).toNat - (arg.opposes param).toNat) := by
  cases arg <;> cases param <;> decide

end ArgumentClass

namespace Candidate

/-- Whether a relation holds between the argument at an index and the class of its parameter. -/
def holdsAt (candidate : Candidate) (relation : ArgumentClass → TypeClass → Bool)
    (arg : ArgumentClass × Nat) : Bool :=
  (candidate.paramFor? arg.2).any fun param => relation arg.1 param.typeClass

/-- The score as an integer: two for each argument that has the class of its parameter, less two for each
that has the opposite one. -/
def exactScore (candidate : Candidate) (args : List ArgumentClass) : Int :=
  2 * (args.zipIdx.countP (candidate.holdsAt ArgumentClass.agrees) -
    args.zipIdx.countP (candidate.holdsAt ArgumentClass.opposes))

/-- The points at an index are two, minus two or zero by whether the argument agrees with its parameter
or opposes it. -/
theorem toInt_pointsAt (candidate : Candidate) (arg : ArgumentClass × Nat) :
    (candidate.pointsAt arg.1 arg.2).toInt =
      2 * ((candidate.holdsAt ArgumentClass.agrees arg).toNat -
        (candidate.holdsAt ArgumentClass.opposes arg).toNat) := by
  rw [pointsAt, holdsAt, holdsAt]
  cases candidate.paramFor? arg.2 with
  | none => rfl
  | some param => exact arg.1.toInt_points param.typeClass

/-- The points for few enough arguments add up to twice the difference of the counts. -/
theorem toInt_sum_pointsAt (candidate : Candidate) {args : List (ArgumentClass × Nat)}
    (few : args.length < 1073741824) :
    (args.map fun arg => candidate.pointsAt arg.1 arg.2).sum.toInt =
      2 * (args.countP (candidate.holdsAt ArgumentClass.agrees) -
        args.countP (candidate.holdsAt ArgumentClass.opposes)) := by
  induction args with
  | nil => rfl
  | cons arg args ih =>
    rw [List.length_cons] at few
    have agreeing : args.countP (candidate.holdsAt ArgumentClass.agrees) ≤ args.length :=
      List.countP_le_length
    have opposing : args.countP (candidate.holdsAt ArgumentClass.opposes) ≤ args.length :=
      List.countP_le_length
    have firstAgreeing := Bool.toNat_le (candidate.holdsAt ArgumentClass.agrees arg)
    have firstOpposing := Bool.toNat_le (candidate.holdsAt ArgumentClass.opposes arg)
    rw [List.map_cons, List.sum_cons, Int32.toInt_add, ih (by omega), toInt_pointsAt]
    -- no more points than two for each argument, so the sum stays in range
    rw [Int.bmod_eq_of_le (by omega) (by omega), List.countP_cons, List.countP_cons]
    cases candidate.holdsAt ArgumentClass.agrees arg <;>
      cases candidate.holdsAt ArgumentClass.opposes arg <;> simp <;> omega

/-- With few enough arguments the score is exact. -/
theorem toInt_score (candidate : Candidate) {args : List ArgumentClass}
    (few : args.length < 1073741824) : (candidate.score args).toInt = candidate.exactScore args := by
  have fewIndexed : args.zipIdx.length < 1073741824 := by
    rw [List.length_zipIdx]
    exact few
  exact candidate.toInt_sum_pointsAt fewIndexed

/-- With few enough arguments scores compare as the exact scores do. -/
theorem score_le_iff {one other : Candidate} {args : List ArgumentClass}
    (few : args.length < 1073741824) :
    one.score args ≤ other.score args ↔ one.exactScore args ≤ other.exactScore args := by
  rw [Int32.le_iff_toInt_le, toInt_score one few, toInt_score other few]

/-- With few enough arguments scores compare strictly as the exact scores do. -/
theorem score_lt_iff {one other : Candidate} {args : List ArgumentClass}
    (few : args.length < 1073741824) :
    one.score args < other.score args ↔ one.exactScore args < other.exactScore args := by
  rw [Int32.lt_iff_toInt_lt, toInt_score one few, toInt_score other few]

/-- Arguments that are neither characters nor strings tell no candidates apart. -/
theorem exactScore_eq_zero (candidate : Candidate) {args : List ArgumentClass}
    (neutral : ∀ arg ∈ args, arg = .other) : candidate.exactScore args = 0 := by
  have absent (relation : ArgumentClass → TypeClass → Bool)
      (never : ∀ param, relation .other param = false) :
      args.zipIdx.countP (candidate.holdsAt relation) = 0 := by
    rw [List.countP_eq_zero]
    intro arg mem
    have isOther : arg.1 = .other := neutral _ (List.fst_mem_of_mem_zipIdx mem)
    simp [holdsAt, isOther, never]
  rw [exactScore, absent _ fun param => by cases param <;> rfl,
    absent _ fun param => by cases param <;> rfl]
  rfl

end Candidate

end Overloading
