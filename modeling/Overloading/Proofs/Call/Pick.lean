import Overloading.Call.Resolve
import Overloading.Proofs.Call.Score
import Overloading.Proofs.Except
import Overloading.Proofs.Registry

/-! # Which signature is picked

A call is resolved anew among the declarations next to the one that it is resolved to: those that can be
called in the same way with as many arguments (`CallSite.Suits`). It gets the first of those with the
highest score, if that is higher than the score of the declaration that it had
(`CallSite.resolve_first_best`). -/

namespace Overloading

/-! ## What can be called -/

namespace Registry

variable (registry : Registry)

/-- Whether a declaration can be called and all its parameters are registered. -/
def Callable (handle : DeclHandle) : Prop :=
  ∃ facts, registry.facts? handle = some facts ∧
    (facts.kind.isFunctionLike = true ∨ facts.kind.isConstructLike = true) ∧
    ∀ param ∈ facts.params, (registry.facts? param).isSome

/-- Whether a parameter needs an argument. -/
def isRequired (param : DeclHandle) : Bool :=
  (registry.facts? param).any fun facts => !facts.isOptional && !facts.isRest

/-- Whether a parameter takes all further arguments. -/
def isRest (param : DeclHandle) : Bool := (registry.facts? param).any fun facts => facts.isRest

/-- Whether parameters can take a number of arguments: there is one for each that needs one, and there are
no more than parameters, unless the last one takes all further ones. -/
def Accepts (params : List DeclHandle) (count : Nat) : Prop :=
  params.countP registry.isRequired ≤ count ∧
    (count ≤ params.length ∨ params.getLast?.any registry.isRest = true)

end Registry

/-- Whether a declaration can be called in the way of a site and with as many arguments. -/
def CallSite.Suits (site : CallSite) (registry : Registry) (handle : DeclHandle) : Prop :=
  registry.Callable handle ∧
    ∃ facts, registry.facts? handle = some facts ∧
      (facts.kind.isConstructLike = true ↔ site.kind = .new) ∧
      registry.Accepts facts.params site.args.length

variable {registry : Registry} {options : Options}

namespace Candidate

/-- What the candidate of a declaration is. -/
theorem ofDecl?_eq_some_iff {handle : DeclHandle} {candidate : Candidate} :
    ofDecl? registry options handle = some candidate ↔
      ∃ facts, registry.facts? handle = some facts ∧
        (facts.kind.isFunctionLike = true ∨ facts.kind.isConstructLike = true) ∧
        List.Forall₂ (fun param shape => ParamShape.ofDecl? registry options param = some shape)
          facts.params candidate.parameters ∧
        candidate.handle = handle ∧ candidate.isConstructLike = facts.kind.isConstructLike := by
  simp only [ofDecl?, Option.bind_eq_bind, Option.bind_eq_some_iff, ← Bool.or_eq_true]
  refine exists_congr fun facts => and_congr_right fun _ => ?_
  by_cases callable : (facts.kind.isFunctionLike || facts.kind.isConstructLike) = true
  · rw [if_pos callable, and_iff_right callable, Option.bind_eq_some_iff]
    constructor
    · rintro ⟨parameters, shapes, made⟩
      cases made
      exact ⟨mapM_eq_some_iff.mp shapes, rfl, rfl⟩
    · rintro ⟨shapes, isHandle, isKind⟩
      refine ⟨candidate.parameters, mapM_eq_some_iff.mpr shapes, ?_⟩
      rw [← isHandle, ← isKind]
      rfl
  · simp [callable]

/-- The candidate of a declaration carries its handle. -/
theorem handle_of_ofDecl? {handle : DeclHandle} {candidate : Candidate}
    (made : ofDecl? registry options handle = some candidate) : candidate.handle = handle := by
  obtain ⟨facts, _, _, _, isHandle, _⟩ := ofDecl?_eq_some_iff.mp made
  exact isHandle

/-- A declaration has a candidate iff it can be called. -/
theorem exists_ofDecl?_iff {handle : DeclHandle} :
    (∃ candidate, ofDecl? registry options handle = some candidate) ↔ registry.Callable handle := by
  have shapes (params : List DeclHandle) :
      (∃ parameters, List.Forall₂ (fun param shape =>
          ParamShape.ofDecl? registry options param = some shape) params parameters) ↔
        ∀ param ∈ params, (registry.facts? param).isSome := by
    simp [exists_forall₂_iff, ParamShape.ofDecl?, Option.isSome_iff_exists]
  simp only [ofDecl?_eq_some_iff, Registry.Callable, ← shapes]
  constructor
  · rintro ⟨candidate, facts, isFacts, callable, made, _⟩
    exact ⟨facts, isFacts, callable, _, made⟩
  · rintro ⟨facts, isFacts, callable, parameters, made⟩
    exact ⟨⟨handle, parameters, facts.kind.isConstructLike⟩, facts, isFacts, callable, made, rfl, rfl⟩

/-- A candidate accepts as many arguments as the parameters of its declaration do. -/
theorem acceptsArity_iff {params : List DeclHandle} {candidate : Candidate}
    (shapes : List.Forall₂ (fun param shape => ParamShape.ofDecl? registry options param = some shape)
      params candidate.parameters) (count : Nat) :
    candidate.acceptsArity count = true ↔ registry.Accepts params count := by
  -- what a test on shapes says of a candidate, it says of the facts of the parameters
  have agree {test : ParamShape → Bool} {ofParam : DeclHandle → Bool}
      (each : ∀ param shape, ParamShape.ofDecl? registry options param = some shape →
        test shape = ofParam param) : candidate.parameters.map test = params.map ofParam := by
    rw [eq_comm, ← List.forall₂_eq_eq_eq, List.forall₂_map_left_iff, List.forall₂_map_right_iff]
    exact shapes.imp fun param shape made => (each param shape made).symm
  have required : candidate.parameters.map (fun shape => !shape.isOptional && !shape.isRest) =
      params.map registry.isRequired := by
    refine agree fun param shape made => ?_
    obtain ⟨facts, isFacts, rfl⟩ := Option.map_eq_some_iff.mp made
    simp [Registry.isRequired, isFacts]
  have rest : candidate.parameters.map (fun shape => shape.isRest) = params.map registry.isRest := by
    refine agree fun param shape made => ?_
    obtain ⟨facts, isFacts, rfl⟩ := Option.map_eq_some_iff.mp made
    simp [Registry.isRest, isFacts]
  have requiredCount : candidate.requiredCount = params.countP registry.isRequired := by
    simpa [Candidate.requiredCount, List.countP_map, Function.comp_def] using
      congrArg (List.countP id) required
  have hasRest : candidate.hasRest = params.getLast?.any registry.isRest := by
    simpa [Candidate.hasRest, List.getLast?_map, Option.any_map, Function.comp_def] using
      congrArg (fun flags => flags.getLast?.any id) rest
  simp [acceptsArity, Registry.Accepts, requiredCount, hasRest, shapes.length_eq]

end Candidate

/-! ## The candidates of a site -/

namespace CallSite

variable {site : CallSite}

/-- What a candidate of a site is. -/
theorem mem_fitting_iff {candidate : Candidate} :
    candidate ∈ site.fitting registry options ↔
      candidate.handle ∈ registry.siblings site.resolved ∧
        Candidate.ofDecl? registry options candidate.handle = some candidate ∧
        site.fits candidate = true := by
  rw [fitting, List.mem_filter, List.mem_filterMap]
  constructor
  · rintro ⟨⟨handle, isSibling, made⟩, fits⟩
    have isHandle : candidate.handle = handle := Candidate.handle_of_ofDecl? made
    subst isHandle
    exact ⟨isSibling, made, fits⟩
  · rintro ⟨isSibling, made, fits⟩
    exact ⟨⟨candidate.handle, isSibling, made⟩, fits⟩

/-- A declaration suits a site iff it has a candidate that fits. -/
theorem suits_iff {handle : DeclHandle} :
    site.Suits registry handle ↔
      ∃ candidate, Candidate.ofDecl? registry options handle = some candidate ∧
        site.fits candidate = true := by
  -- The shapes of the parameters say all that the arity check asks of the declaration.
  have fits_iff {facts : DeclFacts} {candidate : Candidate}
      (shapes : List.Forall₂ (fun param shape =>
        ParamShape.ofDecl? registry options param = some shape) facts.params candidate.parameters)
      (isKind : candidate.isConstructLike = facts.kind.isConstructLike) :
      site.fits candidate = true ↔
        (facts.kind.isConstructLike = true ↔ site.kind = .new) ∧
          registry.Accepts facts.params site.args.length := by
    rw [fits, Bool.and_eq_true, Candidate.acceptsArity_iff shapes, isKind, decide_eq_true_iff, eq_iff_iff]
  constructor
  · rintro ⟨callable, facts, isFacts, suits⟩
    obtain ⟨candidate, made⟩ := Candidate.exists_ofDecl?_iff.mpr callable
    obtain ⟨facts', isFacts', _, shapes, _, isKind⟩ := Candidate.ofDecl?_eq_some_iff.mp made
    obtain rfl : facts' = facts := Option.some.inj (isFacts'.symm.trans isFacts)
    exact ⟨candidate, made, (fits_iff shapes isKind).mpr suits⟩
  · rintro ⟨candidate, made, fits⟩
    obtain ⟨facts, isFacts, _, shapes, _, isKind⟩ := Candidate.ofDecl?_eq_some_iff.mp made
    exact ⟨Candidate.exists_ofDecl?_iff.mp ⟨candidate, made⟩, facts, isFacts,
      (fits_iff shapes isKind).mp fits⟩

instance (registry : Registry) (handle : DeclHandle) : Decidable (site.Suits registry handle) :=
  decidable_of_iff ((Candidate.ofDecl? registry default handle).any site.fits = true) <| by
    rw [suits_iff, Option.any_eq_true]

/-- A candidate of a site that stands for the resolved signature is its candidate. -/
theorem unique_of_fitting {resolved : Candidate}
    (ofResolved : Candidate.ofDecl? registry options site.resolved = some resolved) :
    ∀ candidate ∈ site.fitting registry options, candidate.handle = resolved.handle →
      candidate = resolved := by
  intro candidate mem same
  obtain ⟨_, made, _⟩ := mem_fitting_iff.mp mem
  rw [same, Candidate.handle_of_ofDecl? ofResolved, ofResolved] at made
  exact (Option.some.inj made).symm

/-- When a site has candidates to choose from. -/
theorem candidates?_eq_some_iff {candidates : List Candidate} :
    site.candidates? registry options = some candidates ↔
      site.hasSpread = false ∧ 2 ≤ candidates.length ∧
        candidates = site.fitting registry options := by
  rw [candidates?]
  by_cases spread : site.hasSpread = true
  · simp [spread]
  · rw [Bool.not_eq_true] at spread
    -- fewer than two candidates are no choice
    by_cases few : (site.fitting registry options).length < 2
    · simp only [spread, few, if_true]
      constructor
      · rintro ⟨⟩
      · rintro ⟨_, several, rfl⟩
        omega
    · simp only [spread, few]
      constructor
      · rintro ⟨rfl⟩
        exact ⟨trivial, by omega, rfl⟩
      · rintro ⟨_, _, rfl⟩
        rfl

/-- When a site gets a pick. -/
theorem pick?_eq_some_iff {pick : DeclHandle × Int32} :
    site.pick? registry options = some pick ↔
      options.tieBreak = true ∧ ∃ candidates resolved,
        site.candidates? registry options = some candidates ∧
        Candidate.ofDecl? registry options site.resolved = some resolved ∧
        Candidate.pickBest candidates resolved
          (site.args.map fun arg => arg.argumentClass registry options) = pick := by
  rw [pick?]
  by_cases tieBreak : options.tieBreak = true
  · simp [tieBreak, Option.bind_eq_some_iff]
  · simp [tieBreak]

/-! ## The first of the best -/

/-- The declarations next to the resolved one that suit a site, in order of declaration. -/
def rivals (site : CallSite) (registry : Registry) : List DeclHandle :=
  (registry.siblings site.resolved).filter fun handle => site.Suits registry handle

/-- The classes of the arguments of a site. -/
def argClasses (site : CallSite) (registry : Registry) (options : Options) : List ArgumentClass :=
  site.args.map fun arg => arg.argumentClass registry options

/-- The exact score of a declaration at a site, if it can be called at all. -/
def scoreOf? (site : CallSite) (registry : Registry) (options : Options) (handle : DeclHandle) :
    Option Int :=
  (Candidate.ofDecl? registry options handle).map fun candidate =>
    candidate.exactScore (site.argClasses registry options)

/-- The highest score of the rivals of a site, if it has any. -/
def highest? (site : CallSite) (registry : Registry) (options : Options) : Option Int :=
  ((site.rivals registry).filterMap (site.scoreOf? registry options)).max?

/-- Whether there is nothing to choose at a site. -/
def Fixed (site : CallSite) (registry : Registry) (options : Options) : Prop :=
  options.tieBreak = false ∨ (∃ inner, .spread inner ∈ site.args) ∨
    ¬ registry.Callable site.resolved ∨ (site.rivals registry).length < 2

/-- The candidates of a site stand for the rivals, in the same order. -/
theorem map_handle_fitting (site : CallSite) (registry : Registry) (options : Options) :
    (site.fitting registry options).map (fun candidate => candidate.handle) = site.rivals registry := by
  rw [fitting, rivals]
  induction registry.siblings site.resolved with
  | nil => rfl
  | cons handle handles ih =>
    have suits : site.Suits registry handle ↔ _ := @suits_iff registry options site handle
    cases made : Candidate.ofDecl? registry options handle with
    | none => simp [made, ih, suits]
    | some candidate =>
      have isHandle : candidate.handle = handle := Candidate.handle_of_ofDecl? made
      by_cases fits : site.fits candidate = true <;> simp [made, ih, suits, fits, isHandle]

/-- Looking up the score of a fitting candidate by its handle gives the exact score of that candidate.
-/
theorem scoreOf?_handle {candidate : Candidate} (mem : candidate ∈ site.fitting registry options) :
    site.scoreOf? registry options candidate.handle =
      some (candidate.exactScore (site.argClasses registry options)) := by
  obtain ⟨_, made, _⟩ := mem_fitting_iff.mp mem
  rw [scoreOf?, made]
  rfl

/-- The highest score of a site is the maximum of the exact scores of its fitting candidates. -/
theorem highest?_eq (site : CallSite) (registry : Registry) (options : Options) :
    site.highest? registry options =
      ((site.fitting registry options).map fun candidate =>
        candidate.exactScore (site.argClasses registry options)).max? := by
  rw [highest?, ← map_handle_fitting site registry options, List.filterMap_map, ← List.filterMap_eq_map]
  exact congrArg List.max? (List.filterMap_congr fun candidate mem => scoreOf?_handle mem)

/-- A site has a spread iff one of its arguments is a spread. -/
theorem hasSpread_iff : site.hasSpread = true ↔ ∃ inner, .spread inner ∈ site.args := by
  have isSpread_iff (expr : Expr) : isSpread expr = true ↔ ∃ inner, expr = .spread inner := by
    cases expr <;> simp [isSpread]
  simp only [hasSpread, List.any_eq_true, isSpread_iff]
  constructor
  · rintro ⟨_, mem, inner, rfl⟩
    exact ⟨inner, mem⟩
  · rintro ⟨inner, mem⟩
    exact ⟨_, mem, inner, rfl⟩

/-- A site gets a pick unless there is nothing to choose. -/
theorem exists_pick?_iff :
    (∃ pick, site.pick? registry options = some pick) ↔ ¬ site.Fixed registry options := by
  -- candidates and rivals are the same declarations, so there are equally many
  have count : (site.fitting registry options).length = (site.rivals registry).length := by
    rw [← map_handle_fitting site registry options, List.length_map]
  constructor
  · rintro ⟨pick, picks⟩
    obtain ⟨tieBreak, _, resolved, collected, ofResolved, _⟩ := pick?_eq_some_iff.mp picks
    obtain ⟨noSpread, several, rfl⟩ := candidates?_eq_some_iff.mp collected
    rintro (off | spread | notCallable | few)
    · simp [tieBreak] at off
    · simp [hasSpread_iff.mpr spread] at noSpread
    · exact notCallable (Candidate.exists_ofDecl?_iff.mp ⟨resolved, ofResolved⟩)
    · omega
  · intro choice
    simp only [Fixed, not_or, not_not, Bool.not_eq_false] at choice
    obtain ⟨tieBreak, noSpread, callable, several⟩ := choice
    obtain ⟨resolved, ofResolved⟩ := Candidate.exists_ofDecl?_iff.mpr callable
    rw [← hasSpread_iff, Bool.not_eq_true] at noSpread
    have collected : site.candidates? registry options = some (site.fitting registry options) :=
      candidates?_eq_some_iff.mpr ⟨noSpread, by omega, rfl⟩
    exact ⟨_, pick?_eq_some_iff.mpr ⟨tieBreak, _, resolved, collected, ofResolved, rfl⟩⟩

section FirstBest

variable {winner : Candidate} (few : (site.argClasses registry options).length < 1073741824)
  (first : Candidate.IsFirstBest (site.fitting registry options) (site.argClasses registry options)
    winner)

include few first

/-- The first of the best candidates has the highest score. -/
theorem highest?_of_isFirstBest : site.highest? registry options =
    some (winner.exactScore (site.argClasses registry options)) := by
  rw [highest?_eq, List.max?_eq_some_iff]
  refine ⟨List.mem_map_of_mem first.mem, List.forall_mem_map.mpr fun candidate mem => ?_⟩
  exact (Candidate.score_le_iff few).mp (first.score_le candidate mem)

/-- In the order of declaration, the first of the best candidates is the first rival that has its score.
-/
theorem find?_of_isFirstBest :
    (site.rivals registry).find? (fun handle => site.scoreOf? registry options handle =
      some (winner.exactScore (site.argClasses registry options))) = some winner.handle := by
  have scores {candidate : Candidate} := @scoreOf?_handle registry options site candidate
  rw [List.find?_eq_some_iff_append, ← map_handle_fitting site registry options]
  refine ⟨decide_eq_true (scores first.mem), ?_⟩
  obtain ⟨before, after, split, lower, _⟩ := first
  rw [split] at scores ⊢
  refine ⟨before.map _, after.map _, List.map_append, List.forall_mem_map.mpr fun candidate mem => ?_⟩
  have isLower : candidate.exactScore _ < winner.exactScore _ :=
    (Candidate.score_lt_iff few).mp (lower candidate mem)
  rw [scores (List.mem_append_left _ mem)]
  simp [Int.ne_of_lt isLower]

end FirstBest

/-- Where there is a choice, the resolved signature and the rivals have scores, and the first rival with
the highest score is taken if it is better than the resolved signature. -/
theorem resolve_of_choice (few : site.args.length < 1073741824)
    (choice : ¬ site.Fixed registry options) :
    ∃ own best, site.scoreOf? registry options site.resolved = some own ∧
      site.highest? registry options = some best ∧
      (best ≤ own → site.resolve registry options = site.resolved) ∧
      (own < best →
        (site.rivals registry).find? (fun handle => site.scoreOf? registry options handle = some best) =
          some (site.resolve registry options)) := by
  obtain ⟨pick, picks⟩ := exists_pick?_iff.mpr choice
  obtain ⟨_, _, resolved, collected, ofResolved, isPick⟩ := pick?_eq_some_iff.mp picks
  obtain ⟨_, several, rfl⟩ := candidates?_eq_some_iff.mp collected
  have isResolve : site.resolve registry options = pick.1 := by rw [resolve, picks]
  rw [← isPick] at isResolve
  have own : site.scoreOf? registry options site.resolved =
      some (resolved.exactScore (site.argClasses registry options)) := by
    rw [scoreOf?, ofResolved]
    rfl
  -- so few arguments that the scores of the scan are the exact ones
  have fewClasses : (site.argClasses registry options).length < 1073741824 := by
    rw [argClasses, List.length_map]
    exact few
  rcases @Candidate.pickBest_cases _ _ (site.argClasses registry options) (unique_of_fitting ofResolved)
    with ⟨notHigher, kept⟩ | ⟨winner, first, more, found⟩
  · -- no candidate beats the resolved one, so the highest score is no higher than its own
    have nonempty : site.highest? registry options ≠ none := by
      rw [highest?_eq, ne_eq, List.max?_eq_none_iff, List.map_eq_nil_iff, ← List.length_eq_zero_iff]
      omega
    obtain ⟨best, isHighest⟩ := Option.ne_none_iff_exists'.mp nonempty
    have bound : best ≤ resolved.exactScore (site.argClasses registry options) := by
      have reached := (List.max?_eq_some_iff.mp (highest?_eq site registry options ▸ isHighest)).1
      obtain ⟨candidate, mem, rfl⟩ := List.mem_map.mp reached
      exact (Candidate.score_le_iff fewClasses).mp (notHigher candidate mem)
    refine ⟨_, best, own, isHighest, fun _ => ?_, fun more => absurd bound (Int.not_le.mpr more)⟩
    exact isResolve.trans ((congrArg Prod.fst kept).trans (Candidate.handle_of_ofDecl? ofResolved))
  · -- the scan has found a winner, which is the first rival with the highest score
    have isLower : resolved.exactScore _ < winner.exactScore _ :=
      (Candidate.score_lt_iff fewClasses).mp more
    refine ⟨_, _, own, highest?_of_isFirstBest fewClasses first,
      fun bound => absurd isLower (Int.not_lt.mpr bound), fun _ => ?_⟩
    have toWinner : site.resolve registry options = winner.handle :=
      isResolve.trans (congrArg Prod.fst found)
    rw [toWinner]
    exact find?_of_isFirstBest fewClasses first

/-- **A call goes to the first of the best signatures.** Where there is nothing to choose, a call keeps
its signature. Else it gets the first rival with the highest score, if that is higher than the score of
the signature that it has, whether or not this one is a rival. So a signature is replaced only by a rival
with a better score, and never where no argument is a character or a string. -/
theorem resolve_first_best (site : CallSite) (registry : Registry) (options : Options)
    (few : site.args.length < 1073741824) :
    (site.Fixed registry options → site.resolve registry options = site.resolved) ∧
    (¬ site.Fixed registry options →
      ∃ own best, site.scoreOf? registry options site.resolved = some own ∧
        site.highest? registry options = some best ∧
        (best ≤ own → site.resolve registry options = site.resolved) ∧
        (own < best →
          (site.rivals registry).find? (fun handle => site.scoreOf? registry options handle = some best) =
            some (site.resolve registry options))) ∧
    (site.resolve registry options = site.resolved ∨
      ∃ own better, site.scoreOf? registry options site.resolved = some own ∧
        site.resolve registry options ∈ site.rivals registry ∧
        site.scoreOf? registry options (site.resolve registry options) = some better ∧ own < better) ∧
    ((∀ kind ∈ site.argClasses registry options, kind = .other) →
      site.resolve registry options = site.resolved) := by
  have fixed (noChoice : site.Fixed registry options) :
      site.resolve registry options = site.resolved := by
    cases picks : site.pick? registry options with
    | none => rw [resolve, picks]
    | some pick => exact absurd noChoice (exists_pick?_iff.mp ⟨pick, picks⟩)
  refine ⟨fixed, resolve_of_choice few, ?_, fun neutral => ?_⟩
  · by_cases noChoice : site.Fixed registry options
    · exact .inl (fixed noChoice)
    · obtain ⟨own, best, isOwn, _, keeps, changes⟩ := resolve_of_choice few noChoice
      rcases Int.lt_or_le own best with more | bound
      · have found := changes more
        have isBest := List.find?_some found
        exact .inr ⟨own, best, isOwn, List.mem_of_find?_eq_some found, of_decide_eq_true isBest, more⟩
      · exact .inl (keeps bound)
  · by_cases noChoice : site.Fixed registry options
    · exact fixed noChoice
    · obtain ⟨own, best, isOwn, isHighest, keeps, _⟩ := resolve_of_choice few noChoice
      -- without characters and strings among the arguments every score is zero
      have zero {handle : DeclHandle} {score : Int}
          (isScore : site.scoreOf? registry options handle = some score) : score = 0 := by
        obtain ⟨candidate, _, rfl⟩ := Option.map_eq_some_iff.mp isScore
        exact candidate.exactScore_eq_zero neutral
      obtain ⟨handle, _, isBest⟩ := List.mem_filterMap.mp (List.max?_eq_some_iff.mp isHighest).1
      exact keeps (Int.le_of_eq ((zero isBest).trans (zero isOwn).symm))

namespace Sample

/-- `f(c: char)`, `f(s: string)` and `f(...all: string[])`. -/
def overloads : Registry :=
  .ofOps [.newSymbol "f",
    .declareUnique "c" { kind := .param, declaredType := some (.reference "char" [] none) },
    .declareUnique "s" { kind := .param, declaredType := some (.keyword .string) },
    .declareUnique "all"
      { kind := .param, declaredType := some (.array (.keyword .string)), isRest := true },
    .declare ⟨0⟩ { kind := .function, params := [⟨0⟩] },
    .declare ⟨0⟩ { kind := .function, params := [⟨1⟩] },
    .declare ⟨0⟩ { kind := .function, params := [⟨2⟩] }]

/-- `f("a")`, resolved to `f(c: char)`. -/
def call : CallSite where
  kind := .call
  args := [.string "a"]
  resolved := ⟨3⟩

end Sample

/-- A string goes to `f(s: string)`, the first of the two signatures for strings. -/
theorem resolve_first_best_string :
    Sample.call.rivals Sample.overloads = [⟨3⟩, ⟨4⟩, ⟨5⟩] ∧
    Sample.call.scoreOf? Sample.overloads {} ⟨3⟩ = some (-2) ∧
    Sample.call.scoreOf? Sample.overloads {} ⟨5⟩ = some 2 ∧
    Sample.call.resolve Sample.overloads {} = ⟨4⟩ ∧
    ∃ own better, Sample.call.scoreOf? Sample.overloads {} ⟨3⟩ = some own ∧
      Sample.call.resolve Sample.overloads {} ∈ Sample.call.rivals Sample.overloads ∧
      Sample.call.scoreOf? Sample.overloads {} (Sample.call.resolve Sample.overloads {}) = some better ∧
      own < better := by
  have picked : Sample.call.resolve Sample.overloads {} = ⟨4⟩ := by decide
  have changed : Sample.call.resolve Sample.overloads {} ≠ Sample.call.resolved := by decide
  obtain ⟨_, _, kept | replaced, _⟩ := resolve_first_best Sample.call Sample.overloads {} (by decide)
  · exact absurd kept changed
  · exact ⟨by decide, by decide, by decide, picked, replaced⟩

end CallSite

end Overloading
