import Mathlib.Data.List.Forall2

/-! # Computations that may fail

A chain of computations succeeds iff each of them does, and else fails with the error of the first that
fails. These lemmas take a chain apart into its steps. `Reports` sums up both at once: it lists all that
can go wrong in a chain in the order in which it is looked for. -/

namespace Overloading

universe u v w

variable {Error : Type u} {α β : Type v}

/-- A sequence succeeds iff both steps do. -/
theorem except_bind_eq_ok {first : Except Error α} {next : α → Except Error β} {result : β} :
    first >>= next = .ok result ↔ ∃ value, first = .ok value ∧ next value = .ok result := by
  cases first with
  | error error => simp [bind, Except.bind]
  | ok value => simp [bind, Except.bind]

/-- A mapped computation succeeds iff the computation does, and its result is the mapped one. -/
theorem except_map_eq_ok {first : Except Error α} {f : α → β} {result : β} :
    first.map f = .ok result ↔ ∃ value, first = .ok value ∧ f value = result := by
  cases first with
  | error error => simp [Except.map]
  | ok value => simp [Except.map]

/-- Each member of a list is mapped, and the images keep the order. -/
theorem mapM_eq_ok_iff {γ : Type w} {f : γ → Except Error β} {items : List γ} {images : List β} :
    items.mapM f = .ok images ↔
      List.Forall₂ (fun item image => f item = .ok image) items images := by
  induction items generalizing images with
  | nil => cases images <;> simp [pure, Except.pure]
  | cons item items ih =>
    rw [List.mapM_cons, except_bind_eq_ok, List.forall₂_cons_left_iff]
    constructor
    · rintro ⟨image, first, rest⟩
      obtain ⟨others, tail, result⟩ := except_bind_eq_ok.mp rest
      cases result
      exact ⟨image, others, first, ih.mp tail, rfl⟩
    · rintro ⟨image, others, first, tail, rfl⟩
      exact ⟨image, first, except_bind_eq_ok.mpr ⟨others, ih.mpr tail, rfl⟩⟩

/-- Each image in a list comes from a member. -/
theorem exists_of_mem_forall₂ {γ : Type u} {δ : Type v} {related : γ → δ → Prop} {items : List γ}
    {images : List δ} (all : List.Forall₂ related items images) {image : δ} (mem : image ∈ images) :
    ∃ item ∈ items, related item image := by
  induction all with
  | nil => cases mem
  | @cons item _ items _ first _ ih =>
    rcases List.mem_cons.mp mem with rfl | mem
    · exact ⟨item, List.mem_cons_self, first⟩
    · obtain ⟨source, isSource, image⟩ := ih mem
      exact ⟨source, List.mem_cons_of_mem _ isSource, image⟩

/-- There are images for a list iff there is one for each member. -/
theorem exists_forall₂_iff {γ : Type u} {δ : Type v} {related : γ → δ → Prop} {items : List γ} :
    (∃ images, List.Forall₂ related items images) ↔ ∀ item ∈ items, ∃ image, related item image := by
  induction items with
  | nil => simp
  | cons item items ih =>
    rw [List.forall_mem_cons, ← ih]
    constructor
    · rintro ⟨_, first | ⟨first, others⟩⟩
      exact ⟨⟨_, first⟩, _, others⟩
    · rintro ⟨⟨image, first⟩, images, others⟩
      exact ⟨image :: images, .cons first others⟩

/-- A sequence fails with an error iff the first step does, or the second does after the first has
succeeded. -/
theorem except_bind_eq_error {first : Except Error α} {next : α → Except Error β} {error : Error} :
    first >>= next = .error error ↔
      first = .error error ∨ ∃ value, first = .ok value ∧ next value = .error error := by
  cases first with
  | error other => simp [bind, Except.bind]
  | ok value => simp [bind, Except.bind]

/-- Mapping the result does not touch the failures. -/
theorem except_map_eq_error {first : Except Error α} {f : α → β} {error : Error} :
    first.map f = .error error ↔ first = .error error := by
  cases first with
  | error other => simp [Except.map]
  | ok value => simp [Except.map]

/-- Mapping a list fails with the error of the first member whose image fails. -/
theorem mapM_eq_error_iff {γ : Type w} {f : γ → Except Error β} {items : List γ} {error : Error} :
    items.mapM f = .error error ↔
      ∃ before item after, items = before ++ item :: after ∧
        (∀ earlier ∈ before, ∃ image, f earlier = .ok image) ∧ f item = .error error := by
  induction items with
  | nil => simp [pure, Except.pure]
  | cons head items ih =>
    rw [List.mapM_cons, except_bind_eq_error]
    simp only [except_bind_eq_error, ih, pure, Except.pure, reduceCtorEq, and_false, exists_false,
      or_false]
    constructor
    · rintro (failed | ⟨image, first, before, item, after, rfl, earlier, failed⟩)
      · exact ⟨[], head, items, rfl, List.forall_mem_nil _, failed⟩
      · refine ⟨head :: before, item, after, rfl, ?_, failed⟩
        exact List.forall_mem_cons.mpr ⟨⟨image, first⟩, earlier⟩
    · rintro ⟨before, item, after, split, earlier, failed⟩
      -- Either the head is the one that fails, or it is among those that succeed.
      cases before with
      | nil =>
        cases split
        exact .inl failed
      | cons first before =>
        cases split
        obtain ⟨⟨image, succeeded⟩, earlier⟩ := List.forall_mem_cons.mp earlier
        exact .inr ⟨image, succeeded, before, item, after, rfl, earlier, failed⟩

/-! ## Optional values -/

/-- Each member of a list has an image, and the images keep the order. -/
theorem mapM_eq_some_iff {γ : Type w} {f : γ → Option β} {items : List γ} {images : List β} :
    items.mapM f = some images ↔
      List.Forall₂ (fun item image => f item = some image) items images := by
  induction items generalizing images with
  | nil => cases images <;> simp
  | cons item items ih =>
    rw [List.mapM_cons, Option.bind_eq_bind, Option.bind_eq_some_iff, List.forall₂_cons_left_iff]
    constructor
    · rintro ⟨image, first, rest⟩
      obtain ⟨others, tail, result⟩ := Option.bind_eq_some_iff.mp rest
      cases result
      exact ⟨image, others, first, ih.mp tail, rfl⟩
    · rintro ⟨image, others, first, tail, rfl⟩
      exact ⟨image, first, Option.bind_eq_some_iff.mpr ⟨others, ih.mpr tail, rfl⟩⟩

/-! ## Changed values -/

/-- A step on a changed value comes to a change of the result, if it does so for each value. -/
theorem map_bind_eq {γ δ : Type v} {first : Except Error α} {change : α → γ}
    {next : γ → Except Error δ} {plain : α → Except Error β} {changeResult : β → δ}
    (each : ∀ value, next (change value) = (plain value).map changeResult) :
    first.map change >>= next = (first >>= plain).map changeResult := by
  cases first with
  | error error => rfl
  | ok value => exact each value

/-- Mapping changed items comes to a change of the images, if it does so for each item. -/
theorem mapM_map_eq {γ : Type u} {δ : Type w} {change : γ → δ} {f : δ → Except Error β}
    {plain : γ → Except Error α} {changeImage : α → β} {items : List γ}
    (each : ∀ item ∈ items, f (change item) = (plain item).map changeImage) :
    (items.map change).mapM f = (items.mapM plain).map fun images => images.map changeImage := by
  induction items with
  | nil => rfl
  | cons item items ih =>
    obtain ⟨first, others⟩ := List.forall_mem_cons.mp each
    rw [List.map_cons, List.mapM_cons, List.mapM_cons, first, ih others]
    refine map_bind_eq fun image => ?_
    exact map_bind_eq fun images => rfl

/-! ## The first failure -/

/-- Whether a computation fails with the first of the given errors, and succeeds if there are none. -/
def Reports (computation : Except Error α) (errors : List Error) : Prop :=
  ∀ error, computation = .error error ↔ errors.head? = some error

/-- A computation that succeeds reports nothing. -/
theorem reports_ok (value : α) : Reports (.ok value : Except Error α) [] := by
  simp [Reports]

/-- A computation that fails reports its error first, whatever would come later. -/
theorem reports_error (error : Error) (later : List Error) :
    Reports (.error error : Except Error α) (error :: later) := by
  simp [Reports]

/-- A computation succeeds iff it has no errors to report. -/
theorem Reports.ok_iff {computation : Except Error α} {errors : List Error}
    (reports : Reports computation errors) : (∃ value, computation = .ok value) ↔ errors = [] := by
  cases computation with
  | error error =>
    have first : errors.head? = some error := (reports error).mp rfl
    have failed : errors ≠ [] := by
      rintro rfl
      cases first
    simp [failed]
  | ok value =>
    have none : errors.head? = none := by
      cases first : errors.head? with
      | none => rfl
      | some error => cases (reports error).mpr first
    simpa using List.head?_eq_none_iff.mp none

/-- The errors of what comes next are reported after those of what comes first. -/
theorem Reports.bind {first : Except Error α} {next : α → Except Error β}
    {errors later : List Error} (reports : Reports first errors)
    (rest : ∀ value, first = .ok value → Reports (next value) later) :
    Reports (first >>= next) (errors ++ later) := by
  cases first with
  | error error =>
    -- what comes next is not run, and its errors stand behind the first
    have failed : errors.head? = some error := (reports error).mp rfl
    intro other
    rw [List.head?_append, failed, Option.some_or]
    simp [Bind.bind, Except.bind]
  | ok value =>
    have none : errors = [] := reports.ok_iff.mp ⟨value, rfl⟩
    rw [none, List.nil_append]
    exact rest value rfl

/-- A last step that cannot fail has nothing to report. -/
theorem Reports.bind_ok {first : Except Error α} {f : α → β} {errors : List Error}
    (reports : Reports first errors) : Reports (first >>= fun value => .ok (f value)) errors := by
  have all : Reports (first >>= fun value => .ok (f value)) (errors ++ []) :=
    reports.bind fun value _ => reports_ok (f value)
  rwa [List.append_nil] at all

/-- Where a test comes first, its error is reported before the others. -/
theorem reports_ite {failing : Prop} [Decidable failing] {error : Error} {errors : List Error}
    {computation : Except Error α} (rest : ¬ failing → Reports computation errors) :
    Reports (if failing then .error error else computation)
      ((if failing then [error] else []) ++ errors) := by
  by_cases fails : failing
  · rw [if_pos fails, if_pos fails]
    exact reports_error error errors
  · rw [if_neg fails, if_neg fails]
    exact rest fails

/-- Mapping a list reports the errors of its members in their order. -/
theorem reports_mapM {γ : Type w} {f : γ → Except Error β} {errors : γ → List Error}
    {items : List γ} (each : ∀ item ∈ items, Reports (f item) (errors item)) :
    Reports (items.mapM f) (items.flatMap errors) := by
  induction items with
  | nil => exact reports_ok []
  | cons item items ih =>
    obtain ⟨first, others⟩ := List.forall_mem_cons.mp each
    rw [List.mapM_cons, List.flatMap_cons]
    exact first.bind fun image _ => (ih others).bind_ok

end Overloading
