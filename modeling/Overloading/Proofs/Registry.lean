import Mathlib.Logic.Relation
import Overloading.Registry

/-! # Registries as they are built

A registry is built up by operations, from one that holds nothing. What the symbols list stays true to
what the declarations record: each symbol lists the declarations that are registered under it, in order,
and each declaration has the name of its symbol (`Registry.Sound`). So the declarations that share a
symbol see the same list of siblings. -/

namespace Overloading

/-- An operation that adds to a registry. -/
inductive RegistryOp
  | newSymbol (name : String)
  | declare (symbol : SymbolId) (spec : DeclSpec)
  | declareUnique (name : String) (spec : DeclSpec)

/-- The registry after an operation. A declaration under a symbol that does not exist changes nothing. -/
def RegistryOp.apply (registry : Registry) : RegistryOp → Registry
  | .newSymbol name => (registry.newSymbol name).1
  | .declare symbol spec =>
    match registry.declare? symbol spec with
    | some (after, _) => after
    | none => registry
  | .declareUnique name spec => (registry.declareUnique name spec).1

namespace Registry

/-- The registry that a sequence of operations builds. -/
def ofOps (ops : List RegistryOp) : Registry := ops.foldl RegistryOp.apply .empty

/-- The handles of all declarations in order. -/
def handles (registry : Registry) : List DeclHandle :=
  (List.range registry.size).map fun index => ⟨index.toUInt32⟩

/-- The names of all symbols in order. -/
def symbolNames (registry : Registry) : List String :=
  registry.symbols.toList.map fun entry => entry.name

/-- A declaration has facts iff its index is below the size of the registry. -/
theorem facts?_isSome_iff {registry : Registry} {handle : DeclHandle} :
    (registry.facts? handle).isSome ↔ handle.index.toNat < registry.size := by
  simp [facts?, size]

/-- The handles of a registry are those whose index is below its size. -/
theorem mem_handles_iff {registry : Registry} {handle : DeclHandle} :
    handle ∈ registry.handles ↔ handle.index.toNat < registry.size := by
  rw [handles, List.mem_map]
  constructor
  · rintro ⟨index, inRange, rfl⟩
    -- a number that wraps around gets smaller
    have wrapped : index.toUInt32.toNat ≤ index := Nat.mod_le index _
    exact Nat.lt_of_le_of_lt wrapped (List.mem_range.mp inRange)
  · intro inRange
    exact ⟨handle.index.toNat, List.mem_range.mpr inRange, by simp [Nat.toUInt32]⟩

/-- What is declared under a symbol is registered. -/
theorem mem_handles_of_symbolOf? {registry : Registry} {handle : DeclHandle} {symbol : SymbolId}
    (declared : registry.symbolOf? handle = some symbol) : handle ∈ registry.handles := by
  obtain ⟨facts, registered, _⟩ := Option.map_eq_some_iff.mp declared
  rw [mem_handles_iff, ← facts?_isSome_iff, registered]
  rfl

/-! ## What one operation adds -/

section Step

variable (registry : Registry)

@[simp] theorem size_newSymbol (name : String) : (registry.newSymbol name).1.size = registry.size := rfl

@[simp] theorem symbolOf?_newSymbol (name : String) (handle : DeclHandle) :
    (registry.newSymbol name).1.symbolOf? handle = registry.symbolOf? handle := rfl

/-- A new symbol has no declarations. -/
@[simp] theorem declarations_newSymbol (name : String) (symbol : SymbolId) :
    (registry.newSymbol name).1.declarations symbol = registry.declarations symbol := by
  -- a symbol that did not exist had no declarations either
  by_cases last : symbol.index.toNat = registry.symbols.size
  · simp [declarations, newSymbol, last]
  · simp [declarations, newSymbol, Array.getElem?_push, last]

/-- A new symbol puts its name after the others. -/
@[simp] theorem symbolNames_newSymbol (name : String) :
    (registry.newSymbol name).1.symbolNames = registry.symbolNames ++ [name] := by
  simp [symbolNames, newSymbol]

variable {symbol : SymbolId} (known : registry.Knows symbol) (spec : DeclSpec)

/-- A registration adds one declaration. -/
@[simp] theorem size_declare : (registry.declare symbol known spec).1.size = registry.size + 1 := by
  simp [declare, size]

/-- A registration puts its handle after the others. -/
theorem handles_declare :
    (registry.declare symbol known spec).1.handles =
      registry.handles ++ [(registry.declare symbol known spec).2] := by
  rw [handles, size_declare, List.range_succ, List.map_append]
  rfl

@[simp] theorem symbolNames_declare :
    (registry.declare symbol known spec).1.symbolNames = registry.symbolNames := by
  have inRange : symbol.index.toNat < registry.symbolNames.length := by
    simpa [symbolNames] using known
  -- the entry that is replaced keeps its name
  have sameName : registry.symbols[symbol.index.toNat].name =
      registry.symbolNames[symbol.index.toNat] := by
    simp [symbolNames]
  calc (registry.declare symbol known spec).1.symbolNames
      = registry.symbolNames.set symbol.index.toNat registry.symbols[symbol.index.toNat].name := by
        simp [symbolNames, declare, List.map_set]
    _ = registry.symbolNames := by rw [sameName, List.set_getElem_self]

/-- The facts of a declaration are its own with the name of its symbol, and those before it keep theirs. -/
theorem facts?_declare (handle : DeclHandle) :
    (registry.declare symbol known spec).1.facts? handle =
      if handle.index.toNat = registry.size then
        some { spec with name := registry.symbols[symbol.index.toNat].name, symbol }
      else registry.facts? handle := by
  by_cases last : handle.index.toNat = registry.size
  · rw [if_pos last]
    simp only [facts?, declare, last, size, Array.getElem?_push_size]
  · rw [if_neg last]
    simp only [facts?, declare, Array.getElem?_push, size] at last ⊢
    rw [if_neg last]

/-- A declaration is recorded under its symbol, and those before it stay under theirs. -/
theorem symbolOf?_declare (handle : DeclHandle) :
    (registry.declare symbol known spec).1.symbolOf? handle =
      if handle.index.toNat = registry.size then some symbol else registry.symbolOf? handle := by
  rw [symbolOf?, facts?_declare, symbolOf?]
  split <;> rfl

/-- A declaration is listed last by its symbol, and by no other one. -/
theorem declarations_declare (other : SymbolId) :
    (registry.declare symbol known spec).1.declarations other =
      if other = symbol then
        registry.declarations symbol ++ [(registry.declare symbol known spec).2]
      else registry.declarations other := by
  by_cases same : other = symbol
  · subst same
    rw [if_pos rfl]
    simp [declarations, declare, known]
  · have apart : symbol.index.toNat ≠ other.index.toNat := by
      intro equal
      exact same (congrArg SymbolId.mk (UInt32.toNat_inj.mp equal.symm))
    rw [if_neg same]
    simp [declarations, declare, apart]

end Step

/-! ## What stays true -/

/-- Whether each declaration that a symbol lists is registered under that symbol. -/
def Consistent (registry : Registry) : Prop :=
  ∀ symbol, ∀ handle ∈ registry.declarations symbol, registry.symbolOf? handle = some symbol

/-- Whether the symbols of a registry say what its declarations say. -/
structure Sound (registry : Registry) : Prop where
  /-- A symbol lists what is declared under it, in order. -/
  declarations_eq : ∀ symbol, registry.declarations symbol =
    registry.handles.filter fun handle => registry.symbolOf? handle = some symbol
  /-- A declaration has the name of its symbol. -/
  named : ∀ handle facts, registry.facts? handle = some facts →
    registry.symbolNames[facts.symbol.index.toNat]? = some facts.name

/-- A symbol lists exactly what is declared under it. -/
theorem Sound.mem_declarations_iff {registry : Registry} (sound : registry.Sound)
    {symbol : SymbolId} {handle : DeclHandle} :
    handle ∈ registry.declarations symbol ↔ registry.symbolOf? handle = some symbol := by
  rw [sound.declarations_eq, List.mem_filter, decide_eq_true_iff]
  exact and_iff_right_of_imp mem_handles_of_symbolOf?

/-- In a sound registry what a symbol lists is registered under it. -/
theorem Sound.consistent {registry : Registry} (sound : registry.Sound) : registry.Consistent :=
  fun _ _ listed => sound.mem_declarations_iff.mp listed

/-- Declarations that share a symbol have the same siblings. -/
theorem Consistent.siblings_eq {registry : Registry} (consistent : registry.Consistent)
    {handle other : DeclHandle} (isSibling : other ∈ registry.siblings handle) :
    registry.siblings other = registry.siblings handle := by
  cases declared : registry.symbolOf? handle with
  | none => simp [siblings, declared] at isSibling
  | some symbol =>
    have ofHandle : registry.siblings handle = registry.declarations symbol := by
      rw [siblings, declared]
    rw [ofHandle] at isSibling ⊢
    rw [siblings, consistent symbol other isSibling]

/-- The empty registry is sound. -/
theorem sound_empty : empty.Sound where
  declarations_eq _ := rfl
  named _ _ registered := by cases registered

/-- A new symbol keeps a registry sound. -/
theorem Sound.newSymbol {registry : Registry} (sound : registry.Sound) (name : String) :
    (registry.newSymbol name).1.Sound where
  declarations_eq symbol := by
    rw [declarations_newSymbol]
    exact sound.declarations_eq symbol
  named handle facts registered := by
    have known : registry.symbolNames[facts.symbol.index.toNat]? = some facts.name :=
      sound.named handle facts registered
    rw [symbolNames_newSymbol, List.getElem?_append_left (List.getElem?_eq_some_iff.mp known).1]
    exact known

/-- A registration keeps a registry sound if there is room for one more handle. -/
theorem Sound.declare {registry : Registry} (sound : registry.Sound) {symbol : SymbolId}
    (known : registry.Knows symbol) (spec : DeclSpec) (room : registry.size < UInt32.size) :
    (registry.declare symbol known spec).1.Sound where
  declarations_eq other := by
    -- the new handle does not wrap around, so it differs from those before it
    have place : (registry.size.toUInt32).toNat = registry.size := UInt32.toNat_ofNat_of_lt room
    have before : (registry.handles.filter fun handle =>
          (registry.declare symbol known spec).1.symbolOf? handle = some other) =
        registry.declarations other := by
      rw [sound.declarations_eq]
      refine List.filter_congr fun handle mem => ?_
      rw [symbolOf?_declare, if_neg (Nat.ne_of_lt (mem_handles_iff.mp mem))]
    have last : (registry.declare symbol known spec).1.symbolOf?
        (registry.declare symbol known spec).2 = some symbol := by
      rw [symbolOf?_declare]
      exact if_pos place
    rw [handles_declare, List.filter_append, before, List.filter_cons, List.filter_nil, last,
      declarations_declare]
    by_cases same : other = symbol
    · simp [same]
    · simp [same, Ne.symm same]
  named handle facts registered := by
    rw [symbolNames_declare]
    rw [facts?_declare] at registered
    split at registered
    · cases registered
      simp [symbolNames, known]
    · exact sound.named handle facts registered

/-! ## Whole runs -/

/-- The two ways in which a registry grows. -/
inductive Step : Registry → Registry → Prop
  | newSymbol (registry : Registry) (name : String) : Step registry (registry.newSymbol name).1
  | declare (registry : Registry) {symbol : SymbolId} (known : registry.Knows symbol)
      (spec : DeclSpec) : Step registry (registry.declare symbol known spec).1

/-- A step never takes a declaration away. -/
theorem Step.size_le {before after : Registry} (step : Step before after) :
    before.size ≤ after.size := by
  cases step with
  | newSymbol name => exact Nat.le_of_eq (before.size_newSymbol name).symm
  | declare known spec =>
    rw [size_declare]
    exact Nat.le_succ _

/-- A step keeps the facts of the declarations before it. -/
theorem Step.facts? {before after : Registry} (step : Step before after) {handle : DeclHandle}
    {facts : DeclFacts} (registered : before.facts? handle = some facts) :
    after.facts? handle = some facts := by
  cases step with
  | newSymbol name => exact registered
  | declare known spec =>
    have inRange : handle.index.toNat < before.size := by
      rw [← facts?_isSome_iff, registered]
      rfl
    rw [facts?_declare, if_neg (Nat.ne_of_lt inRange), registered]

/-- What is registered stays as it is, however many steps follow. -/
theorem facts?_of_steps {before after : Registry} (steps : Relation.ReflTransGen Step before after)
    {handle : DeclHandle} {facts : DeclFacts} (registered : before.facts? handle = some facts) :
    after.facts? handle = some facts := by
  induction steps with
  | refl => exact registered
  | tail _ step ih => exact step.facts? ih

/-- A step keeps a registry sound as long as the handles fit. -/
theorem Step.sound {before after : Registry} (step : Step before after)
    (room : after.size < UInt32.size) (sound : before.Sound) : after.Sound := by
  cases step with
  | newSymbol name => exact sound.newSymbol name
  | declare known spec =>
    rw [size_declare] at room
    exact sound.declare known spec (by omega)

/-- Every registry that is built from the empty one is sound as long as the handles fit. -/
theorem sound_of_steps {registry : Registry}
    (steps : Relation.ReflTransGen Step empty registry) (room : registry.size < UInt32.size) :
    registry.Sound := by
  induction steps with
  | refl => exact sound_empty
  | tail _ step ih =>
    have before := step.size_le
    exact step.sound room (ih (by omega))

/-- An operation takes no step, one, or two. -/
theorem steps_apply (registry : Registry) (op : RegistryOp) :
    Relation.ReflTransGen Step registry (op.apply registry) := by
  cases op with
  | newSymbol name => exact .single (.newSymbol registry name)
  | declare symbol spec =>
    by_cases known : registry.Knows symbol
    · simp only [RegistryOp.apply, declare?, dif_pos known]
      exact .single (.declare registry known spec)
    · simp only [RegistryOp.apply, declare?, dif_neg known]
      exact .refl
  | declareUnique name spec =>
    -- a unique declaration first makes the symbol that it is registered under
    have named : Step registry (registry.newSymbol name).1 := .newSymbol registry name
    exact Relation.ReflTransGen.tail (.single named) (.declare _ _ spec)

/-- To apply operations in order is to take steps. -/
theorem steps_foldl (ops : List RegistryOp) (registry : Registry) :
    Relation.ReflTransGen Step registry (ops.foldl RegistryOp.apply registry) := by
  induction ops generalizing registry with
  | nil => exact .refl
  | cons op ops ih => exact (steps_apply registry op).trans (ih _)

/-- **A registry that is built up by operations is sound.** -/
theorem sound_ofOps {ops : List RegistryOp} (room : (ofOps ops).size < UInt32.size) :
    (ofOps ops).Sound :=
  sound_of_steps (steps_foldl ops empty) room

end Registry

end Overloading
