import Mathlib.Data.List.Nodup
import Overloading.Proofs.Registry

/-! # What holds after a run

A run is a sequence of operations on a registry that holds nothing at first. What the registry answers
afterwards is said here by the run alone: by the handles that its operations gave back and by the names
of the symbols that they made (`Registry.RunLaws`). -/

namespace Overloading

namespace RegistryOp

/-- The handle that an operation gives back. A new symbol has none, and neither has a declaration that is
refused. -/
def handle? (registry : Registry) : RegistryOp → Option DeclHandle
  | .newSymbol _ => none
  | .declare symbol spec => (registry.declare? symbol spec).map Prod.snd
  | .declareUnique name spec => some (registry.declareUnique name spec).2

/-- The name of the symbol that an operation makes. -/
def symbolName? : RegistryOp → Option String
  | .newSymbol name => some name
  | .declare _ _ => none
  | .declareUnique name _ => some name

/-- Whether facts are those that an operation declares, where a given number of symbols were made
before. -/
def Records (symbols : Nat) (facts : DeclFacts) : RegistryOp → Prop
  | .newSymbol _ => False
  | .declare symbol spec => facts.toDeclSpec = spec ∧ facts.symbol = symbol
  | .declareUnique name spec =>
    facts.toDeclSpec = spec ∧ facts.symbol.index.toNat = symbols ∧ facts.name = name

end RegistryOp

/-- Whether the last of several names that is a given one stands at an index. -/
def LatestNamed (names : List String) (name : String) (index : Nat) : Prop :=
  names[index]? = some name ∧ ∀ later, index < later → names[later]? ≠ some name

/-- There is only one latest symbol of a name. -/
theorem LatestNamed.symbol_eq {names : List String} {name : String} {symbol other : SymbolId}
    (one : LatestNamed names name symbol.index.toNat)
    (another : LatestNamed names name other.index.toNat) : symbol = other := by
  have same : symbol.index.toNat = other.index.toNat := by
    rcases Nat.lt_trichotomy symbol.index.toNat other.index.toNat with less | same | greater
    · exact absurd another.1 (one.2 _ less)
    · exact same
    · exact absurd one.1 (another.2 _ greater)
  exact congrArg SymbolId.mk (UInt32.toNat_inj.mp same)

namespace Registry

/-- The handles that operations give back, from a given registry on. -/
def handlesFrom (registry : Registry) : List RegistryOp → List DeclHandle
  | [] => []
  | op :: ops => (op.handle? registry).toList ++ (op.apply registry).handlesFrom ops

/-- The handles that a run gives back. -/
def returnedHandles (ops : List RegistryOp) : List DeclHandle := empty.handlesFrom ops

/-- The names of the symbols that a run makes. -/
def madeSymbols (ops : List RegistryOp) : List String := ops.filterMap RegistryOp.symbolName?

/-- What holds after a run. -/
structure RunLaws (ops : List RegistryOp) : Prop where
  /-- The handles given back count up from zero. -/
  returned_eq : (returnedHandles ops).map (fun handle => handle.index.toNat) =
    List.range (returnedHandles ops).length
  /-- A handle has facts iff it was given back. -/
  registered_iff : ∀ handle, ((ofOps ops).facts? handle).isSome ↔ handle ∈ returnedHandles ops
  /-- Symbols are numbered in the order in which they are made. -/
  newSymbol_eq : ∀ name, ((ofOps ops).newSymbol name).2.index.toNat = (madeSymbols ops).length
  /-- A declaration is refused iff its symbol was not made. -/
  refused_iff : ∀ symbol spec, (ofOps ops).declare? symbol spec = none ↔
    (madeSymbols ops).length ≤ symbol.index.toNat
  /-- A declaration that is refused changes nothing. -/
  refused_eq : ∀ symbol spec, (ofOps ops).declare? symbol spec = none →
    ofOps (ops ++ [.declare symbol spec]) = ofOps ops
  /-- A handle given back has the facts that were declared. -/
  recorded : ∀ op handle, op.handle? (ofOps ops) = some handle →
    ∃ facts, (ofOps (ops ++ [op])).facts? handle = some facts ∧
      op.Records (madeSymbols ops).length facts
  /-- Facts never change. -/
  kept : ∀ later handle facts, (ofOps ops).facts? handle = some facts →
    (ofOps (ops ++ later)).facts? handle = some facts
  /-- The declarations of a symbol come in strictly increasing order. -/
  declarations_sorted : ∀ symbol, ((ofOps ops).declarations symbol).Pairwise fun handle other =>
    handle.index < other.index
  /-- The declarations of a symbol are those that are registered under it. -/
  mem_declarations_iff : ∀ symbol handle,
    handle ∈ (ofOps ops).declarations symbol ↔ (ofOps ops).symbolOf? handle = some symbol
  /-- A declaration has the name of its symbol. -/
  named : ∀ symbol, ∀ handle ∈ (ofOps ops).declarations symbol,
    ∃ facts, (ofOps ops).facts? handle = some facts ∧
      (madeSymbols ops)[symbol.index.toNat]? = some facts.name
  /-- A registered declaration is once among its siblings. -/
  count_siblings : ∀ handle, ((ofOps ops).facts? handle).isSome →
    ((ofOps ops).siblings handle).count handle = 1
  /-- Siblings all have the same siblings. -/
  siblings_eq : ∀ handle, ∀ other ∈ (ofOps ops).siblings handle,
    (ofOps ops).siblings other = (ofOps ops).siblings handle
  /-- A handle that is not registered has no siblings. -/
  siblings_nil : ∀ handle, (ofOps ops).facts? handle = none → (ofOps ops).siblings handle = []
  /-- A name resolves to the least handle of the latest symbol with that name. -/
  resolve_eq_some_iff : ∀ name handle, (ofOps ops).resolve? name = some handle ↔
    ∃ symbol : SymbolId, LatestNamed (madeSymbols ops) name symbol.index.toNat ∧
      handle ∈ (ofOps ops).declarations symbol ∧
      ∀ other ∈ (ofOps ops).declarations symbol, handle.index ≤ other.index
  /-- A name does not resolve iff no symbol has it or the latest one has no declarations. -/
  resolve_eq_none_iff : ∀ name, (ofOps ops).resolve? name = none ↔
    name ∉ madeSymbols ops ∨ ∃ symbol : SymbolId,
      LatestNamed (madeSymbols ops) name symbol.index.toNat ∧ (ofOps ops).declarations symbol = []

/-! ## What the operations give back -/

/-- More operations go on from the registry that the first ones lead to. -/
theorem ofOps_append (ops later : List RegistryOp) :
    ofOps (ops ++ later) = later.foldl RegistryOp.apply (ofOps ops) :=
  List.foldl_append

/-- An operation adds the handle that it gives back, if it gives back one. -/
theorem handles_apply (registry : Registry) (op : RegistryOp) :
    (op.apply registry).handles = registry.handles ++ (op.handle? registry).toList := by
  cases op with
  | newSymbol name => exact (List.append_nil _).symm
  | declare symbol spec =>
    by_cases known : registry.Knows symbol
    · simp only [RegistryOp.apply, RegistryOp.handle?, declare?, dif_pos known]
      exact registry.handles_declare known spec
    · simp [RegistryOp.apply, RegistryOp.handle?, declare?, known]
  | declareUnique name spec => exact handles_declare _ (registry.knows_newSymbol name) spec

/-- Operations add the handles that they give back, in order. -/
theorem handles_foldl (ops : List RegistryOp) (registry : Registry) :
    (ops.foldl RegistryOp.apply registry).handles = registry.handles ++ registry.handlesFrom ops := by
  induction ops generalizing registry with
  | nil => exact (List.append_nil _).symm
  | cons op ops ih => rw [List.foldl_cons, ih, handles_apply, handlesFrom, List.append_assoc]

/-- The handles of a registry are those that its run gave back. -/
theorem handles_ofOps (ops : List RegistryOp) : (ofOps ops).handles = returnedHandles ops :=
  handles_foldl ops empty

/-- An operation adds the name of the symbol that it makes, if it makes one. -/
theorem symbolNames_apply (registry : Registry) (op : RegistryOp) :
    (op.apply registry).symbolNames = registry.symbolNames ++ op.symbolName?.toList := by
  cases op with
  | newSymbol name => exact registry.symbolNames_newSymbol name
  | declare symbol spec =>
    by_cases known : registry.Knows symbol
    · simp [RegistryOp.apply, RegistryOp.symbolName?, declare?, known]
    · simp [RegistryOp.apply, RegistryOp.symbolName?, declare?, known]
  | declareUnique name spec =>
    simp [RegistryOp.apply, RegistryOp.symbolName?, declareUnique]

/-- The symbols of a registry are those that its run made. -/
theorem symbolNames_ofOps (ops : List RegistryOp) : (ofOps ops).symbolNames = madeSymbols ops := by
  have fromRegistry (registry : Registry) :
      (ops.foldl RegistryOp.apply registry).symbolNames =
        registry.symbolNames ++ ops.filterMap RegistryOp.symbolName? := by
    induction ops generalizing registry with
    | nil => exact (List.append_nil _).symm
    | cons op ops ih =>
      rw [List.foldl_cons, ih, symbolNames_apply, List.filterMap_cons]
      cases op.symbolName? <;> simp
  exact fromRegistry empty

theorem length_handles (registry : Registry) : registry.handles.length = registry.size := by
  simp [handles]

/-- Handles count up from zero, as long as they do not wrap around. -/
theorem index_handles {registry : Registry} (room : registry.size < UInt32.size) :
    registry.handles.map (fun handle => handle.index.toNat) = List.range registry.size := by
  rw [handles, List.map_map]
  refine Eq.trans (List.map_congr_left fun index inRange => ?_) (List.map_id _)
  have small : index < UInt32.size := Nat.lt_trans (List.mem_range.mp inRange) room
  exact UInt32.toNat_ofNat_of_lt small

/-- An operation that gives a handle back records what it declares. -/
theorem recorded_apply {registry : Registry} (room : registry.size < UInt32.size)
    (symbolRoom : registry.symbols.size < UInt32.size) {op : RegistryOp} {handle : DeclHandle}
    (given : op.handle? registry = some handle) :
    ∃ facts, (op.apply registry).facts? handle = some facts ∧
      op.Records registry.symbols.size facts := by
  -- the handle given back is the place of the new declaration, whatever its symbol
  have atEnd : (registry.size.toUInt32).toNat = registry.size := UInt32.toNat_ofNat_of_lt room
  cases op with
  | newSymbol name => cases given
  | declare symbol spec =>
    by_cases known : registry.Knows symbol
    · simp only [RegistryOp.handle?, declare?, dif_pos known, Option.map_some,
        Option.some.injEq] at given
      subst given
      simp only [RegistryOp.apply, declare?, dif_pos known]
      exact ⟨_, (registry.facts?_declare known spec _).trans (if_pos atEnd), rfl, rfl⟩
    · simp [RegistryOp.handle?, declare?, known] at given
  | declareUnique name spec =>
    cases given
    have place : (registry.newSymbol name).2.index.toNat = registry.symbols.size :=
      UInt32.toNat_ofNat_of_lt symbolRoom
    have entry : (registry.newSymbol name).1.symbols[(registry.newSymbol name).2.index.toNat]? =
        some { name } := by
      rw [place]
      exact Array.getElem?_push_size
    obtain ⟨_, isEntry⟩ := Array.getElem?_eq_some_iff.mp entry
    exact ⟨_, (facts?_declare _ (registry.knows_newSymbol name) spec _).trans (if_pos atEnd),
      rfl, place, congrArg SymbolEntry.name isEntry⟩

/-! ## Order -/

/-- The declarations of a symbol are in strictly increasing order. -/
theorem Sound.sorted {registry : Registry} (sound : registry.Sound)
    (room : registry.size < UInt32.size) (symbol : SymbolId) :
    (registry.declarations symbol).Pairwise fun handle other => handle.index < other.index := by
  have counted : (registry.handles.map fun handle => handle.index.toNat).Pairwise (· < ·) := by
    rw [index_handles room]
    exact List.pairwise_lt_range
  rw [sound.declarations_eq]
  refine List.Pairwise.filter _ ((List.pairwise_map.mp counted).imp ?_)
  intro handle other less
  exact UInt32.lt_iff_toNat_lt.mpr less

/-- Handles in strictly increasing order start with the least one. -/
theorem head?_eq_some_iff_least {handles : List DeclHandle}
    (sorted : handles.Pairwise fun handle other => handle.index < other.index)
    {handle : DeclHandle} :
    handles.head? = some handle ↔
      handle ∈ handles ∧ ∀ other ∈ handles, handle.index ≤ other.index := by
  cases handles with
  | nil => simp
  | cons first handles =>
    obtain ⟨above, _⟩ := List.pairwise_cons.mp sorted
    rw [List.head?_cons, Option.some.injEq]
    constructor
    · rintro rfl
      refine ⟨List.mem_cons_self, List.forall_mem_cons.mpr ⟨UInt32.le_refl _, ?_⟩⟩
      exact fun other mem => UInt32.le_of_lt (above other mem)
    · rintro ⟨mem, least⟩
      rcases List.mem_cons.mp mem with same | later
      · exact same.symm
      · -- a later handle is above the first one
        exact absurd (above handle later) (UInt32.not_lt.mpr (least first List.mem_cons_self))

/-- A registered declaration is once among its siblings. -/
theorem Sound.count_siblings {registry : Registry} (sound : registry.Sound)
    (room : registry.size < UInt32.size) {handle : DeclHandle}
    (registered : (registry.facts? handle).isSome) : (registry.siblings handle).count handle = 1 := by
  obtain ⟨facts, isFacts⟩ := Option.isSome_iff_exists.mp registered
  have declared : registry.symbolOf? handle = some facts.symbol := by rw [symbolOf?, isFacts]; rfl
  have distinct : (registry.declarations facts.symbol).Nodup :=
    (sound.sorted room facts.symbol).imp fun less same => by simp [same] at less
  rw [siblings, declared]
  exact List.count_eq_one_of_mem distinct (sound.mem_declarations_iff.mpr declared)

/-! ## Names -/

/-- A name resolves through the latest symbol that has it. -/
theorem resolve?_cases (registry : Registry) (name : String) :
    (name ∉ registry.symbolNames ∧ registry.resolve? name = none) ∨
      ∃ index entry, LatestNamed registry.symbolNames name index ∧
        registry.symbols[index]? = some entry ∧ registry.resolve? name = entry.decls.head? := by
  rw [resolve?]
  cases found : registry.symbols.toList.reverse.find? fun entry => entry.name = name with
  | none =>
    left
    refine ⟨?_, rfl⟩
    simpa [symbolNames] using List.find?_eq_none.mp found
  | some entry =>
    right
    obtain ⟨isNamed, after, before, split, others⟩ := List.find?_eq_some_iff_append.mp found
    have order : registry.symbols.toList = before.reverse ++ entry :: after.reverse := by
      rw [← List.reverse_reverse registry.symbols.toList, split]
      simp
    have names : registry.symbolNames =
        before.reverse.map (fun entry => entry.name) ++
          entry.name :: after.reverse.map fun entry => entry.name := by
      rw [symbolNames, order, List.map_append, List.map_cons]
    have isNamed : entry.name = name := by simpa using isNamed
    refine ⟨before.length, entry, ⟨?_, fun later above => ?_⟩, ?_, rfl⟩
    · simp [names, isNamed]
    · obtain ⟨offset, rfl⟩ := Nat.exists_eq_add_of_lt above
      intro isLater
      -- it would be among the names after the one that was found
      have mem : name ∈ after.reverse.map fun entry => entry.name := by
        have place : before.length + offset + 1 -
            (before.reverse.map fun entry => entry.name).length = offset + 1 := by
          simp
          omega
        rw [names, List.getElem?_append_right (by simp; omega), place,
          List.getElem?_cons_succ] at isLater
        exact List.mem_of_getElem? isLater
      obtain ⟨other, isAfter, sameName⟩ := List.mem_map.mp mem
      simpa [sameName] using others other (List.mem_reverse.mp isAfter)
    · rw [← Array.getElem?_toList, order]
      simp

/-- With few enough symbols, the latest symbol of a name has a number that does not wrap around. -/
theorem resolve?_latest {registry : Registry} (symbolRoom : registry.symbols.size < UInt32.size)
    (name : String) :
    (name ∉ registry.symbolNames ∧ registry.resolve? name = none) ∨
      ∃ symbol : SymbolId, LatestNamed registry.symbolNames name symbol.index.toNat ∧
        registry.resolve? name = (registry.declarations symbol).head? := by
  refine (registry.resolve?_cases name).imp_right ?_
  rintro ⟨index, entry, latest, isEntry, resolved⟩
  have small : index < UInt32.size :=
    Nat.lt_trans (Array.getElem?_eq_some_iff.mp isEntry).1 symbolRoom
  have place : (UInt32.ofNat index).toNat = index := UInt32.toNat_ofNat_of_lt small
  refine ⟨⟨.ofNat index⟩, ?_, ?_⟩
  · rwa [place]
  · rw [resolved, declarations, place, isEntry]

/-- A name resolves to the least handle of the latest symbol of that name. -/
theorem Sound.resolve?_eq_some_iff {registry : Registry} (sound : registry.Sound)
    (room : registry.size < UInt32.size) (symbolRoom : registry.symbols.size < UInt32.size)
    (name : String) (handle : DeclHandle) :
    registry.resolve? name = some handle ↔
      ∃ symbol : SymbolId, LatestNamed registry.symbolNames name symbol.index.toNat ∧
        handle ∈ registry.declarations symbol ∧
        ∀ other ∈ registry.declarations symbol, handle.index ≤ other.index := by
  rcases resolve?_latest symbolRoom name with ⟨unnamed, unresolved⟩ | ⟨symbol, latest, resolved⟩
  · rw [unresolved]
    constructor
    · rintro ⟨⟩
    · rintro ⟨symbol, latest, _⟩
      exact absurd (List.mem_of_getElem? latest.1) unnamed
  · rw [resolved, head?_eq_some_iff_least (sound.sorted room symbol)]
    constructor
    · exact fun least => ⟨symbol, latest, least⟩
    · -- there is only one latest symbol of a name
      rintro ⟨other, otherLatest, least⟩
      rwa [latest.symbol_eq otherLatest]

/-- A name does not resolve iff no symbol has it or the latest that does has no declarations. -/
theorem resolve?_eq_none_iff {registry : Registry}
    (symbolRoom : registry.symbols.size < UInt32.size) (name : String) :
    registry.resolve? name = none ↔
      name ∉ registry.symbolNames ∨ ∃ symbol : SymbolId,
        LatestNamed registry.symbolNames name symbol.index.toNat ∧
          registry.declarations symbol = [] := by
  rcases resolve?_latest symbolRoom name with ⟨unnamed, unresolved⟩ | ⟨symbol, latest, resolved⟩
  · simp [unresolved, unnamed]
  · rw [resolved, List.head?_eq_none_iff]
    constructor
    · exact fun none => .inr ⟨symbol, latest, none⟩
    · rintro (unnamed | ⟨other, otherLatest, none⟩)
      · exact absurd (List.mem_of_getElem? latest.1) unnamed
      · rwa [latest.symbol_eq otherLatest]

/-! ## All laws -/

/-- **What holds of a registry after any run.** With fewer than `UInt32.size` declarations and symbols,
handles count up from zero and keep their facts, symbols list exactly their declarations in order and give
them their names, siblings agree with each other, and names resolve through the latest symbol. -/
theorem runLaws (ops : List RegistryOp) (room : (returnedHandles ops).length < UInt32.size)
    (symbolRoom : (madeSymbols ops).length < UInt32.size) : RunLaws ops := by
  have size_eq : (ofOps ops).size = (returnedHandles ops).length := by
    rw [← handles_ofOps, length_handles]
  have symbols_eq : (ofOps ops).symbols.size = (madeSymbols ops).length := by
    simp [← symbolNames_ofOps, symbolNames]
  have names_eq : (ofOps ops).symbolNames = madeSymbols ops := symbolNames_ofOps ops
  -- the bounds are about what the run gives back; the lemmas ask for bounds on the registry
  rw [← size_eq] at room
  rw [← symbols_eq] at symbolRoom
  have sound : (ofOps ops).Sound := sound_ofOps room
  constructor
  case returned_eq => rw [← size_eq, ← handles_ofOps, index_handles room]
  case registered_iff =>
    intro handle
    rw [facts?_isSome_iff, ← handles_ofOps, mem_handles_iff]
  case newSymbol_eq =>
    intro name
    rw [← symbols_eq]
    exact UInt32.toNat_ofNat_of_lt symbolRoom
  case refused_iff =>
    intro symbol spec
    simp [declare?, ← symbols_eq]
  case refused_eq =>
    intro symbol spec refused
    rw [ofOps_append]
    simp [RegistryOp.apply, refused]
  case recorded =>
    intro op handle given
    rw [ofOps_append, ← symbols_eq]
    exact recorded_apply room symbolRoom given
  case kept =>
    intro later handle facts registered
    rw [ofOps_append]
    exact facts?_of_steps (steps_foldl later (ofOps ops)) registered
  case declarations_sorted => exact sound.sorted room
  case mem_declarations_iff => exact fun symbol handle => sound.mem_declarations_iff
  case named =>
    intro symbol handle listed
    obtain ⟨facts, registered, rfl⟩ := Option.map_eq_some_iff.mp (sound.consistent symbol handle listed)
    rw [← names_eq]
    exact ⟨facts, registered, sound.named handle facts registered⟩
  case count_siblings => exact fun handle => sound.count_siblings room
  case siblings_eq => exact fun handle other => sound.consistent.siblings_eq
  case siblings_nil =>
    intro handle unknown
    simp [siblings, symbolOf?, unknown]
  case resolve_eq_some_iff =>
    rw [← names_eq]
    exact sound.resolve?_eq_some_iff room symbolRoom
  case resolve_eq_none_iff =>
    rw [← names_eq]
    exact resolve?_eq_none_iff symbolRoom

/-- A run that makes two symbols `f`, one before and one after all declarations, and that asks for a
symbol that does not exist. -/
def Sample.run : List RegistryOp :=
  [.newSymbol "f", .declare ⟨0⟩ { kind := .function }, .declareUnique "g" { kind := .var },
    .declare ⟨7⟩ { kind := .function }, .declare ⟨0⟩ { kind := .function }, .newSymbol "f"]

/-- The laws hold after the sample run, which makes two symbols of one name. -/
theorem runLaws_run :
    returnedHandles Sample.run = [⟨0⟩, ⟨1⟩, ⟨2⟩] ∧ madeSymbols Sample.run = ["f", "g", "f"] ∧
      RunLaws Sample.run :=
  ⟨by decide, by decide, runLaws Sample.run (by decide) (by decide)⟩

end Registry

end Overloading
