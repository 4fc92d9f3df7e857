import Overloading.Types

/-! # The types of parameters

For one signature, each parameter of the implementation has a static type. `ParamTypes` maps handles to
types, and lists its entries by handle. -/

namespace Overloading

/-- A map from parameters to their types, in the order of the handles. -/
structure ParamTypes where
  /-- The entries, least handle first. -/
  entries : List (DeclHandle × StaticType) := []

namespace ParamTypes

/-- A map without entries. -/
def empty : ParamTypes := {}

/-- The type of the first entry with a handle. -/
def findIn? (handle : DeclHandle) : List (DeclHandle × StaticType) → Option StaticType
  | [] => none
  | (other, type) :: entries => if handle = other then some type else findIn? handle entries

/-- The type of a parameter, if the map has one. -/
def find? (types : ParamTypes) (handle : DeclHandle) : Option StaticType :=
  findIn? handle types.entries

/-- Puts an entry in its place, over any that has the same handle. -/
def insertEntry (handle : DeclHandle) (type : StaticType) :
    List (DeclHandle × StaticType) → List (DeclHandle × StaticType)
  | [] => [(handle, type)]
  | (other, otherType) :: entries =>
    if handle = other then (handle, type) :: entries
    else if handle.index < other.index then (handle, type) :: (other, otherType) :: entries
    else (other, otherType) :: insertEntry handle type entries

/-- The map in which a parameter has a given type. -/
def insert (types : ParamTypes) (handle : DeclHandle) (type : StaticType) : ParamTypes :=
  ⟨insertEntry handle type types.entries⟩

/-- The map with the given entries; of several for one handle the last one counts. -/
def ofList (entries : List (DeclHandle × StaticType)) : ParamTypes :=
  entries.foldl (fun types entry => types.insert entry.1 entry.2) empty

@[simp] theorem find?_empty (handle : DeclHandle) : empty.find? handle = none := rfl

/-- A look-up after an insertion. -/
theorem find?_insert (types : ParamTypes) (handle other : DeclHandle) (type : StaticType) :
    (types.insert handle type).find? other =
      if other = handle then some type else types.find? other := by
  obtain ⟨entries⟩ := types
  simp only [find?, insert]
  induction entries with
  | nil => simp [insertEntry, findIn?]
  | cons entry entries ih =>
    obtain ⟨key, value⟩ := entry
    simp only [insertEntry]
    by_cases same : handle = key
    · subst same
      by_cases h : other = handle <;> simp [findIn?, h]
    · rw [if_neg same]
      split
      · simp [findIn?]
      · simp only [findIn?, ih]
        by_cases h : other = key
        · rw [if_pos h, if_pos h, if_neg fun h' => same (h'.symm.trans h)]
        · rw [if_neg h, if_neg h]

/-- A lookup tries the first entries before the others. -/
theorem findIn?_append (handle : DeclHandle) (entries others : List (DeclHandle × StaticType)) :
    findIn? handle (entries ++ others) = (findIn? handle entries).or (findIn? handle others) := by
  induction entries with
  | nil => rfl
  | cons entry entries ih => by_cases same : handle = entry.1 <;> simp [findIn?, same, ih]

/-- A lookup succeeds for the handles that have an entry. -/
theorem isSome_findIn? {handle : DeclHandle} {entries : List (DeclHandle × StaticType)} :
    (findIn? handle entries).isSome ↔ handle ∈ entries.map Prod.fst := by
  induction entries with
  | nil => simp [findIn?]
  | cons entry entries ih => by_cases same : handle = entry.1 <;> simp [findIn?, same, ih]

/-- What a lookup finds is an entry of the list. -/
theorem mem_of_findIn? {handle : DeclHandle} {type : StaticType}
    {entries : List (DeclHandle × StaticType)} (found : findIn? handle entries = some type) :
    (handle, type) ∈ entries := by
  induction entries with
  | nil => cases found
  | cons entry entries ih =>
    rw [findIn?] at found
    split at found
    · next same =>
      cases found
      rw [same]
      exact List.mem_cons_self
    · exact List.mem_cons_of_mem _ (ih found)

/-- A look-up in a map that is given by its entries: the last entry counts. -/
theorem find?_ofList (entries : List (DeclHandle × StaticType)) (handle : DeclHandle) :
    (ofList entries).find? handle = findIn? handle entries.reverse := by
  rw [ofList, List.foldl_eq_foldr_reverse]
  induction entries.reverse with
  | nil => rfl
  | cons entry entries ih => rw [List.foldr_cons, find?_insert, findIn?, ih]

end ParamTypes

end Overloading
