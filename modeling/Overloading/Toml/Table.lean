/-! # Values and tables

A table is built up from key and value pairs and from headers. What may be added to a table depends on
how it came about, so tables under construction carry their origin. -/

namespace Overloading.Toml

/-- A value. Floats and dates are kept as they are written. -/
inductive Value
  | text (value : String)
  | integer (value : Int)
  | float (text : String)
  | boolean (value : Bool)
  | dateTime (text : String)
  | array (items : List Value)
  | table (entries : List (String × Value))

/-- How a table came about. -/
inductive Origin
  /-- By a header of its own. -/
  | header
  /-- By the header of a table inside it. -/
  | inner
  /-- By a dotted key. -/
  | dotted
deriving DecidableEq

/-- What stands under a key of a table under construction. -/
inductive Node
  /-- A value, which is complete. -/
  | leaf (content : Value)
  /-- A table. -/
  | table (origin : Origin) (entries : List (String × Node))
  /-- A list of tables, each by a header of its own. -/
  | tables (rows : List (List (String × Node)))

/-- The entries of a table under construction. -/
abbrev Entries := List (String × Node)

namespace Entries

/-- The entries in which a key has another node. -/
def set (entries : Entries) (key : String) (node : Node) : Entries :=
  entries.map fun entry => if entry.1 = key then (key, node) else entry

/-- Whether pairs under a dotted key may be added to a table that exists. The last table on the way must
itself come from dotted keys, those before it must not have a header of their own. -/
def admitsPair (origin : Origin) (isLast : Bool) : Bool :=
  if isLast then origin = .dotted else origin ≠ .header

/-- Adds a value under a key, given as its parts. -/
def insert (value : Value) : List String → Entries → Option Entries
  | [], _ => none
  | [key], entries =>
    match entries.lookup key with
    | none => some (entries ++ [(key, .leaf value)])
    | some _ => none
  | key :: next :: rest, entries =>
    match entries.lookup key with
    | none => do
      let inside ← insert value (next :: rest) []
      return entries ++ [(key, .table .dotted inside)]
    | some (.table origin inside) =>
      if admitsPair origin rest.isEmpty then do
        let inside ← insert value (next :: rest) inside
        return entries.set key (.table origin inside)
      else none
    | some (.tables rows) =>
      match rows.getLast? with
      | some row =>
        if rest.isEmpty then none
        else do
          let row ← insert value (next :: rest) row
          return entries.set key (.tables (rows.dropLast ++ [row]))
      | none => none
    | some (.leaf _) => none

/-- Changes the table under a path of keys. Tables on the way that are missing are made; of a list of
tables the last one is meant. -/
def modifyAt (change : Entries → Option Entries) : List String → Entries → Option Entries
  | [], entries => change entries
  | key :: path, entries =>
    match entries.lookup key with
    | none => do
      let inside ← modifyAt change path []
      return entries ++ [(key, .table .inner inside)]
    | some (.table origin inside) => do
      let inside ← modifyAt change path inside
      return entries.set key (.table origin inside)
    | some (.tables rows) =>
      match rows.getLast? with
      | some row => do
        let row ← modifyAt change path row
        return entries.set key (.tables (rows.dropLast ++ [row]))
      | none => none
    | some (.leaf _) => none

/-- Opens a table by its header. A table may have only one header. -/
def openTable (key : String) (entries : Entries) : Option Entries :=
  match entries.lookup key with
  | none => some (entries ++ [(key, .table .header [])])
  | some (.table .inner inside) => some (entries.set key (.table .header inside))
  | some _ => none

/-- Opens a further table of a list of tables by its header. -/
def openRow (key : String) (entries : Entries) : Option Entries :=
  match entries.lookup key with
  | none => some (entries ++ [(key, .tables [[]])])
  | some (.tables rows) => some (entries.set key (.tables (rows ++ [[]])))
  | some _ => none

end Entries

mutual
/-- The value of a node. -/
def Node.toValue : Node → Value
  | .leaf content => content
  | .table _ entries => .table (Node.entryValues entries)
  | .tables rows => .array (Node.rowValues rows)
/-- The values of the entries of a table. -/
def Node.entryValues : List (String × Node) → List (String × Value)
  | [] => []
  | (key, node) :: entries => (key, node.toValue) :: Node.entryValues entries
/-- The values of a list of tables. -/
def Node.rowValues : List (List (String × Node)) → List Value
  | [] => []
  | row :: rows => .table (Node.entryValues row) :: Node.rowValues rows
end

end Overloading.Toml
