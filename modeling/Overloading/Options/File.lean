import Overloading.Program
import Overloading.Toml.Number
import Overloading.Toml.Table

/-! # Options from a project file

A project file may set options under `specialize`. An option that is not set has its default, and what
else the file holds is ignored. -/

namespace Overloading.Toml

/-! ## Documents

A document is a sequence of lines: pairs of a key and a value, headers of tables, comments.
`Toml.parse?` yields the table that a document describes, or nothing if it is not well formed. -/

/-! ### Values -/

/-- Reads a boolean. -/
def boolean : Reader Bool :=
  (do Reader.chars ['t', 'r', 'u', 'e']; return true) <|>
  (do Reader.chars ['f', 'a', 'l', 's', 'e']; return false)

/-- Reads a value that has no values inside it. -/
def scalar : Reader Value :=
  (.text <$> text) <|> (.boolean <$> boolean) <|> (.dateTime <$> dateTime) <|>
    (.float <$> float) <|> (.integer <$> integer)

/-- Reads an array. Its items may stand on several lines, and a comma may follow the last. -/
def array (item : Reader Value) : Reader Value := do
  Reader.char '['
  let items ← Reader.separated (skipLayout *> item <* skipLayout) (Reader.char ',')
  if items.isEmpty then pure () else discard (Reader.optional? (Reader.char ','))
  skipLayout
  Reader.char ']'
  return .array items

/-- Reads a key, an equals sign and a value. -/
def pair (item : Reader Value) : Reader (List String × Value) := do
  let path ← key
  Reader.char '='
  skipBlanks
  return (path, ← item)

/-- Adds pairs to a table one by one. -/
def insertPairs : List (List String × Value) → Entries → Option Entries
  | [], entries => some entries
  | (path, value) :: pairs, entries => do insertPairs pairs (← entries.insert value path)

/-- Reads a table on one line. No comma follows the last pair. -/
def inlineTable (item : Reader Value) : Reader Value := do
  Reader.char '\x7b'
  let pairs ← Reader.separated (pair item <* skipBlanks) (Reader.char ',')
  skipBlanks
  Reader.char '\x7d'
  match insertPairs pairs [] with
  | some entries => return .table (Node.entryValues entries)
  | none => failure

/-- Reads a value in which arrays and tables are nested to at most the given number of levels. -/
def value : Nat → Reader Value
  | 0 => scalar
  | levels + 1 => scalar <|> array (value levels) <|> inlineTable (value levels)

/-! ### Lines -/

/-- A document as far as it has been read. -/
structure Document where
  /-- The table of the whole document. -/
  entries : Entries := []
  /-- The path of the table that pairs are added to. -/
  current : List String := []

namespace Document

/-- Adds a pair to the current table. -/
def addPair (document : Document) (path : List String) (value : Value) : Option Document := do
  let entries ← document.entries.modifyAt (Entries.insert value path) document.current
  return { document with entries }

/-- Opens the table of a header, by the given way to open it in the table around it. -/
def openHeader (document : Document) (enter : String → Entries → Option Entries)
    (path : List String) : Option Document := do
  let entries ← document.entries.modifyAt (enter (← path.getLast?)) path.dropLast
  return { entries, current := path }

end Document

/-- Succeeds with the value of an option. -/
def ofOption {α : Type} (result : Option α) : Reader α := fun input =>
  result.map fun found => (found, input)

/-- Reads a header of a table, or of a further table of a list of tables. -/
def header (document : Document) : Reader Document :=
  (do
    Reader.chars ['[', '[']
    let path ← key
    Reader.chars [']', ']']
    lineRest
    ofOption (document.openHeader Entries.openRow path)) <|>
  (do
    Reader.char '['
    let path ← key
    Reader.char ']'
    lineRest
    ofOption (document.openHeader Entries.openTable path))

/-- Reads a line. -/
def line (document : Document) : Reader Document :=
  (do comment; newline <|> Reader.atEnd; return document) <|>
  (do newline; return document) <|>
  header document <|>
  (do
    let (path, value) ← pair (value (depthBound - 1))
    lineRest
    ofOption (document.addPair path value))

/-- Reads lines up to the end of the text, of which there are at most so many. -/
def lines : Nat → Document → Reader Document
  | 0, document => Reader.atEnd *> pure document
  | count + 1, document =>
    (Reader.atEnd *> pure document) <|>
    (do
      let document ← line document
      skipBlanks
      lines count document)

/-- The text without a byte order mark at its start. -/
def withoutMark : List Char → List Char
  | '\ufeff' :: rest => rest
  | input => input

/-- The entries of the table that a document describes. Every line takes at least one character, so
there are no more lines than characters. -/
def parse? (document : String) : Option (List (String × Value)) :=
  let input := withoutMark document.toList
  ((skipBlanks *> lines input.length {}) input).map fun (result, _) =>
    Node.entryValues result.entries

end Overloading.Toml

namespace Overloading

/-! ## Options -/

open Toml (Value)

/-- Reads a text. -/
def Toml.Value.toText? : Value → Option String
  | .text value => some value
  | _ => none

/-- Reads a boolean. -/
def Toml.Value.toBool? : Value → Option Bool
  | .boolean value => some value
  | _ => none

/-- Reads a list of texts. -/
def Toml.Value.toTexts? : Value → Option (List String)
  | .array items => items.mapM Value.toText?
  | _ => none

namespace Options

/-- Reads an option, or takes its default if it is not set. -/
def orDefault {α : Type} (read : Value → Option α) (default : α) : Option Value → Option α
  | some value => read value
  | none => some default

/-- Reads the options that are set. -/
def ofSettings? (intrinsicName charTypeNames tieBreak : Option Value) : Option Options := do
  let defaults : Options := {}
  return {
    intrinsicName := ← orDefault Value.toText? defaults.intrinsicName intrinsicName
    charTypeNames := ← orDefault Value.toTexts? defaults.charTypeNames charTypeNames
    tieBreak := ← orDefault Value.toBool? defaults.tieBreak tieBreak }

/-- Reads options from a table by name or from an array by position. A date sets none. -/
def ofValue? : Value → Option Options
  | .table entries =>
    ofSettings? (entries.lookup "intrinsic_name") (entries.lookup "char_type_names")
      (entries.lookup "tie_break")
  | .array items => ofSettings? items[0]? items[1]? items[2]?
  | .dateTime _ => ofSettings? none none none
  | _ => none

/-- Reads options from the text of a project file. -/
def ofText? (text : String) : Option Options := do
  let entries ← Toml.parse? text
  match entries.lookup "specialize" with
  | some value => ofValue? value
  | none => return {}

/-- Why options cannot be loaded. -/
inductive LoadError
  /-- There is no such file, or it is not UTF-8. -/
  | unreadable
  /-- The file is not well formed, or sets an option to a value of the wrong kind. -/
  | invalid
deriving DecidableEq

/-- Loads options from the bytes of a project file, if there is one. -/
def load (contents : Option ByteArray) : Except LoadError Options :=
  match contents.bind String.fromUTF8? with
  | none => .error .unreadable
  | some text =>
    match ofText? text with
    | some options => .ok options
    | none => .error .invalid

end Options

end Overloading
