import Overloading.Diagnostic

/-! # Diagnostics as interchange data

How severities, codes, files, spans and diagnostics are written as data, and how the first four are
read back. A span is written as a record and read from a record, whose other fields are ignored, or
from the list of its three numbers. -/

namespace Overloading

/-! ## Data

The form in which values are exchanged with other tools: null, booleans, numbers, texts, lists and
records. Whole numbers are kept apart from numbers written with a fraction, since a field for a whole
number takes only the former. -/

/-- A value for exchange. -/
inductive Datum
  /-- No value. -/
  | null
  /-- A truth value. -/
  | bool (value : Bool)
  /-- A number written as a whole number. -/
  | integer (value : Int)
  /-- A number written with a fraction: `mantissa` over `10 ^ places`. -/
  | fraction (mantissa : Int) (places : Nat)
  /-- A text. -/
  | text (value : String)
  /-- A list of values. -/
  | list (items : List Datum)
  /-- Values by name. -/
  | record (fields : List (String × Datum))

namespace Datum

/-- The value of a field of a record. -/
def field? : Datum → String → Option Datum
  | .record fields, name => fields.lookup name
  | _, _ => none

/-- Reads a 32-bit number: a whole number in its range. -/
def toUInt32? : Datum → Option UInt32
  | .integer value =>
    if 0 ≤ value ∧ value < 4294967296 then some (UInt32.ofNat value.toNat) else none
  | _ => none

/-- Reads the name of a case: a text, or a record of one field that carries nothing. -/
def toCaseName? : Datum → Option String
  | .text name => some name
  | .record [(name, .null)] => some name
  | _ => none

end Datum

/-! ## Diagnostics -/

namespace Severity

/-- Writes a severity as its word. -/
def toDatum (severity : Severity) : Datum := .text severity.render

/-- Reads a severity from its word. -/
def ofDatum? (datum : Datum) : Option Severity :=
  match datum.toCaseName? with
  | some "warning" => some .warning
  | some "error" => some .error
  | _ => none

end Severity

namespace DiagnosticCode

/-- The name of a code in data. -/
def caseName : DiagnosticCode → String
  | .overrideVisibilityMismatch => "OverrideVisibilityMismatch"
  | .internalError => "InternalError"

/-- Writes a code as its name. -/
def toDatum (code : DiagnosticCode) : Datum := .text code.caseName

/-- Reads a code from its name. -/
def ofDatum? (datum : Datum) : Option DiagnosticCode :=
  match datum.toCaseName? with
  | some "OverrideVisibilityMismatch" => some .overrideVisibilityMismatch
  | some "InternalError" => some .internalError
  | _ => none

end DiagnosticCode

namespace FileId

/-- Writes a file as its number. -/
def toDatum (file : FileId) : Datum := .integer file.value.toNat

/-- Reads a file from its number. -/
def ofDatum? (datum : Datum) : Option FileId := datum.toUInt32?.map FileId.mk

end FileId

namespace Span

/-- Writes a span as a record. -/
def toDatum (span : Span) : Datum :=
  .record [("file_id", span.file.toDatum), ("start", .integer span.start.toNat),
    ("end", .integer span.stop.toNat)]

/-- Reads a span from the data of its file, start and end. -/
def ofParts? (file start stop : Datum) : Option Span := do
  return ⟨← FileId.ofDatum? file, ← start.toUInt32?, ← stop.toUInt32?⟩

/-- Reads a span from a record or from a list of three numbers. -/
def ofDatum? : Datum → Option Span
  | .list [file, start, stop] => ofParts? file start stop
  | .record fields => do
    ofParts? (← fields.lookup "file_id") (← fields.lookup "start") (← fields.lookup "end")
  | _ => none

end Span

namespace Diagnostic

/-- Writes a diagnostic as a record. -/
def toDatum (diagnostic : Diagnostic) : Datum :=
  .record [("code", diagnostic.code.toDatum), ("severity", diagnostic.severity.toDatum),
    ("message", .text diagnostic.message),
    ("help", match diagnostic.help with
      | some help => .text help
      | none => .null),
    ("span", diagnostic.span.toDatum),
    ("notes", .list (diagnostic.notes.map fun note => .list [.text note.1, .text note.2]))]

end Diagnostic

/-- Writes diagnostics as a record that holds the list of them. -/
def Diagnostics.toDatum (diagnostics : Diagnostics) : Datum :=
  .record [("items", .list (diagnostics.items.map Diagnostic.toDatum))]

end Overloading
