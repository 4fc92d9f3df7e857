/-! # Diagnostics

A diagnostic is a coded message to the user about a place in the source, with an optional hint and
with notes that tools can look up by key. `Diagnostics` collects them in the order of reporting. -/

namespace Overloading

/-! ## Source positions

A span is a byte range in a file. Code that no file holds has the dummy span. -/

/-- A source file of the compilation unit. -/
structure FileId where
  /-- Number of the file. -/
  value : UInt32
deriving DecidableEq

/-- The file of code that stands in no file: the largest number. -/
def FileId.dummy : FileId := ⟨4294967295⟩

/-- A range of bytes in a file, `stop` excluded. -/
structure Span where
  /-- The file that the range lies in. -/
  file : FileId
  /-- Offset of the first byte. -/
  start : UInt32
  /-- Offset after the last byte. -/
  stop : UInt32
deriving DecidableEq

namespace Span

/-- The span of code that stands in no file. -/
def dummy : Span := ⟨.dummy, 0, 0⟩

instance : Inhabited Span := ⟨dummy⟩

/-- Whether the span lies in no file. -/
def isDummy (span : Span) : Bool := span.file = .dummy

/-- Number of bytes in the range; a range that ends before it starts has none. -/
def length (span : Span) : UInt32 :=
  if span.start ≤ span.stop then span.stop - span.start else 0

/-- Whether the range holds no byte. -/
def isEmpty (span : Span) : Bool := span.length = 0

end Span

/-! ## Messages -/

/-- How bad a diagnostic is. -/
inductive Severity
  | warning
  | error
deriving DecidableEq

namespace Severity

/-- The word for a severity in messages. -/
def render : Severity → String
  | .warning => "warning"
  | .error => "error"

/-- The rank of a severity: an error ranks above a warning. -/
def rank : Severity → Nat
  | .warning => 0
  | .error => 1

instance : LT Severity := ⟨fun one other => one.rank < other.rank⟩

instance (one other : Severity) : Decidable (one < other) :=
  inferInstanceAs (Decidable (one.rank < other.rank))

end Severity

/-- What a diagnostic is about. -/
inductive DiagnosticCode
  /-- An override is declared with another visibility than the member that it overrides. -/
  | overrideVisibilityMismatch
  /-- Specialization failed. -/
  | internalError
deriving DecidableEq

namespace DiagnosticCode

/-- The short code in messages. -/
def render : DiagnosticCode → String
  | .overrideVisibilityMismatch => "V001"
  | .internalError => "I001"

/-- What the code stands for. -/
def description : DiagnosticCode → String
  | .overrideVisibilityMismatch => "override visibility does not match the overridden member"
  | .internalError => "internal error in overload specialization"

/-- The severity of a diagnostic for which none is chosen. -/
def defaultSeverity : DiagnosticCode → Severity
  | .overrideVisibilityMismatch => .error
  | .internalError => .error

end DiagnosticCode

/-- A message to the user. -/
structure Diagnostic where
  /-- What the message is about. -/
  code : DiagnosticCode
  /-- How bad it is. -/
  severity : Severity
  /-- The message. -/
  message : String
  /-- A hint at what to do. -/
  help : Option String := none
  /-- The place in the source. -/
  span : Span := .dummy
  /-- Facts for tools, by key. -/
  notes : List (String × String) := []
deriving DecidableEq

namespace Diagnostic

/-- A diagnostic with the default severity of its code. -/
def ofCode (code : DiagnosticCode) (message : String) : Diagnostic :=
  { code, severity := code.defaultSeverity, message }

/-- An error. -/
def error (code : DiagnosticCode) (message : String) : Diagnostic :=
  { code, severity := .error, message }

/-- A warning. -/
def warning (code : DiagnosticCode) (message : String) : Diagnostic :=
  { code, severity := .warning, message }

/-- The diagnostic at another place. -/
def withSpan (diagnostic : Diagnostic) (span : Span) : Diagnostic := { diagnostic with span }

/-- The diagnostic with a hint, which replaces any earlier one. -/
def withHelp (diagnostic : Diagnostic) (help : String) : Diagnostic :=
  { diagnostic with help := some help }

/-- The diagnostic with one more note. -/
def withNote (diagnostic : Diagnostic) (key value : String) : Diagnostic :=
  { diagnostic with notes := diagnostic.notes ++ [(key, value)] }

/-- Whether the diagnostic is an error. -/
def isError (diagnostic : Diagnostic) : Bool := diagnostic.severity = .error

/-- The value of the first note under a key. -/
def note? (diagnostic : Diagnostic) (key : String) : Option String :=
  (diagnostic.notes.find? fun note => note.1 = key).map Prod.snd

/-- The text of a diagnostic: severity, code and message, and the hint on a line of its own. -/
def render (diagnostic : Diagnostic) : String :=
  diagnostic.severity.render ++ "[" ++ diagnostic.code.render ++ "]: " ++ diagnostic.message ++
    match diagnostic.help with
    | some help => "\n  = help: " ++ help
    | none => ""

end Diagnostic

/-- Diagnostics in the order in which they were reported. -/
structure Diagnostics where
  /-- The diagnostics, earliest first. -/
  items : List Diagnostic := []
deriving DecidableEq

namespace Diagnostics

/-- No diagnostics. -/
def empty : Diagnostics := {}

/-- Reports one more diagnostic. -/
def push (diagnostics : Diagnostics) (diagnostic : Diagnostic) : Diagnostics :=
  ⟨diagnostics.items ++ [diagnostic]⟩

/-- Reports several diagnostics in order. -/
def extend (diagnostics : Diagnostics) (more : List Diagnostic) : Diagnostics :=
  ⟨diagnostics.items ++ more⟩

/-- The errors among the diagnostics. -/
def errors (diagnostics : Diagnostics) : List Diagnostic :=
  diagnostics.items.filter Diagnostic.isError

/-- Whether there is an error. -/
def hasErrors (diagnostics : Diagnostics) : Bool := diagnostics.items.any Diagnostic.isError

/-- Number of errors. -/
def errorCount (diagnostics : Diagnostics) : Nat := diagnostics.errors.length

/-- Number of diagnostics. -/
def size (diagnostics : Diagnostics) : Nat := diagnostics.items.length

/-- Whether nothing was reported. -/
def isEmpty (diagnostics : Diagnostics) : Bool := diagnostics.items.isEmpty

/-- Takes all diagnostics out, so that none are left. -/
def drain (diagnostics : Diagnostics) : List Diagnostic × Diagnostics :=
  (diagnostics.items, empty)

end Diagnostics

end Overloading
