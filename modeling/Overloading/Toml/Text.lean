/-! # Readers and strings

What the parts of a document are read with, and the strings that it may hold. -/

namespace Overloading.Toml

/-! ## Readers

A reader takes characters from the front of a text and yields a value, or fails. Of two alternatives
the second is tried from where the first started. -/

/-- Yields a value and what is left of the input, or fails. -/
abbrev Reader := StateT (List Char) Option

namespace Reader

variable {α β : Type}

/-- Succeeds at the end of the input. -/
def atEnd : Reader Unit := fun input => if input.isEmpty then some ((), input) else none

/-- Reads a character that passes a test. -/
def satisfy (test : Char → Bool) : Reader Char
  | next :: rest => if test next then some (next, rest) else none
  | [] => none

/-- Reads the given character. -/
def char (expected : Char) : Reader Unit := do
  discard (satisfy fun next => next = expected)

/-- Reads the given characters. -/
def chars (expected : List Char) : Reader Unit := expected.forM char

/-- Reads as many characters as pass a test. -/
def takeWhile (test : Char → Bool) : Reader (List Char) := fun input =>
  some (input.takeWhile test, input.dropWhile test)

/-- Tries a reader. -/
def optional? (reader : Reader α) : Reader (Option α) := some <$> reader <|> pure none

/-- Repeats a reader at most a number of times, until it fails. -/
def repeatAtMost (reader : Reader α) : Nat → Reader (List α)
  | 0 => pure []
  | count + 1 =>
    (do
      let first ← reader
      let rest ← repeatAtMost reader count
      return first :: rest) <|> pure []

/-- Repeats a reader until it fails. A reader that takes at least one character can succeed at most as
often as there are characters. -/
def many (reader : Reader α) : Reader (List α) := fun input =>
  repeatAtMost reader input.length input

/-- Reads any number of items with separators between them. -/
def separated (item : Reader α) (separator : Reader β) : Reader (List α) :=
  (do
    let first ← item
    let rest ← many (separator *> item)
    return first :: rest) <|> pure []

/-- Reads an item a number of times. -/
def times (count : Nat) (item : Reader α) : Reader (List α) :=
  (List.replicate count ()).mapM fun _ => item

/-- The characters that a reader takes. -/
def textOf (reader : Reader α) : Reader String := fun input =>
  (reader input).map fun (_, rest) => (String.ofList (input.take (input.length - rest.length)), rest)

end Reader

/-! ### Layout -/

/-- A blank within a line. -/
def isBlank (c : Char) : Bool := c = ' ' || c = '\t'

/-- A character that may stand in a comment or a string: all but the control characters, of which the
tab is allowed. -/
def isPrintable (c : Char) : Bool := c = '\t' || (' ' ≤ c && c ≠ '\x7f')

/-- Reads a line break. -/
def newline : Reader Unit := Reader.char '\n' <|> Reader.chars ['\r', '\n']

/-- Skips blanks. -/
def skipBlanks : Reader Unit := discard (Reader.takeWhile isBlank)

/-- Reads a comment, up to the end of its line. -/
def comment : Reader Unit := Reader.char '#' *> discard (Reader.takeWhile isPrintable)

/-- Reads what may follow a statement: blanks, a comment, and the end of the line or of the text. -/
def lineRest : Reader Unit := do
  skipBlanks
  discard (Reader.optional? comment)
  newline <|> Reader.atEnd

/-- Skips blanks, line breaks and comments. -/
def skipLayout : Reader Unit :=
  discard (Reader.many (discard (Reader.satisfy isBlank) <|> newline <|> comment))

/-! ## Strings

The four forms of strings: with escapes or literal, on one line or on several. On several lines, a line
break right after the opening quotes is dropped, every line break counts as one line feed, and up to
two quotes may stand before the closing ones. -/

/-- The quote of strings with escapes. -/
def quoteMark : Char := '\x22'

/-- The quote of literal strings. -/
def apostrophe : Char := '\x27'

/-- The character that starts an escape. -/
def backslash : Char := '\x5c'

/-- The value of a digit in bases up to sixteen. -/
def digitValue? (c : Char) : Option Nat :=
  if '0' ≤ c ∧ c ≤ '9' then some (c.toNat - '0'.toNat)
  else if 'a' ≤ c ∧ c ≤ 'f' then some (c.toNat - 'a'.toNat + 10)
  else if 'A' ≤ c ∧ c ≤ 'F' then some (c.toNat - 'A'.toNat + 10)
  else none

/-- Whether a character is a digit in a base. -/
def isDigitIn (base : Nat) (c : Char) : Bool := (digitValue? c).any fun value => value < base

/-- The number that digits in a base write. -/
def numberIn (base : Nat) (digits : List Char) : Nat :=
  digits.foldl (fun number digit => number * base + (digitValue? digit).getD 0) 0

/-- The character that an escape of one letter stands for. -/
def letterEscape? (letter : Char) : Option Char :=
  match letter with
  | 'b' => some '\x08'
  | 't' => some '\t'
  | 'n' => some '\n'
  | 'f' => some '\x0c'
  | 'r' => some '\r'
  | '\x22' => some quoteMark
  | '\x5c' => some backslash
  | _ => none

/-- Reads the character whose code is written in a number of hexadecimal digits. -/
def hexEscape (count : Nat) : Reader Char := do
  let code := numberIn 16 (← Reader.times count (Reader.satisfy (isDigitIn 16)))
  if code.isValidChar then return Char.ofNat code else failure

/-- Reads an escape. -/
def escape : Reader Char := do
  Reader.char backslash
  match ← Reader.satisfy fun _ => true with
  | 'u' => hexEscape 4
  | 'U' => hexEscape 8
  | letter =>
    match letterEscape? letter with
    | some c => return c
    | none => failure

/-- A character that stands for itself in a string with escapes. -/
def isPlain (c : Char) : Bool := isPrintable c && c ≠ quoteMark && c ≠ backslash

/-- A character that may stand in a literal string. -/
def isLiteral (c : Char) : Bool := isPrintable c && c ≠ apostrophe

/-- Reads a string with escapes on one line. -/
def basicText : Reader String := do
  Reader.char quoteMark
  let content ← Reader.many (Reader.satisfy isPlain <|> escape)
  Reader.char quoteMark
  return String.ofList content

/-- Reads a literal string on one line. -/
def literalText : Reader String := do
  Reader.char apostrophe
  let content ← Reader.takeWhile isLiteral
  Reader.char apostrophe
  return String.ofList content

/-! ### Several lines -/

/-- Reads one or two quotes that do not close the string. -/
def innerQuotes (quote : Char) : Reader (List Char) := fun input =>
  let run := input.takeWhile fun c => c = quote
  if run.length = 1 ∨ run.length = 2 then some (run, input.drop run.length) else none

/-- Reads the three closing quotes, and yields the quotes before them, of which there may be two. -/
def closingQuotes (quote : Char) : Reader (List Char) := fun input =>
  let run := input.takeWhile fun c => c = quote
  if run.length < 3 then none
  else
    let inner := min (run.length - 3) 2
    some (List.replicate inner quote, input.drop (inner + 3))

/-- Reads a string on several lines, given a reader for what is neither a quote nor a line break. -/
def multilineText (quote : Char) (content : Reader (List Char)) : Reader String := do
  Reader.chars [quote, quote, quote]
  discard (Reader.optional? newline)
  let parts ← Reader.many
    (content <|> (do newline; return ['\n']) <|> innerQuotes quote)
  let last ← closingQuotes quote
  return String.ofList (parts.flatten ++ last)

/-- Reads a backslash at the end of a line, which drops the line break and all layout after it. -/
def lineContinuation : Reader Unit := do
  Reader.char backslash
  skipBlanks
  newline
  discard (Reader.many (discard (Reader.satisfy isBlank) <|> newline))

/-- Reads a string with escapes on several lines. -/
def multilineBasicText : Reader String :=
  multilineText quoteMark
    ((do return [← Reader.satisfy isPlain]) <|> (do lineContinuation; return []) <|>
      (do return [← escape]))

/-- Reads a literal string on several lines. -/
def multilineLiteralText : Reader String :=
  multilineText apostrophe (do return [← Reader.satisfy isLiteral])

/-- Reads a string in any form. -/
def text : Reader String :=
  multilineBasicText <|> basicText <|> multilineLiteralText <|> literalText

/-! ### Keys -/

/-- A character of a key without quotes. -/
def isBareKeyChar (c : Char) : Bool := c.isAlphanum || c = '_' || c = '-'

/-- Reads a key without quotes. -/
def bareKey : Reader String := do
  let content ← Reader.takeWhile isBareKeyChar
  if content.isEmpty then failure else return String.ofList content

/-- Reads one part of a key, with the blanks around it. -/
def keyPart : Reader String := do
  skipBlanks
  let part ← basicText <|> literalText <|> bareKey
  skipBlanks
  return part

/-- The bound on the number of parts of a key and on the nesting of values: it must not be reached. -/
def depthBound : Nat := 80

/-- Reads a key: one or more parts with dots between them. -/
def key : Reader (List String) := do
  let parts ← Reader.separated keyPart (Reader.char '.')
  if parts.isEmpty || depthBound ≤ parts.length then failure else return parts

end Overloading.Toml
