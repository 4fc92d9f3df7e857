import Overloading.Toml.Text

/-! # Numbers and dates

Whole numbers must fit into 64 bits. A float must not exceed the range of 64-bit floats upwards; other
than that only its text matters. -/

namespace Overloading.Toml

/-! ## Digits -/

/-- Reads digits in a base, after the first of which single underscores may stand between digits. -/
def moreDigits (base : Nat) : Reader (List Char) :=
  Reader.many (Reader.satisfy (isDigitIn base) <|>
    Reader.char '_' *> Reader.satisfy (isDigitIn base))

/-- Reads at least one digit in a base. -/
def digits (base : Nat) : Reader (List Char) := do
  let first ← Reader.satisfy (isDigitIn base)
  return first :: (← moreDigits base)

/-- Reads a sign, and yields whether it is a minus. -/
def sign : Reader Bool := do
  match ← Reader.optional? (Reader.satisfy fun c => c = '+' || c = '-') with
  | some '-' => return true
  | _ => return false

/-- Reads decimal digits without a leading zero. -/
def wholeDigits : Reader (List Char) :=
  (do
    let first ← Reader.satisfy fun c => isDigitIn 10 c && c ≠ '0'
    return first :: (← moreDigits 10)) <|>
  (do return [← Reader.satisfy (isDigitIn 10)])

/-! ## Whole numbers -/

/-- The number itself, if it fits into 64 bits. -/
def inRange (number : Int) : Reader Int :=
  if -9223372036854775808 ≤ number ∧ number ≤ 9223372036854775807 then return number else failure

/-- Reads a number in a base after its mark. -/
def markedInteger (mark : Char) (base : Nat) : Reader Int := do
  Reader.chars ['0', mark]
  inRange (numberIn base (← digits base))

/-- Reads a decimal number. -/
def decimalInteger : Reader Int := do
  let isNegative ← sign
  let magnitude : Int := numberIn 10 (← wholeDigits)
  inRange (if isNegative then -magnitude else magnitude)

/-- Reads a whole number. -/
def integer : Reader Int :=
  markedInteger 'x' 16 <|> markedInteger 'o' 8 <|> markedInteger 'b' 2 <|> decimalInteger

/-! ## Floats -/

/-- Whether `mantissa * 10 ^ exponent` is so large that the nearest 64-bit float is infinite: it lies at
or above the middle between the greatest float and the next power of two. With `digitCount` the number
of decimal digits of the mantissa, the power of ten alone decides but for one case. -/
def overflows (mantissa : Nat) (exponent : Int) : Bool :=
  let digitCount : Int := (Nat.toDigits 10 mantissa).length
  let bound : Nat := (Nat.pow 2 54 - 1) * Nat.pow 2 970
  if mantissa = 0 ∨ digitCount + exponent ≤ 308 then false
  else if 310 ≤ digitCount + exponent then true
  else bound * Nat.pow 10 (-exponent).toNat ≤ mantissa * Nat.pow 10 exponent.toNat

/-- Reads the exponent of a float. -/
def exponent : Reader Int := do
  discard (Reader.satisfy fun c => c = 'e' || c = 'E')
  let isNegative ← sign
  let magnitude : Int := numberIn 10 (← digits 10)
  return if isNegative then -magnitude else magnitude

/-- Reads the fraction of a float. -/
def fraction : Reader (List Char) := Reader.char '.' *> digits 10

/-- Reads a float that is written in digits. -/
def finiteFloat : Reader Unit := do
  let isNegative ← sign
  let whole ← wholeDigits
  let (decimals, power) ←
    (do return ([], ← exponent)) <|>
    (do
      let decimals ← fraction
      return (decimals, (← Reader.optional? exponent).getD 0))
  if !isNegative && overflows (numberIn 10 (whole ++ decimals)) (power - decimals.length) then failure
  else return ()

/-- Reads an infinity or a NaN. -/
def specialFloat : Reader Unit := do
  discard sign
  Reader.chars ['i', 'n', 'f'] <|> Reader.chars ['n', 'a', 'n']

/-- Reads a float, and yields its text. -/
def float : Reader String := Reader.textOf (finiteFloat <|> specialFloat)

/-! ## Dates and times -/

/-- Reads a number of exactly so many digits within bounds. -/
def field (count least greatest : Nat) : Reader Nat := do
  let value := numberIn 10 (← Reader.times count (Reader.satisfy (isDigitIn 10)))
  if least ≤ value ∧ value ≤ greatest then return value else failure

/-- Number of days of a month. -/
def daysOf (year month : Nat) : Nat :=
  if month = 2 then
    if year % 4 = 0 ∧ (year % 100 ≠ 0 ∨ year % 400 = 0) then 29 else 28
  else if month = 4 ∨ month = 6 ∨ month = 9 ∨ month = 11 then 30
  else 31

/-- Reads a date. -/
def date : Reader Unit := do
  let year ← field 4 0 9999
  Reader.char '-'
  let month ← field 2 1 12
  Reader.char '-'
  discard (field 2 1 (daysOf year month))

/-- Reads a time of day; a leap second is allowed. -/
def time : Reader Unit := do
  discard (field 2 0 23)
  Reader.char ':'
  discard (field 2 0 59)
  Reader.char ':'
  discard (field 2 0 60)
  discard (Reader.optional? (do
    Reader.char '.'
    discard (Reader.satisfy (isDigitIn 10))
    discard (Reader.takeWhile (isDigitIn 10))))

/-- Reads the offset of a time from universal time. -/
def offset : Reader Unit :=
  discard (Reader.satisfy fun c => c = 'Z' || c = 'z') <|>
  (do
    discard (Reader.satisfy fun c => c = '+' || c = '-')
    discard (field 2 0 23)
    Reader.char ':'
    discard (field 2 0 59))

/-- Reads a date with or without a time, or a time, and yields its text. -/
def dateTime : Reader String :=
  Reader.textOf
    ((do
      date
      discard (Reader.optional? (do
        discard (Reader.satisfy fun c => c = 'T' || c = 't' || c = ' ')
        time
        discard (Reader.optional? offset)))) <|> time)

end Overloading.Toml
