set_option autoImplicit false

namespace Listing.Decimal

/-!
# Reading numbers

Integers and floating-point numbers from their text. A text is read as a whole: a character that
does not belong to the number, a blank included, makes it no number.
-/

/-- The ten ASCII digits. -/
def isDigit (char : Char) : Bool :=
  '0' ≤ char && char ≤ '9'

def digitValue (char : Char) : Nat :=
  char.toNat - '0'.toNat

/-- The number that a run of digits writes in base ten; the empty run writes zero. -/
def ofDigits (digits : List Char) : Nat :=
  digits.foldl (fun number digit => number * 10 + digitValue digit) 0

/-- The natural number that a non-empty run of digits writes. -/
def natural? (digits : List Char) : Option Nat :=
  if digits ≠ [] ∧ digits.all isDigit then some (ofDigits digits) else none

/-- Splits an optional sign off. The flag says whether it was a minus. -/
def takeSign : List Char → Bool × List Char
  | '-' :: rest => (true, rest)
  | '+' :: rest => (false, rest)
  | chars => (false, chars)

/-- The integer that a text writes: an optional sign and at least one digit. -/
def integer? (text : String) : Option Int :=
  let (negative, digits) := takeSign text.toList
  (natural? digits).map fun number => if negative then -(number : Int) else number

/-- The natural number that a text writes: an optional plus and at least one digit. -/
def unsigned? (text : String) : Option Nat :=
  match text.toList with
  | '+' :: digits => natural? digits
  | digits => natural? digits

/-! ## Floating-point numbers -/

/-- The parts of a decimal numeral: the digits before and after the point, and the exponent. -/
structure Parts where
  whole : List Char
  fraction : List Char
  exponent : Int
deriving Repr, DecidableEq

/-- The exponent mark and what follows it, or nothing at all. -/
def exponentPart? : List Char → Option Int
  | [] => some 0
  | mark :: rest =>
    if mark = 'e' ∨ mark = 'E' then
      let (negative, digits) := takeSign rest
      (natural? digits).map fun number => if negative then -(number : Int) else number
    else none

/-- A decimal numeral without sign: digits with an optional point among or around them, at least
one digit in all, and an optional exponent. -/
def parts? (chars : List Char) : Option Parts :=
  let whole := chars.takeWhile isDigit
  let afterWhole := chars.dropWhile isDigit
  let (fraction, afterFraction) :=
    match afterWhole with
    | '.' :: rest => (rest.takeWhile isDigit, rest.dropWhile isDigit)
    | rest => ([], rest)
  if whole.isEmpty && fraction.isEmpty then none
  else (exponentPart? afterFraction).map fun exponent => ⟨whole, fraction, exponent⟩

def infinity : Float := Float.ofBits 0x7FF0000000000000

/-- The floating-point number nearest to `number * 10 ^ exponent`. Beyond the ends of the range
the answer is infinity or zero, whatever the digits. -/
def nearest (number : Nat) (exponent : Int) : Float :=
  let leading := exponent + (Nat.toDigits 10 number).length
  if number = 0 then 0
  else if 310 < leading then infinity
  else if leading < -330 then 0
  else Float.ofScientific number (exponent < 0) exponent.natAbs

def Parts.toFloat (parts : Parts) : Float :=
  nearest (ofDigits (parts.whole ++ parts.fraction)) (parts.exponent - parts.fraction.length)

/-- The magnitude that a text without sign writes: a numeral, or one of the words for what is not
finite, in letters of either case. -/
def magnitude? (chars : List Char) : Option Float :=
  let word := String.ofList (chars.map Char.toLower)
  if word = "inf" ∨ word = "infinity" then some infinity
  else if word = "nan" then some (Float.ofBits 0x7FF8000000000000)
  else (parts? chars).map Parts.toFloat

/-- The floating-point number that a text writes: an optional sign and a magnitude. -/
def float? (text : String) : Option Float :=
  let (negative, chars) := takeSign text.toList
  (magnitude? chars).map fun number => if negative then -number else number

end Listing.Decimal
