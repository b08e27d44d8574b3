import Listing.Decimal.Shortest

set_option autoImplicit false

namespace Listing.Decimal

/-!
# Notation

How a floating-point number is laid out once its digits are known: positionally or with an
exponent, and with which marks. A format is one value of `Notation`.
-/

/-- The decisions of one number format. A fraction digit is always written in positional form. -/
structure Notation where
  /-- The least exponent of the leading digit that is written positionally. -/
  plainFrom : Int
  /-- The least exponent above that which is no longer written positionally. -/
  plainBelow : Int
  /-- Whether a positive exponent has a sign. -/
  plusSign : Bool
  /-- Which of two equally near shortest decimals is written. -/
  tie : Tie
  /-- The text of an infinite number, without its sign. -/
  infinite : String
  /-- The text of what is no number. -/
  notANumber : String
deriving Repr, DecidableEq

def zeros (count : Nat) : List Char :=
  List.replicate count '0'

/-- Digits with the point where the exponent puts it, and at least one digit on either side. -/
def positional (digits : List Char) (exponent : Int) : List Char :=
  if 0 ≤ exponent then digits ++ zeros exponent.toNat ++ ['.', '0']
  else
    let places := (-exponent).toNat
    if places < digits.length then
      digits.take (digits.length - places) ++ '.' :: digits.drop (digits.length - places)
    else ['0', '.'] ++ zeros (places - digits.length) ++ digits

/-- One digit, the others after a point if there are any, and the exponent of the first. -/
def scientific (plusSign : Bool) (digits : List Char) (leading : Int) : List Char :=
  let body :=
    match digits with
    | first :: second :: rest => first :: '.' :: second :: rest
    | short => short
  let sign := if leading < 0 then ['-'] else if plusSign then ['+'] else []
  body ++ 'e' :: sign ++ Nat.toDigits 10 leading.natAbs

/-- The magnitude of a finite number, laid out. -/
def Notation.magnitude (format : Notation) (value : Binary) : List Char :=
  let numeral := value.shortest format.tie
  let digits := Nat.toDigits 10 numeral.digits
  let leading := numeral.exponent + digits.length - 1
  if numeral.digits = 0 ∨ (format.plainFrom ≤ leading ∧ leading < format.plainBelow) then
    positional digits numeral.exponent
  else scientific format.plusSign digits leading

/-- The text of a floating-point number. The sign of zero is kept. -/
def Notation.render (format : Notation) (number : Float) : String :=
  let bits := number.toBits
  let sign := if bits >>> 63 = 1 then "-" else ""
  if number.isNaN then format.notANumber
  else if number.isInf then sign ++ format.infinite
  else sign ++ String.ofList (format.magnitude (Binary.ofBits bits))

end Listing.Decimal
