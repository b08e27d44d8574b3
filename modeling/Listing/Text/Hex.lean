set_option autoImplicit false

namespace Listing.Text

/-!
# Hexadecimal digits
-/

/-- The value of a hexadecimal digit of either case. -/
def hexValue? (char : Char) : Option Nat :=
  if '0' ≤ char ∧ char ≤ '9' then some (char.toNat - '0'.toNat)
  else if 'a' ≤ char ∧ char ≤ 'f' then some (char.toNat - 'a'.toNat + 10)
  else if 'A' ≤ char ∧ char ≤ 'F' then some (char.toNat - 'A'.toNat + 10)
  else none

/-- The lower-case hexadecimal digit of a number below sixteen. -/
def hexDigit (digit : Nat) : Char :=
  if digit < 10 then Char.ofNat ('0'.toNat + digit) else Char.ofNat ('a'.toNat + (digit - 10))

/-- The number that hexadecimal digits write, if all of them are such digits. -/
def ofHex? (digits : List Char) : Option Nat :=
  (digits.mapM hexValue?).map fun values => values.foldl (fun number value => number * 16 + value) 0

/-- The last `count` hexadecimal digits of a number, with zeros in front if it is shorter. -/
def toHex : (count : Nat) → (number : Nat) → List Char
  | 0, _ => []
  | count + 1, number => toHex count (number / 16) ++ [hexDigit (number % 16)]

end Listing.Text
