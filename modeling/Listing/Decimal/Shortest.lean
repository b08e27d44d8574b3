import Listing.Decimal.Binary

set_option autoImplicit false

namespace Listing.Decimal

/-!
# Shortest decimals

The decimal number with the fewest digits that still reads back as a given floating-point number,
and of several such numbers the one nearest to it.
-/

/-- The decimal number `digits * 10 ^ exponent`. -/
structure Numeral where
  digits : Nat
  exponent : Int
deriving Repr, DecidableEq

/-- What to take when two decimals of the same length are equally near. -/
inductive Tie where
  | toEven
  | upward
deriving Repr, DecidableEq

/-- The lower of two neighbouring counts of steps or the upper one, whichever is nearer to the
number. -/
def Measured.nearer (measured : Measured) (tie : Tie) : Nat :=
  let lower := measured.floor
  match compare (2 * (measured.value % measured.unit)) measured.unit, tie with
  | .lt, _ => lower
  | .gt, _ => lower + 1
  | .eq, .upward => lower + 1
  | .eq, .toEven => if lower % 2 = 0 then lower else lower + 1

/-- The nearest count of steps that reads back, if one does. If any count does, so does one of the
two next to the number. -/
def Measured.count? (measured : Measured) (tie : Tie) : Option Nat :=
  let lower := measured.floor
  match measured.readsBack lower, measured.readsBack (lower + 1) with
  | false, false => none
  | true, false => some lower
  | false, true => some (lower + 1)
  | true, true => some (measured.nearer tie)

/-- The least `k` with `number < 10 ^ k`, for a number that is not zero. Every such number is
above `10 ^ -400`, so its whole steps of that size have digits to count. -/
def Binary.order (number : Binary) : Int :=
  ((Nat.toDigits 10 (number.measure (-400)).floor).length : Int) - 400

/-- The number written out in full. -/
def Binary.exact (number : Binary) : Numeral :=
  ⟨number.significand * Nat.pow 2 number.exponent.toNat * Nat.pow 5 (-number.exponent).toNat,
    min number.exponent 0⟩

/-- Moves up to `limit` trailing zeros of the digits into the exponent. -/
def Numeral.strip (numeral : Numeral) : (limit : Nat) → Numeral
  | 0 => numeral
  | limit + 1 =>
    if numeral.digits ≠ 0 ∧ numeral.digits % 10 = 0 then
      strip ⟨numeral.digits / 10, numeral.exponent + 1⟩ limit
    else numeral

/-- The shortest decimal of a number: the first step size, from coarse to fine, of which some
count reads back. Seventeen digits are always enough; past them the exact value stands in. -/
def Binary.shortest (number : Binary) (tie : Tie) : Numeral :=
  if number.significand = 0 then ⟨0, 0⟩
  else
    let order := number.order
    let found := (List.range 17).findSome? fun (fewer : Nat) =>
      let step := order - fewer - 1
      ((number.measure step).count? tie).map fun count => (⟨count, step⟩ : Numeral)
    let numeral := found.getD number.exact
    numeral.strip (Nat.toDigits 10 numeral.digits).length

end Listing.Decimal
