set_option autoImplicit false

namespace Listing.Decimal

/-!
# Binary values

A finite floating-point number as the exact value that its bits stand for, measured against a
power of ten. The measurement also holds the reals that round to the number, so whether a decimal
reads back as that number is a comparison of natural numbers.
-/

/-- The magnitude `significand * 2 ^ exponent` of a finite number of 64 bits. -/
structure Binary where
  significand : Nat
  exponent : Int
  /-- The next smaller number is half as far away as the next larger one. -/
  narrowBelow : Bool
deriving Repr, DecidableEq

/-- The magnitude that the bits stand for. Infinities and NaN have none and are told apart
beforehand. Below the smallest normal number the leading bit is not implied. -/
def Binary.ofBits (bits : UInt64) : Binary :=
  let fraction := (bits &&& 0xFFFFFFFFFFFFF).toNat
  let leading := 0x10000000000000
  match (bits >>> 52 &&& 0x7FF).toNat with
  | 0 => ⟨fraction, -1074, false⟩
  | 1 => ⟨leading + fraction, -1074, false⟩
  | biased + 2 => ⟨leading + fraction, (biased : Int) - 1073, fraction == 0⟩

/-- A positive number measured in steps of a power of ten. One step is `unit`, the number is
`value`, and the reals that round to it are those between `below` and `above`. -/
structure Measured where
  unit : Nat
  value : Nat
  below : Nat
  above : Nat
  /-- Whether the two ends round to the number as well. -/
  closed : Bool
deriving Repr, DecidableEq

/-- Measures a number in steps of `10 ^ step`. The reals that round to a number reach halfway to
its two neighbours, and halfway itself rounds to the neighbour whose significand is even. All four
measures are multiplied by one factor that makes them whole. -/
def Binary.measure (number : Binary) (step : Int) : Measured :=
  let factor := Nat.pow 2 (number.exponent - 2).toNat * Nat.pow 10 (-step).toNat
  { unit := Nat.pow 2 (2 - number.exponent).toNat * Nat.pow 10 step.toNat
    value := 4 * number.significand * factor
    below := (4 * number.significand - if number.narrowBelow then 1 else 2) * factor
    above := (4 * number.significand + 2) * factor
    closed := number.significand % 2 == 0 }

/-- The whole steps that fit into the number. -/
def Measured.floor (measured : Measured) : Nat :=
  measured.value / measured.unit

/-- Whether a count of steps is a decimal that rounds to the number. -/
def Measured.readsBack (measured : Measured) (count : Nat) : Bool :=
  let place := count * measured.unit
  if measured.closed then measured.below ≤ place && place ≤ measured.above
  else measured.below < place && place < measured.above

end Listing.Decimal
