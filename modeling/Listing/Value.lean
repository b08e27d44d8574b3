import Listing.Decimal.Reader
import Listing.Schema
import Listing.Uuid

set_option autoImplicit false

namespace Listing

/-!
# Bound values

The typed values that a statement binds to its placeholders, and how a text of a request becomes
one.
-/

inductive Value where
  | bool (value : Bool)
  | int32 (value : Int32)
  | int64 (value : Int64)
  | uint64 (value : UInt64)
  | text (value : String)
  | uuid (value : Uuid)
  | double (value : Float)

namespace Value

/-- The integer as a signed value, if it fits. -/
def ofSigned? (number : Int) : Option Value :=
  if Int64.minValue.toInt ≤ number ∧ number ≤ Int64.maxValue.toInt then
    some (.int64 (Int64.ofInt number))
  else none

/-- The number as an unsigned value, if it fits. -/
def ofUnsigned? (number : Nat) : Option Value :=
  if number < UInt64.size then some (.uint64 (UInt64.ofNat number)) else none

/-- The truth value that a text names, in letters of either case or as a digit. -/
def bool? (raw : String) : Option Bool :=
  let word := String.ofList (raw.toList.map Char.toLower)
  if word = "true" ∨ word = "1" then some true
  else if word = "false" ∨ word = "0" then some false
  else none

/-- The value of a kind that a text writes, if it writes one. -/
def ofText? (kind : Kind) (raw : String) : Option Value :=
  match kind with
  | .signed => (Decimal.integer? raw).bind ofSigned?
  | .unsigned => (Decimal.unsigned? raw).bind ofUnsigned?
  | .floating => (Decimal.float? raw).map .double
  | .boolean => (bool? raw).map .bool
  | .uuid => (Uuid.parse? raw).map .uuid
  | .text => some (.text raw)

/-- The value that a column is compared with. A text that does not write a value of the column's
kind is bound as it is, which leaves the comparison to the database. -/
def coerce (column : Column) (raw : String) : Value :=
  (ofText? column.kind raw).getD (.text raw)

end Value

end Listing
