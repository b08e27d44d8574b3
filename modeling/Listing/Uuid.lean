import Listing.Text.Hex

set_option autoImplicit false

namespace Listing

/-!
# UUIDs

Identifiers of 128 bits, their four accepted spellings and the one in which they are written.
-/

structure Uuid where
  value : BitVec 128
deriving DecidableEq, Repr

namespace Uuid

/-- The lengths of the groups between the hyphens. -/
def groups : List Nat := [8, 4, 4, 4, 12]

/-- Takes the hyphens out of hyphenated digits, if they stand where the groups end. -/
def dropHyphens : (groups : List Nat) → List Char → Option (List Char)
  | [], [] => some []
  | [], _ => none
  | [last], chars => if chars.length = last then some chars else none
  | group :: groups, chars =>
    match chars.drop group with
    | '-' :: rest => (dropHyphens groups rest).map (chars.take group ++ ·)
    | _ => none

/-- The digits of an accepted spelling: 32 digits, hyphenated digits, and these in braces or
behind `urn:uuid:` in letters of either case. -/
def digits? (chars : List Char) : Option (List Char) :=
  let urn := "urn:uuid:".toList
  if chars.length = 32 then some chars
  else if chars.length = 38 ∧ chars.head? = some '\x7b' ∧ chars.getLast? = some '\x7d' then
    dropHyphens groups (chars.drop 1).dropLast
  else if chars.length = 45 ∧ (chars.take urn.length).map Char.toLower = urn then
    dropHyphens groups (chars.drop urn.length)
  else dropHyphens groups chars

def parse? (text : String) : Option Uuid := do
  let digits ← digits? text.toList
  let number ← Text.ofHex? digits
  if digits.length = 32 then some ⟨BitVec.ofNat 128 number⟩ else none

/-- Digits in groups of the given lengths, with a hyphen between each and the next. -/
def hyphenate : (groups : List Nat) → List Char → List Char
  | [], _ => []
  | [last], digits => digits.take last
  | group :: groups, digits => digits.take group ++ '-' :: hyphenate groups (digits.drop group)

/-- The hyphenated spelling in lower case. -/
def text (uuid : Uuid) : String :=
  String.ofList (hyphenate groups (Text.toHex 32 uuid.value.toNat))

end Uuid

end Listing
