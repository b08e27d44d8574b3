import Listing.Json.Basic
import Listing.Decimal.Notation
import Listing.Text.Hex

set_option autoImplicit false

namespace Listing.Json

/-!
# Printing

The compact text of a value: no blanks, members in their order, and only those characters escaped
that may not stand in a string.
-/

/-- Floating-point numbers have the fewest digits that read back and always a fraction digit;
below `10 ^ -5` and from `10 ^ 16` on they have a signed exponent. -/
def numberNotation : Decimal.Notation where
  plainFrom := -5
  plainBelow := 16
  plusSign := true
  tie := .toEven
  infinite := "null"
  notANumber := "null"

def Number.text : Number → String
  | .integer value => toString value
  | .float value => numberNotation.render value

/-- A character as it stands in a string. -/
def escapeChar (char : Char) : List Char :=
  if char = '"' then ['\\', '"']
  else if char = '\\' then ['\\', '\\']
  else if char = '\x08' then ['\\', 'b']
  else if char = '\t' then ['\\', 't']
  else if char = '\n' then ['\\', 'n']
  else if char = '\x0c' then ['\\', 'f']
  else if char = '\r' then ['\\', 'r']
  else if char.toNat < 0x20 then
    ['\\', 'u', '0', '0', Text.hexDigit (char.toNat / 16), Text.hexDigit (char.toNat % 16)]
  else [char]

/-- A string with its quotes. -/
def printString (text : String) : List Char :=
  '"' :: text.toList.flatMap escapeChar ++ ['"']

mutual

def print : Json → List Char
  | .null => "null".toList
  | .bool true => "true".toList
  | .bool false => "false".toList
  | .number value => value.text.toList
  | .string value => printString value
  | .array [] => ['[', ']']
  | .array (item :: items) => '[' :: print item ++ printItems items
  | .object [] => ['\x7b', '\x7d']
  | .object ((key, value) :: members) =>
    '\x7b' :: printString key ++ ':' :: print value ++ printMembers members

/-- The items after the first, each behind a comma, and the closing bracket. -/
def printItems : List Json → List Char
  | [] => [']']
  | item :: items => ',' :: print item ++ printItems items

/-- The members after the first, each behind a comma, and the closing brace. -/
def printMembers : List (String × Json) → List Char
  | [] => ['\x7d']
  | (key, value) :: members =>
    ',' :: printString key ++ ':' :: print value ++ printMembers members

end

/-- The compact text of a value. -/
def compact (value : Json) : String :=
  String.ofList value.print

end Listing.Json
