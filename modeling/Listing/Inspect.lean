import Listing.Constraint
import Listing.Decimal.Notation

set_option autoImplicit false

namespace Listing

/-!
# Diagnostics

Constraints and custom filters as they are shown to developers. The texts of a request are taken
to be ASCII.
-/

namespace Inspect

/-- A character as it is shown between quotes. -/
def char (char : Char) : List Char :=
  if char = '"' then ['\\', '"']
  else if char = '\\' then ['\\', '\\']
  else if char = '\n' then ['\\', 'n']
  else if char = '\t' then ['\\', 't']
  else if char = '\r' then ['\\', 'r']
  else if char = '\x00' then ['\\', '0']
  else if char.toNat < 0x20 ∨ char.toNat = 0x7F then
    ['\\', 'u', '\x7b'] ++ Nat.toDigits 16 char.toNat ++ ['\x7d']
  else [char]

def text (text : String) : String :=
  String.ofList ('"' :: text.toList.flatMap char ++ ['"'])

def list (items : List String) : String :=
  "[" ++ ", ".intercalate items ++ "]"

/-- A name with its parts, in braces. -/
def record (name : String) (parts : List String) : String :=
  name ++ " \x7b " ++ ", ".intercalate parts ++ " \x7d"

/-- Floating-point numbers are written positionally from `10 ^ -4` on and below `10 ^ 16`. -/
def floatNotation : Decimal.Notation where
  plainFrom := -4
  plainBelow := 16
  plusSign := false
  tie := .upward
  infinite := "inf"
  notANumber := "NaN"

/-- A bound value with its type. -/
def value : Value → String
  | .bool value => s!"Bool(Some({value}))"
  | .int32 value => s!"Int(Some({value.toInt}))"
  | .int64 value => s!"BigInt(Some({value.toInt}))"
  | .uint64 value => s!"BigUnsigned(Some({value.toNat}))"
  | .text value => s!"String(Some({text value}))"
  | .uuid value => s!"Uuid(Some({value.text}))"
  | .double value => s!"Double(Some({floatNotation.render value}))"

/-- Writes the first letter of a word as a capital. -/
def capitalize : List Char → List Char
  | [] => []
  | first :: rest => first.toUpper :: rest

/-- A column, by the words of its name, each with a capital and nothing between them. -/
def column (column : Column) : String :=
  String.ofList ((Text.splitChars '_' column.name.toList).flatMap capitalize)

/-- A constraint. The predicate of a custom one cannot be shown. -/
def constraint : Constraint → String
  | .equality field bound single =>
    record "Equality" [s!"field: {text field}", s!"column: {column bound}", s!"value: {value single}"]
  | .inclusion field bound values =>
    record "Inclusion"
      [s!"field: {text field}", s!"column: {column bound}", s!"values: {list (values.map value)}"]
  | .custom field _ values =>
    record "Custom" [s!"field: {text field}", s!"values: {list (values.map text)}", ".."]

def domain : ValueDomain → String
  | .any => "Any"
  | .list values => s!"List({list (values.map text)})"
  | .computed _ => "Dynamic(..)"

def filter (filter : CustomFilter) : String :=
  record "CustomFilter"
    ["predicate: " ++ text "<fn>", s!"allowed_values: {domain filter.domain}",
      s!"description: {text filter.description}"]

end Inspect

end Listing
