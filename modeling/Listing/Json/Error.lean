import Listing.Json.Printer

set_option autoImplicit false

namespace Listing.Json

/-!
# Reading errors

Why a text is no JSON document of the wanted shape, and where that shows.
-/

/-- What was found where a value of another kind was wanted. -/
inductive Found where
  | null
  | boolean (value : Bool)
  | number (value : Number)
  | string (value : String)
  | sequence
  | map

/-- The reasons for which a text is refused. -/
inductive Cause where
  | endInValue
  | endInList
  | endInObject
  | endInString
  | expectedValue
  | expectedWord
  | expectedColon
  | expectedCommaOrBracket
  | expectedCommaOrBrace
  | keyNotString
  | trailingComma
  | trailingCharacters
  | controlCharacter
  | invalidEscape
  | loneSurrogate
  | halfSurrogatePair
  | invalidNumber
  | numberOutOfRange
  | tooDeep
  | mismatch (found : Found) (wanted : String)

/-- A cause with its place: lines count from one, and the column is the number of bytes of the
line up to the place. -/
structure Error where
  cause : Cause
  line : Nat
  column : Nat

/-- What was found, in the words of a message. -/
def Found.text : Found → String
  | .null => "null"
  | .boolean value => s!"boolean `{value}`"
  | .number (.integer value) => s!"integer `{value}`"
  | .number (.float value) => s!"floating point `{numberNotation.render value}`"
  | .string value => s!"string \"{value}\""
  | .sequence => "sequence"
  | .map => "map"

def Cause.text : Cause → String
  | .endInValue => "EOF while parsing a value"
  | .endInList => "EOF while parsing a list"
  | .endInObject => "EOF while parsing an object"
  | .endInString => "EOF while parsing a string"
  | .expectedValue => "expected value"
  | .expectedWord => "expected ident"
  | .expectedColon => "expected `:`"
  | .expectedCommaOrBracket => "expected `,` or `]`"
  | .expectedCommaOrBrace => "expected `,` or `\x7d`"
  | .keyNotString => "key must be a string"
  | .trailingComma => "trailing comma"
  | .trailingCharacters => "trailing characters"
  | .controlCharacter => "control character (\\u0000-\\u001F) found while parsing a string"
  | .invalidEscape => "invalid escape"
  | .loneSurrogate => "lone leading surrogate in hex escape"
  | .halfSurrogatePair => "unexpected end of hex escape"
  | .invalidNumber => "invalid number"
  | .numberOutOfRange => "number out of range"
  | .tooDeep => "recursion limit exceeded"
  | .mismatch found wanted => s!"invalid type: {found.text}, expected {wanted}"

def Error.message (error : Error) : String :=
  s!"{error.cause.text} at line {error.line} column {error.column}"

end Listing.Json
