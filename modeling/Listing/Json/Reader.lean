import Listing.Json.Error
import Listing.Decimal.Reader
import Listing.Text.Hex
import Listing.Text.Utf8
import Listing.Keyed

set_option autoImplicit false

namespace Listing.Json

/-!
# Reading

A recursive descent over the characters of a text. The first fault ends it. A fault is remembered
with the number of bytes that were left unread, from which its line and column are found at the
end.
-/

/-- A fault, and how many bytes of the text lie behind the place where it shows. -/
structure Failure where
  cause : Cause
  bytesLeft : Nat

/-- What a reading step yields: mostly a value and the characters behind it. -/
abbrev Outcome := Except Failure

/-- The fault shows before the characters that are left. -/
def Failure.before (cause : Cause) (rest : List Char) : Failure :=
  ⟨cause, Text.byteLength rest⟩

/-- The fault shows on the next byte, or at the end if there is none. -/
def Failure.onNext (cause : Cause) (rest : List Char) : Failure :=
  ⟨cause, Text.byteLength rest - 1⟩

/-- The fault shows at the end of the text. -/
def Failure.atEnd (cause : Cause) : Failure :=
  ⟨cause, 0⟩

/-- The characters that may stand between the parts of a document. -/
def isBlankChar (char : Char) : Bool :=
  char = ' ' || char = '\t' || char = '\n' || char = '\r'

/-- The text from its next character that is not blank. -/
def skipBlanks (chars : List Char) : List Char :=
  chars.dropWhile isBlankChar

/-- Takes the characters of a word off, one by one. -/
def readWord : (word : List Char) → List Char → Outcome (List Char)
  | [], rest => .ok rest
  | _ :: _, [] => .error (.atEnd .endInValue)
  | wanted :: word, char :: rest =>
    if char = wanted then readWord word rest
    else .error (.onNext .expectedWord (char :: rest))

/-! ## Strings -/

/-- Reads four hexadecimal digits. A text with fewer than four bytes left has ended too early,
whatever those bytes are. -/
def readHex : List Char → Outcome (Nat × List Char)
  | a :: b :: c :: d :: rest =>
    match Text.hexValue? a, Text.hexValue? b, Text.hexValue? c, Text.hexValue? d with
    | some a, some b, some c, some d => .ok (((a * 16 + b) * 16 + c) * 16 + d, rest)
    | _, _, _, _ =>
      .error ⟨.invalidEscape, Text.byteLength (a :: b :: c :: d :: rest) - 4⟩
  | short =>
    if Text.byteLength short < 4 then .error (.atEnd .endInString)
    else .error ⟨.invalidEscape, Text.byteLength short - 4⟩

/-- The first half of a surrogate pair. -/
def isHighSurrogate (unit : Nat) : Bool := 0xD800 ≤ unit && unit ≤ 0xDBFF

/-- The second half of a surrogate pair. -/
def isLowSurrogate (unit : Nat) : Bool := 0xDC00 ≤ unit && unit ≤ 0xDFFF

/-- The character that a surrogate pair stands for. -/
def ofSurrogates (high low : Nat) : Char :=
  Char.ofNat (0x10000 + (high - 0xD800) * 0x400 + (low - 0xDC00))

/-- Reads the second half of a surrogate pair, behind the digits of the first. -/
def readLowSurrogate (high : Nat) : List Char → Outcome (Char × List Char)
  | '\\' :: 'u' :: rest => do
    let (low, rest) ← readHex rest
    if isLowSurrogate low then .ok (ofSurrogates high low, rest)
    else .error (.before .loneSurrogate rest)
  | ['\\'] => .error (.atEnd .endInString)
  | '\\' :: rest => .error (.onNext .halfSurrogatePair rest)
  | [] => .error (.atEnd .endInString)
  | rest => .error (.onNext .halfSurrogatePair rest)

/-- Reads a numbered character, behind its letter. -/
def readNumbered (chars : List Char) : Outcome (Char × List Char) := do
  let (unit, rest) ← readHex chars
  if isLowSurrogate unit then .error (.before .loneSurrogate rest)
  else if isHighSurrogate unit then readLowSurrogate unit rest
  else .ok (Char.ofNat unit, rest)

/-- The character that a letter stands for behind a backslash. -/
def escaped? (letter : Char) : Option Char :=
  if letter = '"' ∨ letter = '\\' ∨ letter = '/' then some letter
  else if letter = 'b' then some '\x08'
  else if letter = 'f' then some '\x0c'
  else if letter = 'n' then some '\n'
  else if letter = 'r' then some '\r'
  else if letter = 't' then some '\t'
  else none

def readEscape : List Char → Outcome (Char × List Char)
  | [] => .error (.atEnd .endInString)
  | letter :: rest =>
    if letter = 'u' then readNumbered rest
    else
      match escaped? letter with
      | some char => .ok (char, rest)
      | none => .error (.onNext .invalidEscape (letter :: rest))

theorem readHex_shorter {chars rest : List Char} {unit : Nat}
    (read : readHex chars = .ok (unit, rest)) : rest.length < chars.length := by
  unfold readHex at read
  split at read
  · split at read
    · cases read
      simp only [List.length_cons]
      omega
    · cases read
  · split at read <;> cases read

theorem readLowSurrogate_shorter {high : Nat} {chars rest : List Char} {char : Char}
    (read : readLowSurrogate high chars = .ok (char, rest)) : rest.length < chars.length := by
  unfold readLowSurrogate at read
  split at read
  · next tail =>
    cases digits : readHex tail with
    | error failure => rw [digits] at read; cases read
    | ok pair =>
      obtain ⟨low, behind⟩ := pair
      have shorter := readHex_shorter digits
      rw [digits] at read
      simp only [bind, Except.bind] at read
      split at read
      · simp only [Except.ok.injEq, Prod.mk.injEq] at read
        obtain ⟨-, rfl⟩ := read
        simp only [List.length_cons]
        omega
      · cases read
  all_goals cases read

theorem readNumbered_shorter {chars rest : List Char} {char : Char}
    (read : readNumbered chars = .ok (char, rest)) : rest.length < chars.length := by
  unfold readNumbered at read
  cases digits : readHex chars with
  | error failure => rw [digits] at read; cases read
  | ok pair =>
    obtain ⟨unit, behind⟩ := pair
    have shorter := readHex_shorter digits
    rw [digits] at read
    simp only [bind, Except.bind] at read
    split at read
    · cases read
    · split at read
      · have := readLowSurrogate_shorter read
        omega
      · simp only [Except.ok.injEq, Prod.mk.injEq] at read
        exact read.2 ▸ shorter

/-- An escape takes at least one character. -/
theorem readEscape_shorter {chars rest : List Char} {char : Char}
    (read : readEscape chars = .ok (char, rest)) : rest.length < chars.length := by
  unfold readEscape at read
  split at read
  · cases read
  · split at read
    · have := readNumbered_shorter read
      simp only [List.length_cons]
      omega
    · split at read
      · cases read
        simp
      · cases read

/-- Reads the characters of a string, behind its opening quote, up to and with the closing one. -/
def readString (chars : List Char) : Outcome (List Char × List Char) :=
  match chars with
  | [] => .error (.atEnd .endInString)
  | char :: rest =>
    if char = '"' then .ok ([], rest)
    else if char = '\\' then
      match _read : readEscape rest with
      | .error failure => .error failure
      | .ok (escaped, behind) => do
        let (text, rest) ← readString behind
        .ok (escaped :: text, rest)
    else if char.toNat < 0x20 then .error (.onNext .controlCharacter (char :: rest))
    else do
      let (text, rest) ← readString rest
      .ok (char :: text, rest)
termination_by chars.length
decreasing_by
  · have := readEscape_shorter (by assumption)
    simp only [List.length_cons]
    omega
  · simp

/-! ## Numbers -/

/-- The parts of a number as they stand in the text. -/
structure Scanned where
  negative : Bool
  whole : List Char
  fraction : Option (List Char)
  /-- The digits of the exponent, and whether a minus stands before them. -/
  exponent : Option (Bool × List Char)

/-- Reads digits of which there must be at least one. -/
def readDigits (chars : List Char) : Outcome (List Char × List Char) :=
  match chars.takeWhile Decimal.isDigit, chars.dropWhile Decimal.isDigit with
  | [], [] => .error (.atEnd .endInValue)
  | [], rest => .error (.onNext .invalidNumber rest)
  | digits, rest => .ok (digits, rest)

/-- Reads the digits before the point. A leading zero stands alone. -/
def readWhole (chars : List Char) : Outcome (List Char × List Char) := do
  let (digits, rest) ← readDigits chars
  match digits with
  | '0' :: next :: more => .error (.onNext .invalidNumber (next :: more ++ rest))
  | digits => .ok (digits, rest)

def readFraction : List Char → Outcome (Option (List Char) × List Char)
  | '.' :: rest => do
    let (digits, rest) ← readDigits rest
    .ok (some digits, rest)
  | rest => .ok (none, rest)

/-- Reads the exponent with its optional sign, if there is one. -/
def readExponent : List Char → Outcome (Option (Bool × List Char) × List Char)
  | [] => .ok (none, [])
  | mark :: rest =>
    if mark = 'e' ∨ mark = 'E' then do
      let (negative, rest) := Decimal.takeSign rest
      let (digits, rest) ← readDigits rest
      .ok (some (negative, digits), rest)
    else .ok (none, mark :: rest)

/-- Reads the parts of a number, behind its sign. -/
def scan (negative : Bool) (chars : List Char) : Outcome (Scanned × List Char) := do
  let (whole, rest) ← readWhole chars
  let (fraction, rest) ← readFraction rest
  let (exponent, rest) ← readExponent rest
  .ok (⟨negative, whole, fraction, exponent⟩, rest)

/-- Appends digits to a number as long as it stays within the bound. The second part is the
digits that were left. -/
def absorb (bound : Nat) : Nat → List Char → Nat × List Char
  | amount, [] => (amount, [])
  | amount, digit :: digits =>
    let longer := amount * 10 + Decimal.digitValue digit
    if longer ≤ bound then absorb bound longer digits else (amount, digit :: digits)

/-- The power of ten as the nearest floating-point number. -/
def powerOfTen (exponent : Nat) : Float :=
  Float.ofScientific 1 false exponent

/-- Multiplies by a power of ten, in steps that stay within the range of such powers. There is no
answer when the product is too large. -/
def scale? (number : Float) (exponent : Int) : Option Float :=
  if exponent < -308 then
    if number == 0 then some number else scale? (number / powerOfTen 308) (exponent + 308)
  else if exponent < 0 then some (number / powerOfTen exponent.natAbs)
  else if 308 < exponent then if number == 0 then some number else none
  else
    let product := number * powerOfTen exponent.natAbs
    if product.isInf then none else some product
termination_by exponent.natAbs
decreasing_by omega

def signed (negative : Bool) (magnitude : Float) : Number :=
  .float (if negative then -magnitude else magnitude)

/-- The largest significand that is kept. Digits beyond it do not count for a floating-point
number; of the digits before the point they count as a factor of ten each. -/
def maxSignificand : Nat := UInt64.size - 1

/-- The largest exponent that is told apart from a larger one. -/
def maxExponent : Nat := 2147483647

/-- The floating-point number that the parts write. -/
def Scanned.toFloat (scanned : Scanned) (rest : List Char) : Outcome Number :=
  let fraction := scanned.fraction.getD []
  let (head, dropped) := absorb maxSignificand 0 scanned.whole
  let (significand, ignored) := absorb maxSignificand head fraction
  let shift : Int := (dropped.length : Int) - (fraction.length - ignored.length : Nat)
  let (negativeExponent, exponentDigits) := scanned.exponent.getD (false, [])
  let (exponent, beyond) := absorb maxExponent 0 exponentDigits
  let total := if negativeExponent then shift - exponent else shift + exponent
  match beyond with
  | [] =>
    match scale? (Float.ofScientific significand false 0) total with
    | some magnitude => .ok (signed scanned.negative magnitude)
    | none => .error (.before .numberOutOfRange rest)
  | beyond =>
    if significand = 0 ∨ negativeExponent then .ok (signed scanned.negative 0)
    else .error (.onNext .numberOutOfRange (beyond ++ rest))

/-- The number that the parts write: an integer when there is neither point nor exponent and it
fits 64 bits. A negative zero is a floating-point number. -/
def Scanned.toNumber (scanned : Scanned) (rest : List Char) : Outcome Number :=
  match scanned.fraction, scanned.exponent, absorb maxSignificand 0 scanned.whole with
  | none, none, (amount, []) =>
    if !scanned.negative then .ok (.integer amount)
    else if amount = 0 ∨ Int64.minValue.toInt.natAbs < amount then
      .ok (signed true (Float.ofScientific amount false 0))
    else .ok (.integer (-amount))
  | _, _, _ => scanned.toFloat rest

def readNumber (negative : Bool) (chars : List Char) : Outcome (Number × List Char) := do
  let (scanned, rest) ← scan negative chars
  let value ← scanned.toNumber rest
  .ok (value, rest)

/-! ## Lists and objects -/

/-- Reads the items of a list, behind its opening bracket or a comma. Every item takes a
character, so as many rounds as there are characters are enough. -/
def readItems {α : Type} (readItem : List Char → Outcome (α × List Char)) :
    (rounds : Nat) → List Char → Outcome (List α × List Char)
  | 0, rest => .error (.before .expectedValue rest)
  | rounds + 1, chars => do
    let (item, rest) ← readItem chars
    match skipBlanks rest with
    | ']' :: rest => .ok ([item], rest)
    | ',' :: rest =>
      match skipBlanks rest with
      | [] => .error (.atEnd .endInValue)
      | ']' :: behind => .error (.onNext .trailingComma (']' :: behind))
      | next => do
        let (items, rest) ← readItems readItem rounds next
        .ok (item :: items, rest)
    | [] => .error (.atEnd .endInList)
    | other => .error (.onNext .expectedCommaOrBracket other)

def readList {α : Type} (readItem : List Char → Outcome (α × List Char)) (chars : List Char) :
    Outcome (List α × List Char) :=
  match skipBlanks chars with
  | [] => .error (.atEnd .endInList)
  | ']' :: rest => .ok ([], rest)
  | first => readItems readItem first.length first

/-- Reads a key, its colon and its value, behind the opening quote of the key. -/
def readMember (readItem : List Char → Outcome (Json × List Char)) (chars : List Char) :
    Outcome ((String × Json) × List Char) := do
  let (key, rest) ← readString chars
  match skipBlanks rest with
  | ':' :: rest => do
    let (value, rest) ← readItem rest
    .ok ((String.ofList key, value), rest)
  | [] => .error (.atEnd .endInObject)
  | other => .error (.onNext .expectedColon other)

/-- Reads the members of an object, behind the opening quote of the first key. -/
def readMembers (readItem : List Char → Outcome (Json × List Char)) :
    (rounds : Nat) → List Char → Outcome (List (String × Json) × List Char)
  | 0, rest => .error (.before .expectedValue rest)
  | rounds + 1, chars => do
    let (member, rest) ← readMember readItem chars
    match skipBlanks rest with
    | '\x7d' :: rest => .ok ([member], rest)
    | ',' :: rest =>
      match skipBlanks rest with
      | [] => .error (.atEnd .endInValue)
      | '"' :: next => do
        let (members, rest) ← readMembers readItem rounds next
        .ok (member :: members, rest)
      | '\x7d' :: behind => .error (.onNext .trailingComma ('\x7d' :: behind))
      | other => .error (.onNext .keyNotString other)
    | [] => .error (.atEnd .endInObject)
    | other => .error (.onNext .expectedCommaOrBrace other)

def readObject (readItem : List Char → Outcome (Json × List Char)) (chars : List Char) :
    Outcome (List (String × Json) × List Char) :=
  match skipBlanks chars with
  | [] => .error (.atEnd .endInObject)
  | '\x7d' :: rest => .ok ([], rest)
  | '"' :: first => readMembers readItem (first.length + 1) first
  | other => .error (.onNext .keyNotString other)

/-- How many lists and objects may be open at once. -/
def maxDepth : Nat := 127

/-- Reads a value in which at most `depth` lists and objects are open at once. Of a repeated key
the first place and the last value count. -/
def readValue (depth : Nat) (chars : List Char) : Outcome (Json × List Char) :=
  match skipBlanks chars with
  | [] => .error (.atEnd .endInValue)
  | 'n' :: rest => do
    let rest ← readWord ['u', 'l', 'l'] rest
    .ok (.null, rest)
  | 't' :: rest => do
    let rest ← readWord ['r', 'u', 'e'] rest
    .ok (.bool true, rest)
  | 'f' :: rest => do
    let rest ← readWord ['a', 'l', 's', 'e'] rest
    .ok (.bool false, rest)
  | '-' :: rest => do
    let (value, rest) ← readNumber true rest
    .ok (.number value, rest)
  | '"' :: rest => do
    let (text, rest) ← readString rest
    .ok (.string (String.ofList text), rest)
  | '[' :: rest =>
    match depth with
    | 0 => .error (.onNext .tooDeep ('[' :: rest))
    | depth + 1 => do
      let (items, rest) ← readList (readValue depth) rest
      .ok (.array items, rest)
  | '\x7b' :: rest =>
    match depth with
    | 0 => .error (.onNext .tooDeep ('\x7b' :: rest))
    | depth + 1 => do
      let (members, rest) ← readObject (readValue depth) rest
      .ok (.object (Keyed.ofPairs members), rest)
  | char :: rest =>
    if Decimal.isDigit char then do
      let (value, rest) ← readNumber false (char :: rest)
      .ok (.number value, rest)
    else .error (.onNext .expectedValue (char :: rest))

/-! ## Lists of texts -/

/-- What a value is, for a message that says it is not the one wanted. Of a list or an object
only the bracket is looked at. -/
def readFound (chars : List Char) : Outcome (Found × List Char) :=
  match chars with
  | '[' :: rest => .ok (.sequence, '[' :: rest)
  | '\x7b' :: rest => .ok (.map, '\x7b' :: rest)
  | other => do
    let (value, rest) ← readValue 0 other
    match value with
    | .null => .ok (.null, rest)
    | .bool value => .ok (.boolean value, rest)
    | .number value => .ok (.number value, rest)
    | .string value => .ok (.string value, rest)
    | .array _ => .ok (.sequence, rest)
    | .object _ => .ok (.map, rest)

/-- Refuses what is there as not being what was wanted. -/
def refuse {α : Type} (wanted : String) (chars : List Char) : Outcome (α × List Char) := do
  let (found, rest) ← readFound chars
  .error (.before (.mismatch found wanted) rest)

def readText (chars : List Char) : Outcome (String × List Char) :=
  match skipBlanks chars with
  | [] => .error (.atEnd .endInValue)
  | '"' :: rest => do
    let (text, rest) ← readString rest
    .ok (String.ofList text, rest)
  | other => refuse "a string" other

def readTextList (chars : List Char) : Outcome (List String × List Char) :=
  match skipBlanks chars with
  | [] => .error (.atEnd .endInValue)
  | '[' :: rest => readList readText rest
  | other => refuse "a sequence" other

/-! ## Whole documents -/

/-- The line and column reached after reading bytes of a text from a given place. A place may lie
within a character. -/
def locateFrom (line column : Nat) : (bytes : Nat) → List Char → Nat × Nat
  | _, [] => (line, column)
  | bytes, char :: rest =>
    if bytes < char.utf8Size then (line, column + bytes)
    else if char = '\n' then locateFrom (line + 1) 0 (bytes - char.utf8Size) rest
    else locateFrom line (column + char.utf8Size) (bytes - char.utf8Size) rest

/-- The failure as an error in the text that was read. -/
def Failure.locate (failure : Failure) (chars : List Char) : Error :=
  let (line, column) := locateFrom 1 0 (Text.byteLength chars - failure.bytesLeft) chars
  ⟨failure.cause, line, column⟩

/-- Reads a whole text: one document, with blanks around it and nothing else. -/
def readAll {α : Type} (read : List Char → Outcome (α × List Char)) (text : String) : Except Error α :=
  match read text.toList with
  | .error failure => .error (failure.locate text.toList)
  | .ok (value, rest) =>
    match skipBlanks rest with
    | [] => .ok value
    | other => .error ((Failure.onNext .trailingCharacters other).locate text.toList)

/-- The value that a text writes. -/
def parse (text : String) : Except Error Json :=
  readAll (readValue maxDepth) text

/-- The list of strings that a text writes. -/
def parseTexts (text : String) : Except Error (List String) :=
  readAll readTextList text

end Listing.Json
