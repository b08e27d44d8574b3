set_option autoImplicit false

namespace Listing.Text

/-!
# UTF-8

How many bytes a text takes, and the text that a run of bytes stands for when some of them may
be no UTF-8 at all.
-/

/-- The number of bytes that the characters take in UTF-8. -/
def byteLength (chars : List Char) : Nat :=
  chars.foldl (fun bytes char => bytes + char.utf8Size) 0

/-- What stands in a decoded text for bytes that are no UTF-8. -/
def replacement : Char := '\uFFFD'

/-- A byte that may follow the first one of a longer sequence. -/
def isContinuation (byte : UInt8) : Bool :=
  0x80 ≤ byte && byte ≤ 0xBF

/-- The bytes that may stand second after a given first byte. The narrower ranges leave out
overlong forms, surrogates and everything beyond the last code point. -/
def isSecond (first second : UInt8) : Bool :=
  if first == 0xE0 then 0xA0 ≤ second && second ≤ 0xBF
  else if first == 0xED then 0x80 ≤ second && second ≤ 0x9F
  else if first == 0xF0 then 0x90 ≤ second && second ≤ 0xBF
  else if first == 0xF4 then 0x80 ≤ second && second ≤ 0x8F
  else isContinuation second

/-- How many bytes a sequence has that begins with this byte; zero if none does. -/
def sequenceLength (first : UInt8) : Nat :=
  if first ≤ 0x7F then 1
  else if 0xC2 ≤ first && first ≤ 0xDF then 2
  else if 0xE0 ≤ first && first ≤ 0xEF then 3
  else if 0xF0 ≤ first && first ≤ 0xF4 then 4
  else 0

/-- The six low bits that a continuation byte carries. -/
def payload (byte : UInt8) : Nat := byte.toNat % 64

/-- Decodes bytes, with one replacement character for every longest run of bytes that begins a
sequence and does not end it, and for every byte that cannot begin one. -/
def decodeLossy : List UInt8 → List Char
  | [] => []
  | first :: rest =>
    match sequenceLength first with
    | 1 => Char.ofNat first.toNat :: decodeLossy rest
    | 2 =>
      match rest with
      | second :: tail =>
        if isSecond first second then
          Char.ofNat (first.toNat % 32 * 64 + payload second) :: decodeLossy tail
        else replacement :: decodeLossy (second :: tail)
      | [] => [replacement]
    | 3 =>
      match rest with
      | second :: third :: tail =>
        if !isSecond first second then replacement :: decodeLossy (second :: third :: tail)
        else if isContinuation third then
          Char.ofNat ((first.toNat % 16 * 64 + payload second) * 64 + payload third)
            :: decodeLossy tail
        else replacement :: decodeLossy (third :: tail)
      | [second] =>
        if isSecond first second then [replacement] else replacement :: decodeLossy [second]
      | [] => [replacement]
    | 4 =>
      match rest with
      | second :: third :: fourth :: tail =>
        if !isSecond first second then
          replacement :: decodeLossy (second :: third :: fourth :: tail)
        else if !isContinuation third then replacement :: decodeLossy (third :: fourth :: tail)
        else if isContinuation fourth then
          Char.ofNat
            (((first.toNat % 8 * 64 + payload second) * 64 + payload third) * 64
              + payload fourth) :: decodeLossy tail
        else replacement :: decodeLossy (fourth :: tail)
      | [second, third] =>
        if !isSecond first second then replacement :: decodeLossy [second, third]
        else if isContinuation third then [replacement]
        else replacement :: decodeLossy [third]
      | [second] =>
        if isSecond first second then [replacement] else replacement :: decodeLossy [second]
      | [] => [replacement]
    | _ => replacement :: decodeLossy rest

end Listing.Text
