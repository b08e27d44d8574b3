import Listing.Text.Hex
import Listing.Text.Segments
import Listing.Text.Utf8

set_option autoImplicit false

namespace Listing.FormEncoding

/-!
# Form encoding

The pairs of keys and values that a query string stands for.
-/

/-- The bytes that a key or value stands for: a plus is a space, a percent sign with two
hexadecimal digits is one byte, and every other character stands for itself. -/
def decodeBytes : List Char → List UInt8
  | [] => []
  | '+' :: rest => 0x20 :: decodeBytes rest
  | '%' :: high :: low :: rest =>
    match Text.hexValue? high, Text.hexValue? low with
    | some high, some low => UInt8.ofNat (high * 16 + low) :: decodeBytes rest
    | _, _ => 0x25 :: decodeBytes (high :: low :: rest)
  | char :: rest => String.utf8EncodeChar char ++ decodeBytes rest

/-- The text of an encoded key or value. Bytes that are no UTF-8 become replacement characters. -/
def decode (chars : List Char) : String :=
  String.ofList (Text.decodeLossy (decodeBytes chars))

/-- The pair that one piece stands for: the first equals sign separates, and without one the value
is empty. -/
def pair (piece : List Char) : String × String :=
  let (key, value) := Text.splitFirst '=' piece
  (decode key, decode (value.getD []))

/-- The pairs of a query string, in order. Empty pieces between ampersands do not count. -/
def pairs (query : List Char) : List (String × String) :=
  ((Text.splitChars '&' query).filter (fun piece => !piece.isEmpty)).map pair

end Listing.FormEncoding
