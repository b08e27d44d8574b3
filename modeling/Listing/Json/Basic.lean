set_option autoImplicit false

namespace Listing

/-!
# JSON values

A document as a tree. The members of an object keep the order in which they arrived.
-/

/-- A number: an integer that fits 64 bits, signed or not, or a floating-point number. -/
inductive Json.Number where
  | integer (value : Int)
  | float (value : Float)
deriving Inhabited

inductive Json where
  | null
  | bool (value : Bool)
  | number (value : Json.Number)
  | string (value : String)
  | array (items : List Json)
  | object (members : List (String × Json))
deriving Inhabited

end Listing
