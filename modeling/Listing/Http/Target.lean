import Listing.Text.Segments

set_option autoImplicit false

namespace Listing.Http

/-!
# Request targets

What a request is made for. A target is mostly a path with an optional query; it may also be
absolute, with a scheme and an authority before these. A fragment belongs to neither of them.
-/

/-- The path and the query of a target, both as they stand in it. -/
structure Target where
  path : List Char
  query : List Char
deriving DecidableEq, Repr

namespace Target

/-- The characters of a scheme: ASCII letters and digits, and three marks. -/
def isSchemeChar (char : Char) : Bool :=
  char.isAlphanum || char = '+' || char = '-' || char = '.'

/-- The characters with which an authority ends. -/
def endsAuthority (char : Char) : Bool :=
  char = '/' || char = '?' || char = '#'

/-- What stands behind the scheme and the authority, if the target is absolute. -/
def behindAuthority? (chars : List Char) : Option (List Char) :=
  match chars.dropWhile isSchemeChar with
  | ':' :: '/' :: '/' :: rest => some (rest.dropWhile fun char => !endsAuthority char)
  | _ => none

/-- The path and the query up to a fragment; the first question mark stands between the two. -/
def ofLocation (chars : List Char) : Target :=
  let (location, _) := Text.splitFirst '#' chars
  let (path, query) := Text.splitFirst '?' location
  ⟨path, query.getD []⟩

/-- Reads a target. Which server an absolute one names does not matter, and its empty path is the
root. -/
def ofText (text : String) : Target :=
  match behindAuthority? text.toList with
  | none => ofLocation text.toList
  | some location =>
    let target := ofLocation location
    if target.path = [] then { target with path := ['/'] } else target

end Target

end Listing.Http
