import Listing.Error
import Listing.Text.Blank

set_option autoImplicit false

namespace Listing

/-!
# Requests

The filter and sort parameters of a request as they arrived, before anything is known about the
resource they ask for. The filter comes in one of two encodings, a JSON object or one bracketed
parameter for each field:

* `filter={"login":"andre,fred","id":"74"}`
* `filter[login]=andre,fred&filter[id]=74`
-/

inductive FilterText where
  | absent
  | json (text : String)
  /-- The bracketed parameters, in order. -/
  | fields (pairs : List (String × String))
deriving DecidableEq, Repr

/-- Whether nothing is asked for: no parameter, a blank text, or no field. -/
def FilterText.isEmpty : FilterText → Bool
  | .absent => true
  | .json text => Text.isBlank text
  | .fields pairs => pairs.isEmpty

/-- The parameters of a request that say which rows and in which order. -/
structure Request where
  filter : FilterText := .absent
  sort : Option String := none
deriving DecidableEq, Repr

namespace Request

def filterParameter : String := "filter"

def sortParameter : String := "sort"

/-- What the key of a parameter says. -/
inductive Key where
  | filter
  /-- A key that goes on with a bracket behind the name of the filter parameter. -/
  | bracketed (suffix : List Char)
  | sort
  | unrelated
deriving DecidableEq, Repr

def Key.ofText (key : String) : Key :=
  if key = filterParameter then .filter
  else if "filter[".toList.isPrefixOf key.toList then
    .bracketed (key.toList.drop filterParameter.length)
  else if key = sortParameter then .sort
  else .unrelated

/-- The field between the brackets, which is not empty and holds no bracket itself. -/
def bracketedField? (suffix : List Char) : Option String :=
  let field := (suffix.drop 1).dropLast
  if suffix.head? = some '[' ∧ (suffix.drop 1).getLast? = some ']' ∧ field ≠ []
      ∧ '[' ∉ field ∧ ']' ∉ field then
    some (String.ofList field)
  else none

/-- A filter that cannot be read. -/
def malformedFilter (reason : Malformation) : RequestError :=
  .malformed filterParameter reason

/-- Takes one parameter into account. A later filter text or sort parameter replaces an earlier
one; the two encodings of the filter do not mix. Parameters of other names do not count. -/
def addPair (request : Request) (pair : String × String) : Except RequestError Request :=
  match Key.ofText pair.1 with
  | .filter =>
    match request.filter with
    | .fields _ => .error (malformedFilter .mixedEncodings)
    | _ => .ok { request with filter := .json pair.2 }
  | .bracketed suffix =>
    match bracketedField? suffix with
    | none => .error (malformedFilter (.badKey pair.1))
    | some field =>
      match request.filter with
      | .absent => .ok { request with filter := .fields [(field, pair.2)] }
      | .fields pairs => .ok { request with filter := .fields (pairs ++ [(field, pair.2)]) }
      | .json _ => .error (malformedFilter .mixedEncodings)
  | .sort => .ok { request with sort := some pair.2 }
  | .unrelated => .ok request

/-- The request that decoded query pairs make, read from the first to the last. -/
def ofPairs (pairs : List (String × String)) : Except RequestError Request :=
  pairs.foldlM addPair {}

/-- Adds a bracketed field. A filter in the other encoding gives way. -/
def withFilterField (request : Request) (field value : String) : Request :=
  match request.filter with
  | .fields pairs => { request with filter := .fields (pairs ++ [(field, value)]) }
  | _ => { request with filter := .fields [(field, value)] }

def withFilterJson (request : Request) (text : String) : Request :=
  { request with filter := .json text }

def withSort (request : Request) (text : String) : Request :=
  { request with sort := some text }

/-- The sort parameter, unless it is blank. -/
def sortText? (request : Request) : Option String :=
  request.sort.filter fun text => !Text.isBlank text

end Request

end Listing
