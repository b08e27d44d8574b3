import Listing.Json.Printer
import Listing.Json.Reader
import Listing.Request
import Listing.Text.Segments

set_option autoImplicit false

namespace Listing

/-!
# Criteria

What a filter parameter asks for once it is read: for each field the values that are wanted, the
fields in order of first mention. Both encodings of the parameter are read through the same list
of fields with their raw values.
-/

/-- For each field the wanted values. A field occurs once. -/
structure Criteria where
  entries : List (String × List String)
  distinct : (Keyed.keys entries).Nodup
deriving DecidableEq, Repr

namespace Criteria

def empty : Criteria := ⟨[], List.nodup_nil⟩

/-- Sets the values of a field, in place if the field is present. -/
def insert (criteria : Criteria) (field : String) (values : List String) : Criteria :=
  ⟨Keyed.insert field values criteria.entries, Keyed.nodup_keys_insert criteria.distinct⟩

/-- The criteria of a list of fields with values: of a repeated field the first place and the last
values. -/
def ofPairs (pairs : List (String × List String)) : Criteria :=
  pairs.foldl (fun criteria pair => criteria.insert pair.1 pair.2) empty

def get? (criteria : Criteria) (field : String) : Option (List String) :=
  Keyed.get? field criteria.entries

def fields (criteria : Criteria) : List String :=
  Keyed.keys criteria.entries

def size (criteria : Criteria) : Nat :=
  criteria.entries.length

def isEmpty (criteria : Criteria) : Bool :=
  criteria.entries.isEmpty

theorem get?_insert (criteria : Criteria) (field other : String) (values : List String) :
    (criteria.insert field values).get? other =
      if other = field then some values else criteria.get? other :=
  Keyed.get?_insert field other values criteria.entries

/-! ## Reading a filter -/

/-- Stands between the values of one field. -/
def delimiter : Char := ','

/-- The values that a raw value lists. Empty and repeated ones are kept. -/
def splitValues (raw : String) : List String :=
  Text.split delimiter raw

/-- A scalar as it would stand in a bracketed parameter. -/
def scalarText? : Json → Option String
  | .string text => some text
  | .number value => some value.text
  | .bool true => some "true"
  | .bool false => some "false"
  | .null | .array _ | .object _ => none

/-- A scalar or a non-empty list of scalars as it would stand in a bracketed parameter. -/
def valueText? : Json → Option String
  | .array [] => none
  | .array items => (items.mapM scalarText?).map (Text.join delimiter)
  | scalar => scalarText? scalar

/-- The member of an object as a field with its raw value. -/
def readMember (member : String × Json) : Except RequestError (String × String) :=
  match valueText? member.2 with
  | some text => .ok (member.1, text)
  | none => .error (Request.malformedFilter (.unsupportedValue member.1))

/-- The fields and raw values of a JSON filter. -/
def readJson (text : String) : Except RequestError (List (String × String)) :=
  match Json.parse text with
  | .error error => .error (Request.malformedFilter (.badJson error))
  | .ok (.object members) => members.mapM readMember
  | .ok _ => .error (Request.malformedFilter .notAnObject)

/-- The fields and raw values of a filter in either encoding. -/
def rawPairs : FilterText → Except RequestError (List (String × String))
  | .absent => .ok []
  | .fields pairs => .ok pairs
  | .json text => readJson text

/-- Takes a field with its raw value into account, unless the field is not accepted. -/
def addRaw (accepts : String → Bool) (criteria : Criteria) (pair : String × String) :
    Except RequestError Criteria :=
  if accepts pair.1 then .ok (criteria.insert pair.1 (splitValues pair.2))
  else .error (.unknownFilterField pair.1)

/-- The criteria of a filter all of whose fields are accepted. A text that cannot be read is
refused before any field is looked at, and of several fields that are not accepted the first is
named. -/
def ofFilter (accepts : String → Bool) (filter : FilterText) : Except RequestError Criteria :=
  if filter.isEmpty then .ok empty
  else do
    let pairs ← rawPairs filter
    pairs.foldlM (addRaw accepts) empty

end Criteria

end Listing
