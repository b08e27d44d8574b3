import Listing.FieldSet
import Listing.Json.Reader
import Listing.Keyed
import Listing.Request
import Listing.Sql.Select
import Listing.Text.Segments

set_option autoImplicit false

namespace Listing

/-!
# Sorting

In which order a resource is listed: by the fields that a request names, or by default. A
specification binds each field once, so naming a field again changes its direction only.
-/

open Sql (Direction OrderTerm)

/-- The fields to order by with their columns and directions; later ones break ties. A field occurs
once. -/
structure SortSpec where
  fields : List (String × OrderTerm)
  distinct : (Keyed.keys fields).Nodup
deriving DecidableEq, Repr

namespace SortSpec

def empty : SortSpec := ⟨[], List.nodup_nil⟩

/-- The term of a field once it is named: a present one keeps its column and takes the direction. -/
def renew (column : Column) (direction : Direction) : Option OrderTerm → OrderTerm
  | none => ⟨column, direction⟩
  | some present => { present with direction := direction }

/-- Adds a field. One that is present keeps its place and its column and takes the new
direction. -/
def push (spec : SortSpec) (field : String) (column : Column) (direction : Direction) :
    SortSpec :=
  ⟨Keyed.upsert field (renew column direction) spec.fields,
    Keyed.nodup_keys_upsert spec.distinct⟩

def directions (spec : SortSpec) : List (String × Direction) :=
  spec.fields.map fun field => (field.1, field.2.direction)

def isEmpty (spec : SortSpec) : Bool :=
  spec.fields.isEmpty

/-- Orders a selection by the fields in turn. -/
def apply (spec : SortSpec) (select : Sql.Select) : Sql.Select :=
  spec.fields.foldl (fun ordered field => ordered.orderBy field.2.column field.2.direction) select

/-- Ordering adds the terms of the fields, in turn, behind those that are there. -/
theorem apply_eq (spec : SortSpec) (select : Sql.Select) :
    spec.apply select = { select with order := select.order ++ spec.fields.map Prod.snd } := by
  rw [apply]
  induction spec.fields generalizing select with
  | nil => simp
  | cons field rest ih => rw [List.foldl_cons, ih]; simp [Sql.Select.orderBy]

end SortSpec

/-! ## The default ordering -/

/-- The ordering of a resource when a request asks for none. -/
inductive DefaultSort where
  /-- By the field `id`, last first, if it can be sorted by. -/
  | implicit
  | unsorted
  /-- By these fields, in order. -/
  | explicit (fields : List (String × Direction))
deriving DecidableEq, Repr

def DefaultSort.addField (resource : String) (sortable : FieldSet) (spec : SortSpec)
    (field : String × Direction) : Except ConfigError SortSpec :=
  match sortable.column? field.1 with
  | some column => .ok (spec.push field.1 column field.2)
  | none => .error (.unknownDefaultSortField resource field.1)

/-- The specification of the default ordering of a resource. -/
def DefaultSort.resolve (sort : DefaultSort) (resource : String) (sortable : FieldSet) :
    Except ConfigError SortSpec :=
  match sort with
  | .unsorted => .ok .empty
  | .implicit =>
    match sortable.column? "id" with
    | some column => .ok (SortSpec.empty.push "id" column .desc)
    | none => .ok .empty
  | .explicit fields => fields.foldlM (DefaultSort.addField resource sortable) .empty

/-! ## Reading a sort parameter -/

namespace SortSpec

/-- The capital of a letter, as far as the words for directions are concerned: ASCII letters, and
the long s, whose capital is an ASCII letter too. -/
def capital (char : Char) : Char :=
  if char = 'ſ' then 'S' else char.toUpper

/-- The direction that a word names, in letters of either case. -/
def direction? (word : String) : Option Direction :=
  let capitals := String.ofList (word.toList.map capital)
  if capitals = "ASC" then some .asc
  else if capitals = "DESC" then some .desc
  else none

/-- A field with at most one sign before it: a minus for descending, a plus for ascending. -/
def readToken (token : List Char) : String × Direction :=
  match token with
  | '-' :: field => (String.ofList field, .desc)
  | '+' :: field => (String.ofList field, .asc)
  | field => (String.ofList field, .asc)

/-- The fields between the commas of a text, without the blanks around them. Empty segments do not
count. -/
def readTokens (text : List Char) : List (String × Direction) :=
  (((Text.splitChars ',' text).map Text.trimChars).filter fun token => !token.isEmpty).map readToken

/-- A sort parameter that cannot be read. -/
def malformed (reason : Malformation) : RequestError :=
  .malformed Request.sortParameter reason

/-- The field of a list of one string, or of two of which the second is a direction. -/
def readList (text : String) : Except RequestError (List (String × Direction)) :=
  match Json.parseTexts text with
  | .error error => .error (malformed (.badJson error))
  | .ok [field] => .ok [(field, .asc)]
  | .ok [field, word] =>
    match direction? word with
    | some direction => .ok [(field, direction)]
    | none => .error (malformed (.unknownDirection word))
  | .ok _ => .error (malformed .badSortList)

/-- The fields and directions that a sort parameter names, in either of its forms. -/
def readFields (raw : String) : Except RequestError (List (String × Direction)) :=
  match Text.trimChars raw.toList with
  | '[' :: rest => readList (String.ofList ('[' :: rest))
  | text => .ok (readTokens text)

def addField (sortable : FieldSet) (spec : SortSpec) (field : String × Direction) :
    Except RequestError SortSpec :=
  match sortable.column? field.1 with
  | some column => .ok (spec.push field.1 column field.2)
  | none => .error (.unknownSortField field.1)

/-- The specification that a sort parameter asks for. Of several fields that cannot be sorted by
the first is named. -/
def ofText (sortable : FieldSet) (raw : String) : Except RequestError SortSpec := do
  let fields ← readFields raw
  fields.foldlM (addField sortable) empty

end SortSpec

end Listing
