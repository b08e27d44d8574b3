import Listing.Json.Printer
import Listing.Resource

set_option autoImplicit false

namespace Listing

/-!
# Descriptions

What clients are told about a resource: the fields they may filter and sort by, the custom
filters, and the default ordering.
-/

open Sql (Direction)

/-- A custom filter as clients see it. The values are given when they are a fixed list. -/
structure FilterDescription where
  name : String
  description : String
  allowedValues : Option (List String)
deriving DecidableEq, Repr

/-- A direction as clients see it. -/
inductive SortDirection where
  | asc
  | desc
deriving DecidableEq, Repr

structure Description where
  resource : String
  filterable : List String
  sortable : List String
  customFilters : List FilterDescription
  defaultSort : List (String × SortDirection)
deriving DecidableEq, Repr

def FilterDescription.ofEntry (entry : String × CustomFilter) : FilterDescription where
  name := entry.1
  description := entry.2.description
  allowedValues := entry.2.domain.listed?

/-- Custom filters as clients see them, in ascending order of their names. -/
def FilterDescription.sorted (listing : List (String × CustomFilter)) : List FilterDescription :=
  (listing.map ofEntry).mergeSort fun first second => first.name ≤ second.name

theorem FilterDescription.mem_sorted {described : FilterDescription}
    {listing : List (String × CustomFilter)} :
    described ∈ sorted listing ↔ ∃ entry ∈ listing, ofEntry entry = described := by
  rw [sorted, List.mem_mergeSort, List.mem_map]

/-- What clients are told of a direction. Whatever is not descending counts as ascending. -/
def Sql.Direction.shown : Direction → SortDirection
  | .desc => .desc
  | _ => .asc

def Resource.describe (resource : Resource) : Description where
  resource := resource.name
  filterable := resource.filterable.names
  sortable := resource.sortable.names
  customFilters := FilterDescription.sorted resource.filters.entries
  defaultSort := resource.defaultSort.fields.map fun field => (field.1, field.2.direction.shown)

/-! ## As a document -/

def Json.ofTexts (texts : List String) : Json :=
  .array (texts.map .string)

def SortDirection.label : SortDirection → String
  | .asc => "asc"
  | .desc => "desc"

def Sql.Direction.label (direction : Direction) : String :=
  direction.shown.label

/-- A custom filter as a document. Values that are not given are left out. -/
def FilterDescription.toJson (filter : FilterDescription) : Json :=
  let values :=
    match filter.allowedValues with
    | none => []
    | some values => [("allowed_values", Json.ofTexts values)]
  .object ([("name", .string filter.name), ("description", .string filter.description)] ++ values)

def sortFieldJson (field : String × SortDirection) : Json :=
  .object [("field", .string field.1), ("direction", .string field.2.label)]

def Description.toJson (description : Description) : Json :=
  .object
    [ ("resource", .string description.resource)
    , ("filterable", .ofTexts description.filterable)
    , ("sortable", .ofTexts description.sortable)
    , ("custom_filters", .array (description.customFilters.map FilterDescription.toJson))
    , ("default_sort", .array (description.defaultSort.map sortFieldJson)) ]

end Listing
