import Listing.Constraint
import Listing.Sort

set_option autoImplicit false

namespace Listing

/-!
# Resources

What clients may ask of one entity, and the answer to a request: the selection that is left after
filtering and sorting. A resource is built once from a draft, which checks it.
-/

/-- The filter and sort configuration of one entity. -/
structure Resource where
  entity : Entity
  filterable : FieldSet
  sortable : FieldSet
  defaultSort : SortSpec
  filters : CustomFilters

namespace Resource

def name (resource : Resource) : String :=
  resource.entity.table

/-- Whether a filter may name this field: a filterable column or a custom filter. -/
def accepts (resource : Resource) (field : String) : Bool :=
  resource.filterable.contains field || resource.filters.contains field

def filter (resource : Resource) (request : Request) (select : Sql.Select) :
    Except RequestError Sql.Select := do
  let criteria ← Criteria.ofFilter resource.accepts request.filter
  criteria.apply resource.filterable resource.filters select

/-- Orders a selection by the sort parameter of a request, or by default if it is absent or
blank. -/
def sort (resource : Resource) (request : Request) (select : Sql.Select) :
    Except RequestError Sql.Select :=
  match request.sortText? with
  | none => .ok (resource.defaultSort.apply select)
  | some text => do
    let spec ← SortSpec.ofText resource.sortable text
    .ok (spec.apply select)

/-- Filters, then sorts. A request fails as a whole. -/
def index (resource : Resource) (request : Request) (select : Sql.Select) :
    Except RequestError Sql.Select := do
  let filtered ← resource.filter request select
  resource.sort request filtered

/-! ## Drafts -/

/-- A resource on its way. What is not set has a default. -/
structure Draft where
  entity : Entity
  filterableFields : Option FieldSet := none
  sortableFields : Option FieldSet := none
  ordering : DefaultSort := .implicit
  declarations : List (String × Declaration) := []

namespace Draft

/-- Sets the fields that a filter may name. Every column is the default. -/
def filterable (draft : Draft) (fields : FieldSet) : Draft :=
  { draft with filterableFields := some fields }

/-- Sets the fields that can be sorted by. Every column is the default. -/
def sortable (draft : Draft) (fields : FieldSet) : Draft :=
  { draft with sortableFields := some fields }

/-- Sets the ordering for requests that ask for none. -/
def defaultSort (draft : Draft) (ordering : DefaultSort) : Draft :=
  { draft with ordering := ordering }

def customFilter (draft : Draft) (name : String) (declaration : Declaration) : Draft :=
  { draft with declarations := draft.declarations ++ [(name, declaration)] }

/-- Adds a declared filter to those before it, unless its name is blank or taken. -/
def declare (resource : String) (declared : NameMap Declaration)
    (declaration : String × Declaration) : Except ConfigError (NameMap Declaration) :=
  if Text.isBlank declaration.1 then .error (.blankFilterName resource)
  else if declared.contains declaration.1 then
    .error (.duplicateFilter resource declaration.1)
  else .ok (declared.insert declaration.1 declaration.2)

/-- Checks a draft and makes the resource. The default ordering is looked at before the custom
filters. -/
def build (draft : Draft) : Except ConfigError Resource := do
  let filterable := draft.filterableFields.getD (.all draft.entity)
  let sortable := draft.sortableFields.getD (.all draft.entity)
  let defaultSort ← draft.ordering.resolve draft.entity.table sortable
  let declared ← draft.declarations.foldlM (declare draft.entity.table) .empty
  .ok ⟨draft.entity, filterable, sortable, defaultSort, CustomFilters.normalize declared⟩

end Draft

end Resource

end Listing
