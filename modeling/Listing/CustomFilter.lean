import Listing.NameMap
import Listing.Sql.Select

set_option autoImplicit false

namespace Listing

/-!
# Custom filters

Filters that are no comparison with a column: a predicate that narrows a selection by the wanted
values, the domain these values come from, and a description. A filter is declared in one of
several shorthand forms, and normalizing fills in what the form leaves out.
-/

/-- Narrows a selection by the wanted values. Functions cannot be compared, so a predicate is told
from others by its key. -/
structure Predicate where
  key : Nat
  run : Sql.Select → List String → Sql.Select

/-- Computes the allowed values from the wanted ones. Told from others by its key, as a predicate
is. -/
structure ComputedValues where
  key : Nat
  values : List String → List String

/-- The values that a custom filter may be asked for. -/
inductive ValueDomain where
  | any
  /-- A fixed list. An empty one restricts nothing. -/
  | list (values : List String)
  /-- A list computed for every request. -/
  | computed (computation : ComputedValues)

namespace ValueDomain

/-- The allowed values for the wanted ones. No value at all means no restriction. -/
def resolve (domain : ValueDomain) (wanted : List String) : List String :=
  match domain with
  | .any => []
  | .list values => values
  | .computed computation => computation.values wanted

/-- The values known without a request, if the domain is a fixed list that restricts. -/
def listed? : ValueDomain → Option (List String)
  | .list (value :: values) => some (value :: values)
  | _ => none

/-- Whether two domains are the same. A computed domain is the same only as one with its key. -/
def same : ValueDomain → ValueDomain → Bool
  | .any, .any => true
  | .list values, .list others => values == others
  | .computed computation, .computed other => computation.key == other.key
  | _, _ => false

end ValueDomain

/-- A custom filter with all its parts. -/
structure CustomFilter where
  predicate : Predicate
  domain : ValueDomain
  description : String

/-- Whether two filters are the same. Their predicates are compared by key. -/
def CustomFilter.same (filter other : CustomFilter) : Bool :=
  filter.predicate.key == other.predicate.key && filter.domain.same other.domain
    && filter.description == other.description

/-- A custom filter as it is declared. -/
inductive Declaration where
  | bare (predicate : Predicate)
  | withValues (predicate : Predicate) (domain : ValueDomain)
  | record (predicate : Predicate) (domain : Option ValueDomain) (description : Option String)

namespace Declaration

def predicate : Declaration → Predicate
  | .bare predicate | .withValues predicate _ | .record predicate _ _ => predicate

def domain? : Declaration → Option ValueDomain
  | .bare _ => none
  | .withValues _ domain => some domain
  | .record _ domain _ => domain

def description? : Declaration → Option String
  | .record _ _ description => description
  | _ => none

/-- Sets the allowed values and keeps the rest. -/
def allowing (declaration : Declaration) (domain : ValueDomain) : Declaration :=
  .record declaration.predicate (some domain) declaration.description?

/-- Sets the description and keeps the rest. -/
def describedAs (declaration : Declaration) (description : String) : Declaration :=
  .record declaration.predicate declaration.domain? (some description)

/-- A declaration of the same form with the same parts. -/
def copy : Declaration → Declaration
  | .bare predicate => .bare predicate
  | .withValues predicate domain => .withValues predicate domain
  | .record predicate domain description => .record predicate domain description

/-- Fills in what the form leaves out: any value is allowed, and nothing is said. -/
def normalize (declaration : Declaration) : CustomFilter where
  predicate := declaration.predicate
  domain := declaration.domain?.getD .any
  description := declaration.description?.getD ""

/-- A filter declared with all its parts. -/
def ofFilter (filter : CustomFilter) : Declaration :=
  .record filter.predicate (some filter.domain) (some filter.description)

end Declaration

/-- The custom filters of a resource, by name. -/
abbrev CustomFilters := NameMap CustomFilter

namespace CustomFilters

def normalize (declared : NameMap Declaration) : CustomFilters :=
  declared.mapValues Declaration.normalize

/-- The filters as declarations of the same names. -/
def declarations (filters : CustomFilters) : NameMap Declaration :=
  filters.mapValues Declaration.ofFilter

/-- Whether two maps have the same names with the same filters. -/
def same (filters others : CustomFilters) : Bool :=
  filters.names == others.names
    && (filters.entries.zip others.entries).all fun (entry, other) => entry.2.same other.2

end CustomFilters

end Listing
