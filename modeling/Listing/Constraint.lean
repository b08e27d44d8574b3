import Listing.Criteria
import Listing.CustomFilter
import Listing.FieldSet

set_option autoImplicit false

namespace Listing

/-!
# Constraints

The criteria of a request resolved against the fields and custom filters of a resource. Everything
is checked before anything is applied, and constraints narrow a selection one after the other, so
that all of them hold in the end.
-/

/-- One field of the criteria, ready to be applied. -/
inductive Constraint where
  | equality (field : String) (column : Column) (value : Value)
  | inclusion (field : String) (column : Column) (values : List Value)
  /-- Whatever the predicate makes of the values. -/
  | custom (field : String) (predicate : Predicate) (values : List String)

namespace Constraint

def field : Constraint → String
  | .equality field _ _ | .inclusion field _ _ | .custom field _ _ => field

def apply (constraint : Constraint) (select : Sql.Select) : Sql.Select :=
  match constraint with
  | .equality _ column value => select.whereEqual column value
  | .inclusion _ column values => select.whereOneOf column values
  | .custom _ predicate values => predicate.run select values

/-- The first wanted value outside of the domain, unless the domain restricts nothing. -/
def outsider? (domain : ValueDomain) (wanted : List String) : Option String :=
  match domain.resolve wanted with
  | [] => none
  | allowed => wanted.find? fun value => !allowed.contains value

/-- The constraint of one field with its wanted values. A custom filter takes precedence over a
column of the same name. -/
def ofEntry (fields : FieldSet) (filters : CustomFilters) (entry : String × List String) :
    Except RequestError Constraint :=
  let (field, values) := entry
  match filters.get? field with
  | some filter =>
    match outsider? filter.domain values with
    | some value => .error (.valueNotAllowed field value)
    | none => .ok (.custom field filter.predicate values)
  | none =>
    match fields.column? field with
    | none => .error (.unknownFilterField field)
    | some column =>
      match values with
      | [value] => .ok (.equality field column (.coerce column value))
      | values => .ok (.inclusion field column (values.map (Value.coerce column)))

def applyAll (constraints : List Constraint) (select : Sql.Select) : Sql.Select :=
  constraints.foldl (fun narrowed constraint => constraint.apply narrowed) select

end Constraint

namespace Criteria

/-- The constraints of the criteria, in order. The first field that does not resolve is to
blame. -/
def resolve (criteria : Criteria) (fields : FieldSet) (filters : CustomFilters) :
    Except RequestError (List Constraint) :=
  criteria.entries.mapM (Constraint.ofEntry fields filters)

/-- Narrows a selection by the criteria, if all of them resolve. -/
def apply (criteria : Criteria) (fields : FieldSet) (filters : CustomFilters)
    (select : Sql.Select) : Except RequestError Sql.Select := do
  let constraints ← criteria.resolve fields filters
  .ok (Constraint.applyAll constraints select)

end Criteria

end Listing
