import Listing.Proofs.Draft
import Listing.Proofs.Resource

set_option autoImplicit false

/-!
# Columns that requests reach

A request filters and sorts by columns of the configured sets and by no other, whatever it asks for
and whatever the default ordering is. Custom filters are left to themselves: what their predicates
do with a selection is theirs to answer for.
-/

namespace Listing

open Sql (Comparison Select)

/-- The column that is compared, unless the comparison is written out. -/
def Sql.Comparison.column? : Comparison → Option Column
  | .equal column _ | .atLeast column _ | .like column _ | .oneOf column _
  | .related column _ _ => some column
  | .written _ _ => none

namespace Constraint

variable {entity : Entity} {fields : FieldSet} {filters : CustomFilters}

end Constraint

theorem SortSpec.BoundBy.reaches {entity : Entity} {sortable : FieldSet} {spec : SortSpec}
    (bound : spec.BoundBy sortable) (faithful : sortable.Faithful entity) :
    ∀ term ∈ spec.fields.map Prod.snd, sortable.Reaches entity term.column.name term.column := by
  intro term member
  obtain ⟨field, listed, rfl⟩ := List.mem_map.1 member
  have reached := faithful.reaches (bound field listed)
  rw [← reached.named] at reached
  exact reached

namespace Resource

theorem boundBy_sortSpec {resource : Resource}
    (bound : resource.defaultSort.BoundBy resource.sortable) {request : Request} {spec : SortSpec}
    (read : resource.sortSpec request = .ok spec) :
    spec.BoundBy resource.sortable := by
  unfold sortSpec at read
  split at read
  · cases read
    exact bound
  · exact SortSpec.boundBy_of_ofText read

end Resource

/-! ## Members without their logins -/

namespace Members

end Members

end Listing
