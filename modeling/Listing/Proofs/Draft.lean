import Listing.Proofs.Sort
import Listing.Resource

set_option autoImplicit false

/-!
# Building resources

What a draft has to pass to become a resource, and what the resource takes over from it.
-/

namespace Listing.Resource.Draft

/-- The fields that a filter may name: those that are set, or every column. -/
def filterableSet (draft : Draft) : FieldSet :=
  draft.filterableFields.getD (.all draft.entity)

/-- The fields that can be sorted by: those that are set, or every column. -/
def sortableSet (draft : Draft) : FieldSet :=
  draft.sortableFields.getD (.all draft.entity)

/-- The field sets that are set come from the constructors for the entity of the draft. -/
structure Configured (draft : Draft) : Prop where
  filterable : ∀ set, draft.filterableFields = some set → FieldSet.Configured draft.entity set
  sortable : ∀ set, draft.sortableFields = some set → FieldSet.Configured draft.entity set

variable {draft : Draft} {resource : Resource}

theorem configured_getD {entity : Entity} {fields : Option FieldSet}
    (configured : ∀ set, fields = some set → FieldSet.Configured entity set) :
    FieldSet.Configured entity (fields.getD (.all entity)) := by
  cases fields with
  | none => exact .all
  | some set => exact configured set rfl

theorem Configured.filterableSet (configured : draft.Configured) :
    FieldSet.Configured draft.entity draft.filterableSet :=
  configured_getD configured.filterable

theorem Configured.sortableSet (configured : draft.Configured) :
    FieldSet.Configured draft.entity draft.sortableSet :=
  configured_getD configured.sortable

theorem build_eq_ok :
    draft.build = .ok resource ↔
      ∃ spec declared, draft.ordering.resolve draft.entity.table draft.sortableSet = .ok spec ∧
        draft.declarations.foldlM (declare draft.entity.table) .empty = .ok declared ∧
        resource = ⟨draft.entity, draft.filterableSet, draft.sortableSet, spec,
          CustomFilters.normalize declared⟩ := by
  rw [build, Traversal.bind_eq_ok]
  refine exists_congr fun spec => ?_
  constructor
  · intro checked
    obtain ⟨resolved, rest⟩ := checked
    obtain ⟨declared, added, same⟩ := Traversal.bind_eq_ok.1 rest
    cases same
    exact ⟨declared, resolved, added, rfl⟩
  · intro checked
    obtain ⟨declared, resolved, added, rfl⟩ := checked
    exact ⟨resolved, Traversal.bind_eq_ok.2 ⟨declared, added, rfl⟩⟩

/-- The fields of the default ordering have the columns by which a request would sort. -/
theorem boundBy_defaultSort (built : draft.build = .ok resource) :
    resource.defaultSort.BoundBy resource.sortable := by
  obtain ⟨spec, declared, resolved, -, rfl⟩ := build_eq_ok.1 built
  exact DefaultSort.boundBy_of_resolve resolved

end Listing.Resource.Draft
