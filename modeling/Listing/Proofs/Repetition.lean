import Listing.Description
import Listing.Proofs.Complement
import Listing.Proofs.Draft
import Mathlib.Data.Set.Card

set_option autoImplicit false

/-!
# Names that are listed once

Every column, no column and every column but some are sets that list each name once. The set of
some given names lists them as they are given, so a name that is given twice is listed, counted and
described twice, although it is looked up as one.
-/

namespace Listing

namespace FieldSet

/-- Each name that the set contains is listed once, so it has as many entries as names. -/
structure ListsOnce (set : FieldSet) : Prop where
  nodup : set.names.Nodup
  count : ∀ name, set.contains name = true → set.names.count name = 1
  size : set.size = {name | set.contains name = true}.ncard

variable {entity : Entity} {set : FieldSet} {given hidden : List String}

theorem length_names (set : FieldSet) : set.names.length = set.size := by
  rw [names, List.length_map, size]

theorem ncard_contained (set : FieldSet) :
    {name | set.contains name = true}.ncard = set.names.toFinset.card := by
  have contained : {name | set.contains name = true} = ↑set.names.toFinset := by
    ext name
    rw [Set.mem_ofPred_eq, contains_iff_mem_names, Finset.mem_coe, List.mem_toFinset]
  rw [contained, Set.ncard_coe_finset]

theorem size_eq_ncard_iff :
    set.size = {name | set.contains name = true}.ncard ↔ set.names.Nodup := by
  rw [ncard_contained, ← length_names]
  constructor
  · intro same
    rw [List.card_toFinset] at same
    exact List.dedup_eq_self.1 ((List.dedup_sublist set.names).eq_of_length same.symm)
  · intro distinct
    exact (List.toFinset_card_of_nodup distinct).symm

theorem forall_count_eq_one_iff :
    (∀ name, set.contains name = true → set.names.count name = 1) ↔ set.names.Nodup := by
  simp only [contains_iff_mem_names, List.nodup_iff_count_eq_one]

theorem listsOnce_iff : set.ListsOnce ↔ set.names.Nodup :=
  ⟨ListsOnce.nodup, fun distinct =>
    ⟨distinct, forall_count_eq_one_iff.2 distinct, size_eq_ncard_iff.2 distinct⟩⟩

theorem listsOnce_all (distinct : entity.columnNames.Nodup) : (all entity).ListsOnce := by
  rw [listsOnce_iff, names_all]
  exact distinct

theorem listsOnce_none : none.ListsOnce :=
  listsOnce_iff.2 List.nodup_nil

theorem listsOnce_of_except (distinct : entity.columnNames.Nodup)
    (made : except entity hidden = .ok set) : set.ListsOnce := by
  rw [listsOnce_iff, names_of_except made]
  exact distinct.filter _

theorem listsOnce_iff_of_only (made : only entity given = .ok set) :
    set.ListsOnce ↔ given.Nodup := by
  rw [listsOnce_iff, names_of_only made]

end FieldSet

/-- A description lists the names of the sets with which the resource was built. -/
theorem Resource.Draft.names_describe {draft : Draft} {resource : Resource}
    (built : draft.build = .ok resource) :
    resource.describe.filterable = draft.filterableSet.names ∧
      resource.describe.sortable = draft.sortableSet.names := by
  obtain ⟨_, _, -, -, rfl⟩ := build_eq_ok.1 built
  exact ⟨rfl, rfl⟩

/-- As long as no two columns have the same name, the set of every column, of none and of every
column but some list each of their names once. The set of given names has one entry for each name
that is given, and so lists each name once exactly if none is given twice. What is described of a
resource is listed as often as its sets list it. -/
theorem FieldSet.listsOnce_configured {entity : Entity} (distinct : entity.columnNames.Nodup) :
    (all entity).ListsOnce ∧ none.ListsOnce ∧
    (∀ hidden set, except entity hidden = .ok set → set.ListsOnce) ∧
    (∀ given set, only entity given = .ok set →
      set.names = given ∧ set.size = given.length ∧ (set.ListsOnce ↔ given.Nodup) ∧
        (set.size = {name | set.contains name = true}.ncard ↔ given.Nodup)) ∧
    ∀ (draft : Resource.Draft) (resource : Resource), draft.build = .ok resource →
      ((∀ name, draft.filterableSet.contains name = true →
        resource.describe.filterable.count name = 1) ↔ draft.filterableSet.ListsOnce) ∧
      ((∀ name, draft.sortableSet.contains name = true →
        resource.describe.sortable.count name = 1) ↔ draft.sortableSet.ListsOnce) := by
  refine ⟨listsOnce_all distinct, listsOnce_none, fun hidden set made =>
    listsOnce_of_except distinct made, ?_, ?_⟩
  · intro given set made
    have listed := names_of_only made
    refine ⟨listed, ?_, listsOnce_iff_of_only made, ?_⟩
    · rw [← length_names, listed]
    · rw [size_eq_ncard_iff, listed]
  · intro draft resource built
    obtain ⟨filterable, sortable⟩ := Resource.Draft.names_describe built
    rw [filterable, sortable, forall_count_eq_one_iff, forall_count_eq_one_iff, listsOnce_iff,
      listsOnce_iff]
    exact ⟨Iff.rfl, Iff.rfl⟩

/-! ## Members with a repeated name -/

namespace Members

/-- Filters by the identifier, which is given twice, and sorts by everything but the login. -/
def repeating : Resource.Draft where
  entity := entity
  filterableFields := some ⟨[("id", idColumn), ("id", idColumn)]⟩
  sortableFields := some ⟨[("id", idColumn)]⟩

end Members

namespace FieldSet

theorem listsOnce_configured_members :
    Members.entity.columnNames.Nodup ∧
      (∃ set, except Members.entity ["login"] = .ok set ∧ set.ListsOnce) ∧
      (∃ set, only Members.entity ["login", "id"] = .ok set ∧ set.ListsOnce) ∧
      ∃ resource, Members.repeating.build = .ok resource ∧
        resource.describe.sortable.count "id" = 1 := by
  have distinct : Members.entity.columnNames.Nodup := by decide
  obtain ⟨-, -, excepts, onlys, describes⟩ := listsOnce_configured distinct
  refine ⟨distinct, ⟨_, rfl, excepts ["login"] _ rfl⟩,
    ⟨_, rfl, (onlys ["login", "id"] _ rfl).2.2.1.2 (by decide)⟩, _, rfl, ?_⟩
  exact (describes Members.repeating _ rfl).2.2 (excepts ["login"] _ rfl) "id" rfl

/-- The identifier is given twice: it is listed, counted and described twice, and it is the only
name that the set contains. -/
theorem only_repeated_members :
    Members.entity.columnNames.Nodup ∧
      only Members.entity ["id", "id"] = .ok Members.repeating.filterableSet ∧
      Members.repeating.filterableSet.names = ["id", "id"] ∧
      Members.repeating.filterableSet.size = 2 ∧
      {name | Members.repeating.filterableSet.contains name = true}.ncard = 1 ∧
      ¬ Members.repeating.filterableSet.names.Nodup ∧
      ∃ resource, Members.repeating.build = .ok resource ∧
        resource.describe.filterable = ["id", "id"] := by
  refine ⟨by decide, rfl, rfl, rfl, ?_, by decide, _, rfl, rfl⟩
  rw [ncard_contained]
  rfl

end FieldSet

end Listing
