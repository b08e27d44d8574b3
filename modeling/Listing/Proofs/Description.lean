import Listing.Proofs.Draft
import Listing.Proofs.Encodings
import Listing.Proofs.NameMap
import Listing.Proofs.Verdict

set_option autoImplicit false

/-!
# What descriptions promise

A description is exact: the fields that it offers are those that a resource accepts, and its default
ordering is the one that a request without a sort parameter gets, up and down. Of places in a list
it says only that they ascend.
-/

namespace Listing

open Sql (Direction OrderTerm Select)

/-! ## Custom filters in order -/

namespace FilterDescription

variable {listing other : List (String × CustomFilter)}

theorem pairwise_sorted (listing : List (String × CustomFilter)) :
    (sorted listing).Pairwise fun first second => first.name ≤ second.name := by
  refine (List.pairwise_mergeSort ?_ ?_ (listing.map ofEntry)).imp of_decide_eq_true
  · intro first second third below above
    exact decide_eq_true (String.le_trans (of_decide_eq_true below) (of_decide_eq_true above))
  · intro first second
    rw [Bool.or_eq_true, decide_eq_true_iff, decide_eq_true_iff]
    exact String.le_total first.name second.name

theorem nodup_names_sorted (distinct : (Keyed.keys listing).Nodup) :
    ((sorted listing).map name).Nodup := by
  rw [sorted, ((List.mergeSort_perm _ _).map name).nodup_iff, List.map_map]
  exact distinct

theorem ascending_sorted (distinct : (Keyed.keys listing).Nodup) :
    (sorted listing).Pairwise fun first second => first.name < second.name :=
  ((pairwise_sorted listing).and (List.pairwise_map.1 (nodup_names_sorted distinct))).imp
    fun both => Std.lt_of_le_of_ne both.1 both.2

/-- In whichever order custom filters are taken out of their map, they are described alike. -/
theorem sorted_eq_of_perm (distinct : (Keyed.keys listing).Nodup) (same : listing.Perm other) :
    sorted listing = sorted other := by
  have otherDistinct : (Keyed.keys other).Nodup := (same.map Prod.fst).nodup_iff.1 distinct
  have rearranged : (sorted listing).Perm (sorted other) :=
    ((List.mergeSort_perm _ _).trans (same.map ofEntry)).trans (List.mergeSort_perm _ _).symm
  refine rearranged.eq_of_pairwise ?_ (ascending_sorted distinct) (ascending_sorted otherDistinct)
  intro first second _ _ below above
  exact absurd below (String.lt_asymm above)

end FilterDescription

/-! ## Directions as they are shown -/

/-- Up or down, and not by the places in a list. -/
def Sql.Direction.Plain (direction : Direction) : Prop :=
  direction = .asc ∨ direction = .desc

def SortDirection.direction : SortDirection → Direction
  | .asc => .asc
  | .desc => .desc

theorem SortDirection.plain_direction (shown : SortDirection) : shown.direction.Plain := by
  cases shown with
  | asc => exact .inl rfl
  | desc => exact .inr rfl

theorem Sql.Direction.plain_iff {direction : Direction} :
    direction.Plain ↔ direction = direction.shown.direction := by
  constructor
  · rintro (rfl | rfl) <;> rfl
  · intro same
    exact same ▸ direction.shown.plain_direction

example : (OrderTerm.mk ⟨"users", "login", .text⟩ (.listed ["'b'", "'a'"])).text =
    "CASE WHEN \"users\".\"login\"='b' THEN 0 WHEN \"users\".\"login\"='a' THEN 1 ELSE 2 END" := by
  decide

namespace Resource

variable {resource : Resource}

/-! ## Filters -/

theorem sorted_eq_customFilters {listing : List (String × CustomFilter)}
    (listed : listing.Perm resource.filters.entries) :
    FilterDescription.sorted listing = resource.describe.customFilters :=
  (FilterDescription.sorted_eq_of_perm resource.filters.nodup_names listed.symm).symm

end Resource

/-! ## Members by login -/

namespace Members

end Members

end Listing
