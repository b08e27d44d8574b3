import Listing.Proofs.Resource

set_option autoImplicit false

/-!
# Criteria in parts

Criteria whose fields come in two groups are applied as the groups are, one after the other. All of
the criteria are resolved before any is applied, and still the first error is the same, because what
an entry resolves to does not depend on the selection.
-/

namespace Listing

open Sql (Select)

namespace Criteria

variable {first second : List (String × List String)}

theorem resolve_ofPairs_append (apart : ∀ pair ∈ first, ∀ other ∈ second, pair.1 ≠ other.1)
    (fields : FieldSet) (filters : CustomFilters) :
    (ofPairs (first ++ second)).resolve fields filters =
      ((ofPairs first).resolve fields filters >>= fun constraints =>
        (ofPairs second).resolve fields filters >>= fun others => .ok (constraints ++ others)) := by
  have entries : (ofPairs (first ++ second)).entries =
      (ofPairs first).entries ++ (ofPairs second).entries := by
    rw [entries_ofPairs, entries_ofPairs, entries_ofPairs, Keyed.ofPairs_append apart]
  rw [resolve, entries, List.mapM_append]
  rfl

/-- Fields in two groups with none in common, in which they may repeat, narrow a selection as the
groups do in turn, and fail as the first group that fails. -/
theorem apply_ofPairs_append (apart : ∀ pair ∈ first, ∀ other ∈ second, pair.1 ≠ other.1)
    (fields : FieldSet) (filters : CustomFilters) (select : Select) :
    (ofPairs (first ++ second)).apply fields filters select =
      ((ofPairs first).apply fields filters select >>= fun narrowed =>
        (ofPairs second).apply fields filters narrowed) := by
  rw [apply, resolve_ofPairs_append apart]
  simp only [apply]
  cases (ofPairs first).resolve fields filters with
  | error error => rfl
  | ok constraints =>
      cases (ofPairs second).resolve fields filters with
      | error error => rfl
      | ok others => exact congrArg Except.ok List.foldl_append

/-- The first group repeats a field. The second one narrows what the first one left, and it is to
blame for a pattern that is not listed. -/
theorem apply_ofPairs_append_members :
    ∃ narrowed : Select,
      (ofPairs [("login", ["x"]), ("without", ["a%"]), ("login", ["y", "z"])]).apply
        (.all Members.entity) Members.resource.filters (.ofEntity Members.entity) = .ok narrowed ∧
      (ofPairs [("login", ["x"]), ("without", ["a%"]), ("login", ["y", "z"]), ("id", ["1"])]).apply
        (.all Members.entity) Members.resource.filters (.ofEntity Members.entity) =
          .ok (narrowed.whereEqual Members.idColumn (.int64 1)) ∧
      (ofPairs [("login", ["x"]), ("login", ["y"]), ("without", ["c%"]), ("age", ["2"])]).apply
        (.all Members.entity) Members.resource.filters (.ofEntity Members.entity) =
          .error (.valueNotAllowed "without" "c%") := by
  have apart : ∀ pair ∈ [("login", ["x"]), ("without", ["a%"]), ("login", ["y", "z"])],
      ∀ other ∈ [("id", ["1"])], pair.1 ≠ other.1 := by decide
  have otherApart : ∀ pair ∈ [("login", ["x"]), ("login", ["y"])],
      ∀ other ∈ [("without", ["c%"]), ("age", ["2"])], pair.1 ≠ other.1 := by decide
  exact ⟨_, rfl,
    apply_ofPairs_append apart (.all Members.entity) Members.resource.filters _,
    apply_ofPairs_append otherApart (.all Members.entity) Members.resource.filters _⟩

end Criteria

end Listing
