import Mathlib.Data.List.Perm.Basic
import Listing.Proofs.Resource
import Listing.Proofs.Sql.Truth

set_option autoImplicit false

/-!
# Filters as a conjunction

A filtered selection wants the rows that it wanted before and that meet the demands of every
requested field, whatever shapes the conditions have and in whatever order the fields stand.
-/

namespace Listing

open Sql (Comparison Condition Logic Select)

namespace Constraint

theorem truth_perm (added : String → List String → List Condition)
    {first second : List Constraint} (reordered : first.Perm second)
    {α : Type} (logic : Logic α) (leaf : Comparison → α) :
    logic.joinAll .all ((first.flatMap (conditions added)).map (Condition.truth logic leaf)) =
      logic.joinAll .all ((second.flatMap (conditions added)).map (Condition.truth logic leaf)) :=
  logic.joinAll_perm .all ((reordered.flatMap_right (conditions added)).map _)

end Constraint

namespace Resource

/-- Bracketed fields in another order are accepted alike, with constraints in that other order. -/
theorem exists_perm_constraints {resource : Resource} {request : Request}
    {pairs permuted : List (String × String)} {select filtered : Select}
    (bracketed : request.filter = .fields pairs) (distinct : (pairs.map Prod.fst).Nodup)
    (reordered : permuted.Perm pairs) (accepted : resource.filter request select = .ok filtered) :
    ∃ constraints others,
      List.Forall₂ (fun entry constraint =>
        Constraint.ofEntry resource.filterable resource.filters entry = .ok constraint)
        (Keyed.mapValues Criteria.splitValues pairs) constraints ∧
      List.Forall₂ (fun entry constraint =>
        Constraint.ofEntry resource.filterable resource.filters entry = .ok constraint)
        (Keyed.mapValues Criteria.splitValues permuted) others ∧
      others.Perm constraints ∧ filtered = Constraint.applyAll constraints select ∧
      resource.filter { request with filter := .fields permuted } select =
        .ok (Constraint.applyAll others select) := by
  obtain ⟨criteria, constraints, read, resolved, narrowed⟩ := filter_eq_ok.1 accepted
  obtain ⟨asked, requested, known, rfl⟩ := Criteria.ofFilter_eq_ok.1 read
  rw [bracketed, Criteria.requested_fields] at requested
  cases requested
  rw [Criteria.entries_ofRaw_of_nodup distinct] at resolved
  obtain ⟨others, otherResolved, same⟩ :=
    List.perm_comp_forall₂ (reordered.map fun pair => (pair.1, Criteria.splitValues pair.2)) resolved
  have otherDistinct : (permuted.map Prod.fst).Nodup :=
    (reordered.map Prod.fst).nodup_iff.2 distinct
  refine ⟨constraints, others, resolved, otherResolved, same, narrowed, ?_⟩
  rw [filter_eq_ok]
  refine ⟨Criteria.ofRaw permuted, others, ?_, ?_, rfl⟩
  · exact Criteria.ofFilter_eq_ok.2 ⟨permuted, Criteria.requested_fields permuted,
      fun pair member => known pair (reordered.mem_iff.1 member), rfl⟩
  · rw [Criteria.entries_ofRaw_of_nodup otherDistinct]
    exact otherResolved

/-- A filtered selection holds of a row exactly when the selection before did and every entry of
the criteria has its demands met, in two truth values and in three. Bracketed fields in another
order make no difference to any row. -/
theorem truth_filter {resource : Resource} {added : String → List String → List Condition}
    (adds : resource.filters.Add added) {request : Request} {select filtered : Select}
    (accepted : resource.filter request select = .ok filtered) :
    (∃ criteria demanded, Criteria.ofFilter resource.accepts request.filter = .ok criteria ∧
      List.Forall₂ (Demands resource.filterable resource.filters added) criteria.entries demanded ∧
      ∀ {α : Type} (logic : Logic α) (leaf : Comparison → α),
        filtered.truth logic leaf = logic.join .all (select.truth logic leaf)
          (logic.joinAll .all (demanded.map fun conditions =>
            logic.joinAll .all (conditions.map (Condition.truth logic leaf))))) ∧
    ∀ pairs permuted, request.filter = .fields pairs → (pairs.map Prod.fst).Nodup →
      permuted.Perm pairs →
      ∃ other, resource.filter { request with filter := .fields permuted } select = .ok other ∧
        ∀ {α : Type} (logic : Logic α) (leaf : Comparison → α),
          other.truth logic leaf = filtered.truth logic leaf := by
  constructor
  · obtain ⟨criteria, demanded, read, demands, narrowed⟩ := exists_demands_of_filter adds accepted
    refine ⟨criteria, demanded, read, demands, ?_⟩
    intro α logic leaf
    rw [narrowed, Select.truth, Select.eval_foldl_restrict, List.map_flatten,
      Sql.Interpretation.joinAll_flatten, List.map_map]
    rfl
  · intro pairs permuted bracketed distinct reordered
    obtain ⟨constraints, others, resolved, otherResolved, same, rfl, otherAccepted⟩ :=
      exists_perm_constraints bracketed distinct reordered accepted
    have present : ∀ listed : List (String × String),
        ∀ entry ∈ Keyed.mapValues Criteria.splitValues listed, entry.2 ≠ [] := by
      intro listed entry member
      obtain ⟨pair, -, rfl⟩ := List.mem_map.1 member
      exact Text.split_ne_nil _ _
    refine ⟨_, otherAccepted, ?_⟩
    intro α logic leaf
    have evaluated := Constraint.eval_applyAll adds (present _) resolved logic.toInterpretation leaf
    have otherEvaluated :=
      Constraint.eval_applyAll adds (present _) otherResolved logic.toInterpretation leaf
    rw [Select.truth, Select.truth, evaluated, otherEvaluated]
    exact congrArg _ (Constraint.truth_perm added same logic leaf)

theorem truth_filter_members :
    Members.resource.filters.Add Members.added ∧
      ∃ filtered other,
        Members.resource.filter (Members.request "x" "1,2")
          ((Select.ofEntity Members.entity).restrict (Members.matchesAny ["x", "y"])) =
            .ok filtered ∧
        Members.resource.filter
          { Members.request "x" "1,2" with
            filter := .fields [("without", "a%,b%"), ("login", "x"), ("id", "1,2")] }
          ((Select.ofEntity Members.entity).restrict (Members.matchesAny ["x", "y"])) =
            .ok other ∧
        (∀ leaf, other.truth Logic.boolean leaf = filtered.truth Logic.boolean leaf) ∧
        ∀ leaf, other.truth Logic.ternary leaf = filtered.truth Logic.ternary leaf := by
  have accepted : Members.resource.filter (Members.request "x" "1,2")
      ((Select.ofEntity Members.entity).restrict (Members.matchesAny ["x", "y"])) =
        .ok (((((Select.ofEntity Members.entity).restrict (Members.matchesAny ["x", "y"])).whereEqual
          Members.loginColumn (.text "x")).exclude (Members.matchesAny ["a%", "b%"])).whereOneOf
          Members.idColumn [.int64 1, .int64 2]) := rfl
  obtain ⟨other, otherAccepted, same⟩ :=
    (truth_filter Members.adds accepted).2 _ _ rfl (by decide) (List.Perm.swap _ _ _)
  exact ⟨Members.adds, _, other, accepted, otherAccepted, same Logic.boolean, same Logic.ternary⟩

end Resource

end Listing
