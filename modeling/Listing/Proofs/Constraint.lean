import Listing.Constraint
import Listing.Proofs.Criteria
import Listing.Proofs.Sql.Evaluation

set_option autoImplicit false

/-!
# What constraints ask for

Each entry of the criteria demands certain conditions, a plain field one comparison and a custom
filter whatever its predicate adds. Applying the constraints of the criteria restricts a selection
by these conditions and does nothing else.
-/

namespace Listing

open Sql (Comparison Condition Interpretation Select)

/-- The predicate restricts a selection by conditions that the wanted values alone determine, and
does nothing else to it. -/
def Predicate.Adds (predicate : Predicate) (added : List String → List Condition) : Prop :=
  ∀ select values, predicate.run select values = (added values).foldl Select.restrict select

def CustomFilters.Add (filters : CustomFilters) (added : String → List String → List Condition) :
    Prop :=
  ∀ name filter, filters.get? name = some filter → filter.predicate.Adds (added name)

/-- What an entry of the criteria demands of the rows. -/
inductive Demands (fields : FieldSet) (filters : CustomFilters)
    (added : String → List String → List Condition) :
    String × List String → List Condition → Prop where
  | custom {field : String} {values : List String} {filter : CustomFilter} :
      filters.get? field = some filter →
      Demands fields filters added (field, values) (added field values)
  | equality {field value : String} {column : Column} :
      filters.get? field = none → fields.column? field = some column →
      Demands fields filters added (field, [value])
        [.compare (.equal column (Value.coerce column value))]
  | inclusion {field first second : String} {rest : List String} {column : Column} :
      filters.get? field = none → fields.column? field = some column →
      Demands fields filters added (field, first :: second :: rest)
        [.compare (.oneOf column ((first :: second :: rest).map (Value.coerce column)))]

namespace Constraint

/-- The conditions by which a constraint restricts a selection. -/
def conditions (added : String → List String → List Condition) : Constraint → List Condition
  | .equality _ column value => [.compare (.equal column value)]
  | .inclusion _ column values => [.compare (.oneOf column values)]
  | .custom field _ values => added field values

variable {fields : FieldSet} {filters : CustomFilters}
  {added : String → List String → List Condition}

/-- An entry with a value that resolves does so in one of three ways. -/
theorem ofEntry_cases {field : String} {values : List String} {constraint : Constraint}
    (present : values ≠ []) (resolved : ofEntry fields filters (field, values) = .ok constraint) :
    (∃ filter, filters.get? field = some filter ∧ outsider? filter.domain values = none ∧
      constraint = .custom field filter.predicate values) ∨
    (∃ column value, filters.get? field = none ∧ fields.column? field = some column ∧
      values = [value] ∧ constraint = .equality field column (Value.coerce column value)) ∨
    (∃ column first second rest, filters.get? field = none ∧ fields.column? field = some column ∧
      values = first :: second :: rest ∧
      constraint = .inclusion field column (values.map (Value.coerce column))) := by
  cases custom : filters.get? field with
  | some filter =>
      cases outside : outsider? filter.domain values with
      | some value => simp [ofEntry, custom, outside] at resolved
      | none =>
          simp only [ofEntry, custom, outside, Except.ok.injEq] at resolved
          exact .inl ⟨filter, rfl, outside, resolved.symm⟩
  | none =>
      cases plain : fields.column? field with
      | none => simp [ofEntry, custom, plain] at resolved
      | some column =>
          match values, present with
          | [value], _ =>
              simp only [ofEntry, custom, plain, Except.ok.injEq] at resolved
              exact .inr (.inl ⟨column, value, rfl, rfl, rfl, resolved.symm⟩)
          | first :: second :: rest, _ =>
              simp only [ofEntry, custom, plain, Except.ok.injEq] at resolved
              exact .inr (.inr ⟨column, first, second, rest, rfl, rfl, rfl, resolved.symm⟩)

theorem demands_of_ofEntry {entry : String × List String} {constraint : Constraint}
    (present : entry.2 ≠ []) (resolved : ofEntry fields filters entry = .ok constraint) :
    Demands fields filters added entry (constraint.conditions added) := by
  obtain ⟨field, values⟩ := entry
  rcases ofEntry_cases present resolved with
    ⟨filter, custom, -, rfl⟩ | ⟨column, value, custom, plain, rfl, rfl⟩ |
    ⟨column, first, second, rest, custom, plain, rfl, rfl⟩
  · exact .custom custom
  · exact .equality custom plain
  · exact .inclusion custom plain

theorem apply_of_ofEntry (adds : filters.Add added) {entry : String × List String}
    {constraint : Constraint} (present : entry.2 ≠ [])
    (resolved : ofEntry fields filters entry = .ok constraint) (select : Select) :
    constraint.apply select = (constraint.conditions added).foldl Select.restrict select := by
  obtain ⟨field, values⟩ := entry
  rcases ofEntry_cases present resolved with
    ⟨filter, custom, -, rfl⟩ | ⟨column, value, -, -, rfl, rfl⟩ |
    ⟨column, first, second, rest, -, -, rfl, rfl⟩
  · exact adds field filter custom select values
  · rfl
  · rfl

/-- Constraints applied in turn restrict a selection by all their conditions in turn. -/
theorem applyAll_eq_foldl_restrict (adds : filters.Add added)
    {entries : List (String × List String)} {constraints : List Constraint}
    (present : ∀ entry ∈ entries, entry.2 ≠ [])
    (resolved : List.Forall₂ (fun entry constraint => ofEntry fields filters entry = .ok constraint)
      entries constraints) (select : Select) :
    applyAll constraints select =
      (constraints.flatMap (conditions added)).foldl Select.restrict select := by
  induction resolved generalizing select with
  | nil => rfl
  | @cons entry constraint entries constraints first _ ih =>
      have applied := apply_of_ofEntry adds (present entry List.mem_cons_self) first select
      have rest := ih (fun other member => present other (List.mem_cons_of_mem _ member))
        (constraint.apply select)
      rw [List.flatMap_cons, List.foldl_append, ← applied, ← rest]
      rfl

theorem eval_applyAll (adds : filters.Add added)
    {entries : List (String × List String)} {constraints : List Constraint}
    (present : ∀ entry ∈ entries, entry.2 ≠ [])
    (resolved : List.Forall₂ (fun entry constraint => ofEntry fields filters entry = .ok constraint)
      entries constraints)
    {α : Type} (interpretation : Interpretation α) (leaf : Comparison → α) (select : Select) :
    (applyAll constraints select).eval interpretation leaf =
      interpretation.join .all (select.eval interpretation leaf)
        (interpretation.joinAll .all
          ((constraints.flatMap (conditions added)).map (Condition.eval interpretation leaf))) := by
  rw [applyAll_eq_foldl_restrict adds present resolved, Select.eval_foldl_restrict]

theorem demands_of_resolved {entries : List (String × List String)}
    {constraints : List Constraint} (present : ∀ entry ∈ entries, entry.2 ≠ [])
    (resolved : List.Forall₂ (fun entry constraint => ofEntry fields filters entry = .ok constraint)
      entries constraints) :
    List.Forall₂ (Demands fields filters added) entries (constraints.map (conditions added)) := by
  induction resolved with
  | nil => exact .nil
  | @cons entry constraint entries constraints first _ ih =>
      exact .cons (demands_of_ofEntry (present entry List.mem_cons_self) first)
        (ih fun other member => present other (List.mem_cons_of_mem _ member))

end Constraint

namespace Criteria

theorem apply_eq_ok {criteria : Criteria} {fields : FieldSet} {filters : CustomFilters}
    {select narrowed : Select} :
    criteria.apply fields filters select = .ok narrowed ↔
      ∃ constraints, List.Forall₂ (fun entry constraint =>
          Constraint.ofEntry fields filters entry = .ok constraint) criteria.entries constraints ∧
        narrowed = Constraint.applyAll constraints select := by
  rw [Criteria.apply, Traversal.bind_eq_ok]
  refine exists_congr fun constraints => and_congr Traversal.mapM_eq_ok ?_
  rw [Except.ok.injEq, eq_comm]

theorem apply_eq_error {criteria : Criteria} {fields : FieldSet} {filters : CustomFilters}
    {select : Select} {error : RequestError} :
    criteria.apply fields filters select = .error error ↔
      criteria.resolve fields filters = .error error := by
  rw [Criteria.apply, Traversal.bind_eq_error]
  simp

end Criteria

end Listing
