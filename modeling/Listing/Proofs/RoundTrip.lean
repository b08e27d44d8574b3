import Listing.Proofs.Constraint
import Listing.Proofs.Request

set_option autoImplicit false

/-!
# Criteria written and read again

Criteria are written as bracketed fields with their values joined by commas. What can be written is
read back as it was, and whatever is read, in either encoding, can be written.
-/

namespace Listing

namespace Criteria

/-- The fields, each with its values joined. -/
def toFields (criteria : Criteria) : List (String × String) :=
  Keyed.mapValues (Text.join delimiter) criteria.entries

/-- The fields as parameters of a query. -/
def toQuery (criteria : Criteria) : List (String × String) :=
  criteria.toFields.map fun pair => (Request.bracketedKey pair.1, pair.2)

/-- Every field has values, none of which holds the mark that separates them. -/
structure Joinable (criteria : Criteria) : Prop where
  present : ∀ entry ∈ criteria.entries, entry.2 ≠ []
  free : ∀ entry ∈ criteria.entries, ∀ value ∈ entry.2, delimiter ∉ value.toList

variable {accepts : String → Bool} {criteria : Criteria} {filter : FilterText}

theorem exists_entry_of_mem_toFields {pair : String × String} (member : pair ∈ criteria.toFields) :
    ∃ entry ∈ criteria.entries, pair.1 = entry.1 := by
  obtain ⟨entry, listed, rfl⟩ := List.mem_map.1 member
  exact ⟨entry, listed, rfl⟩

theorem nodup_toFields (criteria : Criteria) : (criteria.toFields.map Prod.fst).Nodup := by
  have keys := Keyed.keys_mapValues (Text.join delimiter) criteria.entries
  have distinct := criteria.distinct
  rwa [← keys] at distinct

theorem ofRaw_toFields (joinable : criteria.Joinable) : ofRaw criteria.toFields = criteria := by
  have cut : ∀ entry ∈ criteria.entries,
      (entry.1, splitValues (Text.join delimiter entry.2)) = entry := by
    intro entry member
    rw [splitValues, Text.split_join (joinable.present entry member) (joinable.free entry member)]
  apply eq_of_entries
  rw [entries_ofRaw_of_nodup criteria.nodup_toFields, toFields, Keyed.mapValues, Keyed.mapValues,
    List.map_map]
  exact (List.map_congr_left cut).trans (List.map_id _)

/-- Criteria that can be joined are read back from any request that asks for their fields. -/
theorem ofFilter_of_requested (joinable : criteria.Joinable)
    (accepted : ∀ entry ∈ criteria.entries, accepts entry.1 = true)
    (asked : requested filter = .ok criteria.toFields) :
    ofFilter accepts filter = .ok criteria := by
  refine ofFilter_eq_ok.2 ⟨_, asked, ?_, (ofRaw_toFields joinable).symm⟩
  intro pair member
  obtain ⟨entry, listed, same⟩ := exists_entry_of_mem_toFields member
  exact same ▸ accepted entry listed

theorem joinable_ofRaw (pairs : List (String × String)) : (ofRaw pairs).Joinable where
  present entry member := values_ne_nil_of_mem_ofRaw member
  free entry member value listed := by
    obtain ⟨pair, -, rfl⟩ := exists_pair_of_mem_ofRaw member
    exact Text.separator_not_mem_of_mem_split listed

theorem joinable_of_ofFilter (read : ofFilter accepts filter = .ok criteria) :
    criteria.Joinable ∧ ∀ entry ∈ criteria.entries, accepts entry.1 = true := by
  obtain ⟨pairs, -, accepted, rfl⟩ := ofFilter_eq_ok.1 read
  refine ⟨joinable_ofRaw pairs, ?_⟩
  intro entry member
  obtain ⟨pair, listed, rfl⟩ := exists_pair_of_mem_ofRaw member
  exact accepted pair listed

end Criteria

namespace Constraint

variable {fields : FieldSet} {filters : CustomFilters}

/-- A constraint is an equality exactly for one value of a plain field. -/
def Fits (filters : CustomFilters) (entry : String × List String) (constraint : Constraint) :
    Prop :=
  constraint.field = entry.1 ∧
    ((∃ field column value, constraint = .equality field column value) ↔
      filters.get? entry.1 = none ∧ entry.2.length = 1) ∧
    ∀ field column values, constraint = .inclusion field column values → 2 ≤ values.length

theorem fits_of_ofEntry {entry : String × List String} {constraint : Constraint}
    (present : entry.2 ≠ []) (resolved : ofEntry fields filters entry = .ok constraint) :
    constraint.Fits filters entry := by
  obtain ⟨field, values⟩ := entry
  rcases ofEntry_cases present resolved with
    ⟨filter, custom, -, rfl⟩ | ⟨column, value, custom, -, rfl, rfl⟩ |
    ⟨column, first, second, rest, custom, -, rfl, rfl⟩
  · refine ⟨rfl, ?_, ?_⟩
    · simp [custom]
    · intro other column wanted absurdity
      cases absurdity
  · refine ⟨rfl, ?_, ?_⟩
    · simp [custom]
    · intro other column wanted absurdity
      cases absurdity
  · refine ⟨rfl, ?_, ?_⟩
    · simp
    · intro other column wanted same
      cases same
      simp

end Constraint

namespace Criteria

theorem fits_of_resolve {criteria : Criteria} (joinable : criteria.Joinable) {fields : FieldSet}
    {filters : CustomFilters} {constraints : List Constraint}
    (resolved : criteria.resolve fields filters = .ok constraints) :
    List.Forall₂ (fun entry constraint => constraint.Fits filters entry) criteria.entries
      constraints := by
  have steps := (List.forall₂_and_left criteria.entries constraints).2
    ⟨joinable.present, Traversal.mapM_eq_ok.1 resolved⟩
  exact steps.imp fun _ _ step => Constraint.fits_of_ofEntry step.1 step.2

/-- Criteria that can be written as query parameters are read back from them. Whatever is read, in
either encoding, has distinct accepted fields with values that can be joined, is read again from
them, and resolves to an equality exactly where a plain field has one value, to an inclusion only
where it has several. -/
theorem ofFilter_toQuery (accepts : String → Bool) :
    (∀ criteria : Criteria, criteria.Joinable →
      (∀ entry ∈ criteria.entries, accepts entry.1 = true ∧ Request.Bracketable entry.1) →
      ∃ request, Request.ofPairs criteria.toQuery = .ok request ∧
        ofFilter accepts request.filter = .ok criteria) ∧
    ∀ filter criteria, ofFilter accepts filter = .ok criteria →
      criteria.fields.Nodup ∧ (∀ entry ∈ criteria.entries, accepts entry.1 = true) ∧
      criteria.Joinable ∧ ofFilter accepts (.fields criteria.toFields) = .ok criteria ∧
      ∀ fields filters constraints, criteria.resolve fields filters = .ok constraints →
        List.Forall₂ (fun entry constraint => constraint.Fits filters entry) criteria.entries
          constraints := by
  constructor
  · intro criteria joinable writable
    have bracketable : ∀ pair ∈ criteria.toFields, Request.Bracketable pair.1 := by
      intro pair member
      obtain ⟨entry, listed, same⟩ := exists_entry_of_mem_toFields member
      exact same ▸ (writable entry listed).2
    obtain ⟨request, made, asked, -⟩ := Request.exists_ofPairs_bracketed bracketable
    exact ⟨request, made, ofFilter_of_requested joinable
      (fun entry member => (writable entry member).1) asked⟩
  · intro filter criteria read
    obtain ⟨joinable, accepted⟩ := joinable_of_ofFilter read
    exact ⟨criteria.distinct, accepted, joinable,
      ofFilter_of_requested joinable accepted (requested_fields _),
      fun _ _ _ resolved => fits_of_resolve joinable resolved⟩

/-- Empty values and repeated ones are kept, and so is a comma at the end. -/
theorem ofFilter_toQuery_commas :
    ∃ request, Request.ofPairs [("filter[login]", "x,,x,"), ("filter[id]", "1")] = .ok request ∧
      ofFilter (fun field => ["id", "login"].contains field) request.filter =
        .ok (ofPairs [("login", ["x", "", "x", ""]), ("id", ["1"])]) := by
  let criteria : Criteria := ofPairs [("login", ["x", "", "x", ""]), ("id", ["1"])]
  have joinable : criteria.Joinable := ⟨by decide, by decide⟩
  have writable : ∀ entry ∈ criteria.entries,
      ["id", "login"].contains entry.1 = true ∧ Request.Bracketable entry.1 := by
    intro entry member
    have listed : entry ∈ [("login", ["x", "", "x", ""]), ("id", ["1"])] := member
    simp only [List.mem_cons, List.not_mem_nil, or_false] at listed
    rcases listed with rfl | rfl
    · exact ⟨by decide, by decide, by decide, by decide⟩
    · exact ⟨by decide, by decide, by decide, by decide⟩
  exact (ofFilter_toQuery _).1 criteria joinable writable

end Criteria

end Listing
