import Listing.Proofs.FieldSet
import Listing.Proofs.Verdict

set_option autoImplicit false

/-!
# Fewer filterable fields

A resource that lets requests filter by fewer fields answers fewer requests, and those that it still
answers as before.
-/

namespace Listing

open Sql (Select)

/-- Every name of the narrow set is in the wide one too, and bound to the same column. -/
def FieldSet.Within (narrow wide : FieldSet) : Prop :=
  ∀ name column, narrow.column? name = some column → wide.column? name = some column

theorem FieldSet.Within.mem_names {narrow wide : FieldSet} (within : narrow.Within wide)
    {name : String} (listed : name ∈ narrow.names) : name ∈ wide.names := by
  obtain ⟨column, bound⟩ := FieldSet.exists_column?_iff.2 listed
  exact FieldSet.exists_column?_iff.1 ⟨column, within name column bound⟩

/-- The resource with other fields to filter by and the same custom filters. -/
def Resource.filteringBy (resource : Resource) (fields : FieldSet) : Resource :=
  { resource with filterable := fields }

namespace Resource

variable {resource : Resource} {narrow wide : FieldSet}

theorem Known.widen (within : narrow.Within wide) {field : String}
    (known : (resource.filteringBy narrow).Known field) :
    (resource.filteringBy wide).Known field :=
  known.imp_left within.mem_names

/-- A field that is known with the narrow set is resolved alike with both. -/
theorem Known.ofEntry_eq (within : narrow.Within wide) {entry : String × List String}
    (known : (resource.filteringBy narrow).Known entry.1) :
    Constraint.ofEntry narrow resource.filters entry =
      Constraint.ofEntry wide resource.filters entry := by
  obtain ⟨field, wanted⟩ := entry
  cases custom : resource.filters.get? field with
  | some filter => simp only [Constraint.ofEntry, custom]
  | none =>
      obtain ⟨column, bound⟩ : ∃ column, narrow.column? field = some column :=
        exists_column_of_plain known custom
      simp only [Constraint.ofEntry, custom, bound, within field column bound]

theorem resolve_eq_of_known (within : narrow.Within wide) {criteria : Criteria}
    (known : ∀ entry ∈ criteria.entries, (resource.filteringBy narrow).Known entry.1) :
    criteria.resolve narrow resource.filters = criteria.resolve wide resource.filters :=
  Traversal.mapM_congr fun entry member => (known entry member).ofEntry_eq within

/-- The fields that a request asks for can be filtered by, as far as its filter can be read. -/
def KnowsAll (resource : Resource) (request : Request) : Prop :=
  ∀ pairs, Criteria.requested request.filter = .ok pairs → ∀ pair ∈ pairs, resource.Known pair.1

theorem knowsAll_of_filter {request : Request} {select filtered : Select}
    (answered : resource.filter request select = .ok filtered) : resource.KnowsAll request := by
  obtain ⟨pairs, asked, known, -⟩ := exists_filter.1 ⟨filtered, answered⟩
  intro others askedAgain
  rw [asked] at askedAgain
  cases askedAgain
  exact known

/-- A request for known fields fares alike with both sets, whether it is answered or refused. -/
theorem KnowsAll.filter_eq (within : narrow.Within wide) {request : Request}
    (known : (resource.filteringBy narrow).KnowsAll request) (select : Select) :
    (resource.filteringBy narrow).filter request select =
      (resource.filteringBy wide).filter request select := by
  unfold filter
  cases asked : Criteria.requested request.filter with
  | error error =>
      rw [Criteria.ofFilter_eq_error.2 (.inl asked), Criteria.ofFilter_eq_error.2 (.inl asked)]
      rfl
  | ok pairs =>
      have narrowKnown := known pairs asked
      have wideKnown := fun pair member => (narrowKnown pair member).widen within
      have resolved : (Criteria.ofRaw pairs).resolve narrow resource.filters =
          (Criteria.ofRaw pairs).resolve wide resource.filters :=
        resolve_eq_of_known within (known_of_mem_ofRaw narrowKnown)
      rw [ofFilter_accepts_eq_ok.2 ⟨pairs, asked, narrowKnown, rfl⟩,
        ofFilter_accepts_eq_ok.2 ⟨pairs, asked, wideKnown, rfl⟩]
      show Criteria.apply _ narrow resource.filters select =
        Criteria.apply _ wide resource.filters select
      rw [Criteria.apply, Criteria.apply, resolved]

/-- With the narrow set a request is answered exactly if it is answered with the wide one and asks
for no field besides those of the narrow set and the custom filters, and the answer is the same. -/
theorem filter_within (within : narrow.Within wide) (resource : Resource) (request : Request)
    (select filtered : Select) :
    (resource.filteringBy narrow).filter request select = .ok filtered ↔
      (resource.filteringBy wide).filter request select = .ok filtered ∧
        ∀ pairs, Criteria.requested request.filter = .ok pairs →
          ∀ pair ∈ pairs, pair.1 ∈ narrow.names ∨ pair.1 ∈ resource.filters.names := by
  constructor
  · intro answered
    have known := knowsAll_of_filter answered
    exact ⟨(known.filter_eq within select).symm.trans answered, known⟩
  · intro widely
    obtain ⟨answered, known⟩ := widely
    exact (KnowsAll.filter_eq within known select).trans answered

end Resource

/-! ## Members by identifier alone -/

namespace Members

def identifiers : FieldSet := ⟨[("id", idColumn)]⟩

theorem within_all : identifiers.Within (.all entity) := by
  intro name column bound
  have listed := FieldSet.mem_fields_of_column? bound
  rw [identifiers, List.mem_singleton] at listed
  cases listed
  rfl

end Members

/-- A custom filter is no field of either set. A login is asked for in vain by identifier alone. -/
theorem Resource.filter_within_members :
    Members.identifiers.Within (.all Members.entity) ∧
      (∃ filtered,
        (Members.resource.filteringBy Members.identifiers).filter
          { filter := .fields [("without", "a%"), ("id", "1,2")] }
          (Select.ofEntity Members.entity) = .ok filtered ∧
        (Members.resource.filteringBy (.all Members.entity)).filter
          { filter := .fields [("without", "a%"), ("id", "1,2")] }
          (Select.ofEntity Members.entity) = .ok filtered) ∧
      ∀ filtered, (Members.resource.filteringBy Members.identifiers).filter
        { filter := .fields [("id", "1"), ("login", "x")] }
        (Select.ofEntity Members.entity) ≠ .ok filtered := by
  have same := filter_within Members.within_all Members.resource
  refine ⟨Members.within_all, ⟨_, (same _ _ _).2 ⟨rfl, ?_⟩, rfl⟩, ?_⟩
  · intro pairs asked
    cases asked
    decide
  · intro filtered answered
    have known := ((same _ _ _).1 answered).2 _ rfl ("login", "x") (by decide)
    revert known
    decide

end Listing
