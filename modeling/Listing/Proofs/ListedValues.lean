import Listing.Proofs.Encodings
import Listing.Proofs.NameMap
import Listing.Proofs.Request
import Listing.Proofs.Resource
import Listing.Description

set_option autoImplicit false

/-!
# Listed values

What becomes of the values that a description lists for a custom filter when a request sends them.
A value is cut at its commas before it is looked up, so a listed value reaches the predicate as it
stands only if it has none.
-/

namespace Listing

open Sql (Select)

/-- The request filters by one field with one raw value: as a JSON object with this member, or by a
bracketed parameter. -/
inductive Request.Sends (field value : String) : Request → Prop where
  | json {text : String} {sort : Option String} :
      Json.SpellsObject [(field, value)] text.toList → Sends field value ⟨.json text, sort⟩
  | bracketed {request : Request} :
      Bracketable field → ofPairs [(bracketedKey field, value)] = .ok request →
      Sends field value request

variable {field value : String} {request : Request}

theorem Request.exists_ofPairs_single (bracketable : Bracketable field) (value : String) :
    ∃ request, ofPairs [(bracketedKey field, value)] = .ok request ∧
      Criteria.requested request.filter = .ok [(field, value)] := by
  have each : ∀ pair ∈ [(field, value)], Bracketable pair.1 := by simpa using bracketable
  obtain ⟨request, made, asked, -⟩ := exists_ofPairs_bracketed each
  exact ⟨request, made, asked⟩

theorem Request.Sends.requested (sends : request.Sends field value) :
    Criteria.requested request.filter = .ok [(field, value)] := by
  cases sends with
  | json spells => exact Criteria.requested_spelled spells
  | bracketed bracketable made =>
      obtain ⟨other, same, asked⟩ := exists_ofPairs_single bracketable value
      cases made.symm.trans same
      exact asked

theorem Constraint.outsider?_of_listed {domain : ValueDomain} {values : List String}
    (fixed : domain.listed? = some values) (wanted : List String) :
    outsider? domain wanted = wanted.find? fun value => !values.contains value := by
  cases domain with
  | any => cases fixed
  | computed computation => cases fixed
  | list present =>
      cases present with
      | nil => cases fixed
      | cons first others =>
          cases fixed
          rfl

namespace Resource

variable {resource : Resource} {filter : CustomFilter}

theorem exists_of_mem_customFilters {described : FilterDescription}
    (member : described ∈ resource.describe.customFilters) :
    ∃ filter, resource.filters.get? described.name = some filter ∧
      described.allowedValues = filter.domain.listed? := by
  obtain ⟨entry, listed, rfl⟩ := FilterDescription.mem_sorted.1 member
  exact ⟨entry.2, NameMap.get?_of_mem listed, rfl⟩

theorem ofFilter_of_sends (found : resource.filters.get? field = some filter)
    (sends : request.Sends field value) :
    Criteria.ofFilter resource.accepts request.filter = .ok (Criteria.ofRaw [(field, value)]) := by
  refine Criteria.ofFilter_eq_ok.2 ⟨_, sends.requested, ?_, rfl⟩
  intro pair member
  cases List.mem_singleton.1 member
  simp [accepts, NameMap.contains, found]

theorem resolve_single (found : resource.filters.get? field = some filter) (value : String) :
    (Criteria.ofRaw [(field, value)]).resolve resource.filterable resource.filters =
      match Constraint.outsider? filter.domain (Criteria.splitValues value) with
      | some segment => .error (.valueNotAllowed field segment)
      | none => .ok [.custom field filter.predicate (Criteria.splitValues value)] := by
  have entries : (Criteria.ofRaw [(field, value)]).entries =
    [(field, Criteria.splitValues value)] := rfl
  rw [Criteria.resolve, entries, List.mapM_cons, Constraint.ofEntry]
  simp only [found]
  cases Constraint.outsider? filter.domain (Criteria.splitValues value) <;> rfl

theorem filter_of_sends (found : resource.filters.get? field = some filter)
    (sends : request.Sends field value) (select : Select) :
    resource.filter request select =
      match Constraint.outsider? filter.domain (Criteria.splitValues value) with
      | some segment => .error (.valueNotAllowed field segment)
      | none => .ok (filter.predicate.run select (Criteria.splitValues value)) := by
  rw [Resource.filter, ofFilter_of_sends found sends]
  simp only [bind, Except.bind, Criteria.apply, resolve_single found]
  cases Constraint.outsider? filter.domain (Criteria.splitValues value) <;> rfl

theorem resolve_single_iff (found : resource.filters.get? field = some filter)
    {values : List String} (fixed : filter.domain.listed? = some values) (listed : value ∈ values) :
    (Criteria.ofRaw [(field, value)]).resolve resource.filterable resource.filters =
        .ok [.custom field filter.predicate [value]] ↔
      Criteria.delimiter ∉ value.toList := by
  rw [← Text.split_eq_singleton_iff, resolve_single found, Constraint.outsider?_of_listed fixed]
  constructor
  · intro resolved
    split at resolved
    · cases resolved
    · simp only [Except.ok.injEq, List.cons.injEq, Constraint.custom.injEq] at resolved
      exact resolved.1.2.2
  · intro whole
    have cut : Criteria.splitValues value = [value] := whole
    rw [cut]
    simp [listed]

/-- What becomes of a listed value that a request sends alone. It reaches the predicate as it stands
exactly if it has no comma. Otherwise its segments are looked up in its place: the first that is
not listed is refused, and if all are the predicate gets them. -/
theorem listed_value_sent {described : FilterDescription}
    (member : described ∈ resource.describe.customFilters) {values : List String}
    (fixed : described.allowedValues = some values) {value : String} (listed : value ∈ values) :
    ∃ filter, resource.filters.get? described.name = some filter ∧
      (Request.Bracketable described.name → ∃ request,
        Request.ofPairs [(Request.bracketedKey described.name, value)] = .ok request) ∧
      ∀ request, request.Sends described.name value →
        (∃ criteria, Criteria.ofFilter resource.accepts request.filter = .ok criteria ∧
          (criteria.resolve resource.filterable resource.filters =
              .ok [.custom described.name filter.predicate [value]] ↔
            Criteria.delimiter ∉ value.toList)) ∧
        (Criteria.delimiter ∉ value.toList → ∀ select,
          resource.filter request select = .ok (filter.predicate.run select [value])) ∧
        ∀ select, resource.filter request select =
          match (Criteria.splitValues value).find? fun segment => !values.contains segment with
          | some segment => .error (.valueNotAllowed described.name segment)
          | none => .ok (filter.predicate.run select (Criteria.splitValues value)) := by
  obtain ⟨filter, found, domain⟩ := exists_of_mem_customFilters member
  rw [fixed] at domain
  refine ⟨filter, found, ?_, fun request sends => ⟨⟨_, ofFilter_of_sends found sends,
    resolve_single_iff found domain.symm listed⟩, ?_, ?_⟩⟩
  · intro bracketable
    obtain ⟨request, made, -⟩ := Request.exists_ofPairs_single bracketable value
    exact ⟨request, made⟩
  · intro free select
    have cut : Criteria.splitValues value = [value] := Text.split_of_not_mem free
    rw [filter_of_sends found sends, Constraint.outsider?_of_listed domain.symm, cut]
    simp [listed]
  · intro select
    rw [filter_of_sends found sends, Constraint.outsider?_of_listed domain.symm]

end Resource

/-! ## Members without a bundle of patterns -/

namespace Members

/-- Lists a pattern, and the same pattern in a bundle with another one. -/
def bundled : Resource.Draft where
  entity := entity
  declarations := [("without", .withValues without (.list ["a%", "a%,b%"]))]

def offering : Resource where
  entity := entity
  filterable := .all entity
  sortable := .all entity
  defaultSort := SortSpec.empty.push "id" idColumn .desc
  filters := NameMap.empty.insert "without" ⟨without, .list ["a%", "a%,b%"], ""⟩

theorem build_bundled : bundled.build = .ok offering := rfl

def offered : FilterDescription := ⟨"without", "", some ["a%", "a%,b%"]⟩

theorem offered_mem : offered ∈ offering.describe.customFilters :=
  FilterDescription.mem_sorted.2 ⟨_, List.mem_cons_self, rfl⟩

end Members

theorem Resource.listed_value_sent_members :
    Members.offered ∈ Members.offering.describe.customFilters ∧
      (∃ request, Request.ofPairs [("filter[without]", "a%")] = .ok request) ∧
      ∀ request, request.Sends "without" "a%" →
        Members.offering.filter request (Select.ofEntity Members.entity) =
          .ok ((Select.ofEntity Members.entity).exclude (Members.matchesAny ["a%"])) := by
  have listed : "a%" ∈ ["a%", "a%,b%"] := List.mem_cons_self
  have bracketable : Request.Bracketable "without" := ⟨by decide, by decide, by decide⟩
  obtain ⟨filter, found, made, sent⟩ := listed_value_sent Members.offered_mem rfl listed
  cases found
  refine ⟨Members.offered_mem, made bracketable, ?_⟩
  intro request sends
  exact (sent request sends).2.1 (by decide) (.ofEntity Members.entity)

/-- The bundle is listed and refused, because its second pattern is not listed by itself. -/
theorem Resource.listed_value_refused_members :
    ∃ request, Members.bundled.build = .ok Members.offering ∧
      Members.offered ∈ Members.offering.describe.customFilters ∧
      Members.offered.allowedValues = some ["a%", "a%,b%"] ∧
      Request.ofPairs [("filter[without]", "a%,b%")] = .ok request ∧
      ∀ select, Members.offering.filter request select =
        .error (.valueNotAllowed "without" "b%") :=
  ⟨⟨.fields [("without", "a%,b%")], none⟩, Members.build_bundled, Members.offered_mem, rfl, rfl,
    fun _ => rfl⟩

end Listing
