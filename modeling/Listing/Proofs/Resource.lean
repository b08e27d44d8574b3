import Listing.Proofs.Constraint
import Listing.Resource

set_option autoImplicit false

/-!
# Answers of a resource

The stages of a request: its criteria are read and resolved, its sort specification is read, and
only then is anything applied.
-/

namespace Listing

open Sql (Condition Select)

namespace Resource

/-- A filter is applied exactly when its criteria are read and each of their entries resolves. -/
theorem filter_eq_ok {resource : Resource} {request : Request} {select filtered : Select} :
    resource.filter request select = .ok filtered ↔
      ∃ criteria constraints, Criteria.ofFilter resource.accepts request.filter = .ok criteria ∧
        List.Forall₂ (fun entry constraint =>
          Constraint.ofEntry resource.filterable resource.filters entry = .ok constraint)
          criteria.entries constraints ∧
        filtered = Constraint.applyAll constraints select := by
  rw [Resource.filter, Traversal.bind_eq_ok]
  constructor
  · intro accepted
    obtain ⟨criteria, read, applied⟩ := accepted
    obtain ⟨constraints, resolved, narrowed⟩ := Criteria.apply_eq_ok.1 applied
    exact ⟨criteria, constraints, read, resolved, narrowed⟩
  · intro resolves
    obtain ⟨criteria, constraints, read, resolved, narrowed⟩ := resolves
    exact ⟨criteria, read, Criteria.apply_eq_ok.2 ⟨constraints, resolved, narrowed⟩⟩

theorem filter_eq_error {resource : Resource} {request : Request} {select : Select}
    {error : RequestError} :
    resource.filter request select = .error error ↔
      Criteria.ofFilter resource.accepts request.filter = .error error ∨
      ∃ criteria, Criteria.ofFilter resource.accepts request.filter = .ok criteria ∧
        criteria.resolve resource.filterable resource.filters = .error error := by
  rw [Resource.filter, Traversal.bind_eq_error]
  simp only [Criteria.apply_eq_error]

theorem exists_demands_of_filter {resource : Resource}
    {added : String → List String → List Condition} (adds : resource.filters.Add added)
    {request : Request} {select filtered : Select}
    (accepted : resource.filter request select = .ok filtered) :
    ∃ criteria demanded, Criteria.ofFilter resource.accepts request.filter = .ok criteria ∧
      List.Forall₂ (Demands resource.filterable resource.filters added) criteria.entries demanded ∧
      filtered = demanded.flatten.foldl Select.restrict select := by
  obtain ⟨criteria, constraints, read, resolved, narrowed⟩ := filter_eq_ok.1 accepted
  have present := Criteria.values_ne_nil_of_ofFilter read
  refine ⟨criteria, constraints.map (Constraint.conditions added), read,
    Constraint.demands_of_resolved present resolved, ?_⟩
  rw [narrowed, Constraint.applyAll_eq_foldl_restrict adds present resolved, List.flatMap_def]

/-- The ordering that a request asks for, or the default if it asks for none. -/
def sortSpec (resource : Resource) (request : Request) : Except RequestError SortSpec :=
  match request.sortText? with
  | none => .ok resource.defaultSort
  | some text => SortSpec.ofText resource.sortable text

theorem sort_eq (resource : Resource) (request : Request) (select : Select) :
    resource.sort request select =
      (resource.sortSpec request >>= fun spec => .ok (spec.apply select)) := by
  unfold sort sortSpec
  cases request.sortText? with
  | none => rfl
  | some text => rfl

theorem index_eq_ok {resource : Resource} {request : Request} {select answer : Select} :
    resource.index request select = .ok answer ↔
      ∃ filtered spec, resource.filter request select = .ok filtered ∧
        resource.sortSpec request = .ok spec ∧ answer = spec.apply filtered := by
  rw [index, Traversal.bind_eq_ok]
  refine exists_congr fun filtered => ?_
  rw [sort_eq, Traversal.bind_eq_ok]
  constructor
  · intro sorted
    obtain ⟨narrowed, spec, read, same⟩ := sorted
    cases same
    exact ⟨spec, narrowed, read, rfl⟩
  · intro stages
    obtain ⟨spec, narrowed, read, rfl⟩ := stages
    exact ⟨narrowed, spec, read, rfl⟩

theorem index_eq_error {resource : Resource} {request : Request} {select : Select}
    {error : RequestError} :
    resource.index request select = .error error ↔
      resource.filter request select = .error error ∨
      (∃ filtered, resource.filter request select = .ok filtered) ∧
        resource.sortSpec request = .error error := by
  rw [index, Traversal.bind_eq_error]
  refine or_congr_right ?_
  constructor
  · intro failing
    obtain ⟨filtered, narrowed, failed⟩ := failing
    rw [sort_eq, Traversal.bind_eq_error] at failed
    rcases failed with unsorted | ⟨_, _, absurdity⟩
    · exact ⟨⟨filtered, narrowed⟩, unsorted⟩
    · cases absurdity
  · intro stages
    obtain ⟨⟨filtered, narrowed⟩, unsorted⟩ := stages
    refine ⟨filtered, narrowed, ?_⟩
    rw [sort_eq, Traversal.bind_eq_error]
    exact .inl unsorted

theorem sortSpec_eq_error {resource : Resource} {request : Request} {error : RequestError} :
    resource.sortSpec request = .error error ↔
      ∃ text, request.sort = some text ∧ Text.isBlank text = false ∧
        SortSpec.ofText resource.sortable text = .error error := by
  rw [sortSpec, Request.sortText?]
  cases present : request.sort with
  | none => simp
  | some text =>
      cases blank : Text.isBlank text with
      | true => simp [Option.filter, blank]
      | false => simp [Option.filter, blank]

end Resource

/-! ## Members of a club -/

namespace Members

def idColumn : Column := ⟨"members", "id", .signed⟩

def loginColumn : Column := ⟨"members", "login", .text⟩

def entity : Entity := ⟨"members", "members", [idColumn, loginColumn]⟩

/-- The members whose login matches one of the patterns. -/
def matchesAny (patterns : List String) : Condition :=
  .any (patterns.map fun pattern => .compare (.like loginColumn pattern))

/-- Leaves out the members whose login matches one of the patterns. -/
def without : Predicate where
  key := 0
  run select patterns := select.exclude (matchesAny patterns)

/-- Members by identifier, by login, or without some of two patterns. -/
def resource : Resource where
  entity := entity
  filterable := .all entity
  sortable := .all entity
  defaultSort := .empty
  filters := NameMap.empty.insert "without" ⟨without, .list ["a%", "b%"], ""⟩

def added (_ : String) (patterns : List String) : List Condition :=
  [(matchesAny patterns).negate]

/-- Asks for a login and some numbers, without the members whose login begins with a or b. -/
def request (login numbers : String) : Request where
  filter := .fields [("login", login), ("without", "a%,b%"), ("id", numbers)]
  sort := some "-id"

theorem adds : resource.filters.Add added := by
  intro name filter found
  simp only [resource, NameMap.get?_insert] at found
  split at found
  · cases found
    intro select patterns
    rfl
  · cases found

end Members

end Listing
