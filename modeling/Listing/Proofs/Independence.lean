import Listing.Proofs.Request
import Listing.Proofs.Resource

set_option autoImplicit false

/-!
# Filters and orderings apart

Filtering and sorting act on separate parts of a selection as long as the predicates of custom
filters add conditions only. Then the two commute, and over a run of requests the conditions come
from the filters alone and the order from the orderings alone.
-/

namespace Listing

open Sql (Condition Frame OrderTerm Select)

/-! ## Changes that leave the order alone -/

namespace Sql.Select

/-- The change keeps what is selected, and it does the same whatever the order is, which it keeps
too. -/
structure KeepsOrder (change : Select → Select) : Prop where
  frame : ∀ select, (change select).toFrame = select.toFrame
  reordered : ∀ (select : Select) (order : List OrderTerm),
    change { select with order := order } = { change select with order := order }

theorem KeepsOrder.order {change : Select → Select} (keeps : KeepsOrder change) (select : Select) :
    (change select).order = select.order := by
  have kept := congrArg Select.order (keeps.reordered select select.order)
  exact kept

theorem keepsOrder_restrict (condition : Condition) :
    KeepsOrder fun select => select.restrict condition where
  frame select := toFrame_restrict select condition
  reordered select order := by
    obtain ⟨frame, present, before⟩ := select
    cases present <;> rfl

theorem keepsOrder_foldl {α : Type} {step : Select → α → Select} {items : List α}
    (each : ∀ item ∈ items, KeepsOrder fun select => step select item) :
    KeepsOrder fun select => items.foldl step select := by
  induction items with
  | nil => exact ⟨fun _ => rfl, fun _ _ => rfl⟩
  | cons item rest ih =>
      have first := each item List.mem_cons_self
      have others := ih fun other member => each other (List.mem_cons_of_mem _ member)
      constructor
      · intro select
        exact (others.frame _).trans (first.frame select)
      · intro select order
        rw [List.foldl_cons, List.foldl_cons, first.reordered select order]
        exact others.reordered _ order

end Sql.Select

/-- The predicate adds conditions to those that are there and does nothing else. Which conditions
it adds may depend on what is selected, on the conditions that are there and on the wanted values,
but not on the order. -/
def Predicate.Restricts (predicate : Predicate) : Prop :=
  ∃ added : Frame → Option Condition → List String → List Condition, ∀ select values,
    predicate.run select values =
      (added select.toFrame select.condition values).foldl Select.restrict select

def CustomFilters.Restrict (filters : CustomFilters) : Prop :=
  ∀ name filter, filters.get? name = some filter → filter.predicate.Restricts

theorem CustomFilters.Add.restrict {filters : CustomFilters}
    {added : String → List String → List Condition} (adds : filters.Add added) :
    filters.Restrict := by
  intro name filter found
  exact ⟨fun _ _ => added name, adds name filter found⟩

theorem Predicate.Restricts.keepsOrder {predicate : Predicate} (restricts : predicate.Restricts)
    (values : List String) : Select.KeepsOrder fun select => predicate.run select values := by
  obtain ⟨added, runs⟩ := restricts
  have folds (conditions : List Condition) :=
    Select.keepsOrder_foldl fun condition (_ : condition ∈ conditions) =>
      Select.keepsOrder_restrict condition
  constructor
  · intro select
    rw [runs]
    exact (folds _).frame select
  · intro select order
    rw [runs, runs]
    exact (folds _).reordered select order

theorem Constraint.keepsOrder_applyAll {fields : FieldSet} {filters : CustomFilters}
    (restrict : filters.Restrict) {entries : List (String × List String)}
    {constraints : List Constraint} (present : ∀ entry ∈ entries, entry.2 ≠ [])
    (resolved : List.Forall₂ (fun entry constraint => ofEntry fields filters entry = .ok constraint)
      entries constraints) : Select.KeepsOrder (applyAll constraints) := by
  refine Select.keepsOrder_foldl ?_
  intro constraint member
  obtain ⟨⟨field, values⟩, listed, made⟩ := Traversal.exists_of_mem_results resolved member
  rcases ofEntry_cases (present _ listed) made with
    ⟨filter, custom, -, rfl⟩ | ⟨column, value, -, -, -, rfl⟩ |
    ⟨column, first, second, rest, -, -, -, rfl⟩
  · exact (restrict field filter custom).keepsOrder values
  · exact Select.keepsOrder_restrict _
  · exact Select.keepsOrder_restrict _

def SortSpec.terms (spec : SortSpec) : List OrderTerm :=
  spec.fields.map Prod.snd

theorem SortSpec.apply_eq_append (spec : SortSpec) (select : Select) :
    spec.apply select = { select with order := select.order ++ spec.terms } :=
  spec.apply_eq select

theorem SortSpec.apply_comm (spec : SortSpec) {change : Select → Select}
    (keeps : Select.KeepsOrder change) (select : Select) :
    change (spec.apply select) = spec.apply (change select) := by
  rw [apply_eq_append, apply_eq_append, keeps.reordered, keeps.order]

namespace Resource

variable {resource : Resource} {request : Request} {select : Select}

/-! ## One request -/

/-- The constraints that a request asks for. -/
def constraints (resource : Resource) (request : Request) :
    Except RequestError (List Constraint) :=
  Criteria.ofFilter resource.accepts request.filter >>= fun criteria =>
    criteria.resolve resource.filterable resource.filters

theorem filter_eq (resource : Resource) (request : Request) (select : Select) :
    resource.filter request select =
      (resource.constraints request >>= fun found => .ok (Constraint.applyAll found select)) := by
  rw [filter, constraints]
  cases Criteria.ofFilter resource.accepts request.filter <;> rfl

theorem filter_of_constraints {found : List Constraint}
    (resolved : resource.constraints request = .ok found) (select : Select) :
    resource.filter request select = .ok (Constraint.applyAll found select) := by
  rw [filter_eq, resolved]
  rfl

theorem sort_of_sortSpec {spec : SortSpec} (read : resource.sortSpec request = .ok spec)
    (select : Select) : resource.sort request select = .ok (spec.apply select) := by
  rw [sort_eq, read]
  rfl

theorem keepsOrder_constraints (restrict : resource.filters.Restrict) {found : List Constraint}
    (resolved : resource.constraints request = .ok found) :
    Select.KeepsOrder (Constraint.applyAll found) := by
  obtain ⟨criteria, read, resolved⟩ := Traversal.bind_eq_ok.1 resolved
  exact Constraint.keepsOrder_applyAll restrict (Criteria.values_ne_nil_of_ofFilter read)
    (Traversal.mapM_eq_ok.1 resolved)

/-- The ordering is the one that the sort parameter asks for if there is one that is not blank, and
the default ordering if not. -/
structure OrdersBy (resource : Resource) (request : Request) (spec : SortSpec) : Prop where
  asked : ∀ text, request.sort = some text → Text.isBlank text = false →
    SortSpec.ofText resource.sortable text = .ok spec
  unasked : (∀ text, request.sort = some text → Text.isBlank text = true) →
    spec = resource.defaultSort

theorem ordersBy_of_sortSpec {spec : SortSpec} (read : resource.sortSpec request = .ok spec) :
    resource.OrdersBy request spec := by
  constructor
  · intro text present visible
    rwa [sortSpec, Request.sortText?_eq_some_iff.2 ⟨present, visible⟩] at read
  · intro blank
    rw [sortSpec, Request.sortText?_eq_none_iff.2 blank] at read
    exact (Except.ok.inj read).symm

/-- A request is answered by its filter and its ordering in either order. Each of the two has its
own part in the answer. -/
structure Separates (resource : Resource) (request : Request) (select answer : Select)
    (filtered sorted : Select) (spec : SortSpec) : Prop where
  filters : resource.filter request select = .ok filtered
  sorts : resource.sort request select = .ok sorted
  filtersFirst : resource.sort request filtered = .ok answer
  sortsFirst : resource.filter request sorted = .ok answer
  frame : answer.toFrame = select.toFrame
  condition : answer.condition = filtered.condition
  order : answer.order = select.order ++ spec.terms
  ordersBy : resource.OrdersBy request spec

theorem exists_index_iff :
    (∃ answer, resource.index request select = .ok answer) ↔
      (∃ filtered, resource.filter request select = .ok filtered) ∧
        ∃ sorted, resource.sort request select = .ok sorted := by
  simp only [index_eq_ok, sort_eq, Traversal.bind_eq_ok]
  constructor
  · intro answered
    obtain ⟨answer, filtered, spec, narrowed, read, -⟩ := answered
    exact ⟨⟨filtered, narrowed⟩, _, spec, read, rfl⟩
  · intro stages
    obtain ⟨⟨filtered, narrowed⟩, sorted, spec, read, -⟩ := stages
    exact ⟨_, filtered, spec, narrowed, read, rfl⟩

/-- The constraints and the ordering of a request make its answer, whatever the selection. -/
theorem exists_stages {answer : Select} (answered : resource.index request select = .ok answer) :
    ∃ found spec, resource.constraints request = .ok found ∧ resource.sortSpec request = .ok spec ∧
      answer = spec.apply (Constraint.applyAll found select) := by
  obtain ⟨filtered, spec, narrowed, read, rfl⟩ := index_eq_ok.1 answered
  rw [filter_eq] at narrowed
  obtain ⟨found, resolved, same⟩ := Traversal.bind_eq_ok.1 narrowed
  cases same
  exact ⟨found, spec, resolved, read, rfl⟩

theorem exists_separates (restrict : resource.filters.Restrict) {answer : Select}
    (answered : resource.index request select = .ok answer) :
    ∃ filtered sorted spec, resource.Separates request select answer filtered sorted spec := by
  obtain ⟨found, spec, resolved, read, rfl⟩ := exists_stages answered
  have keeps := keepsOrder_constraints restrict resolved
  refine ⟨Constraint.applyAll found select, spec.apply select, spec,
    filter_of_constraints resolved select, sort_of_sortSpec read select, sort_of_sortSpec read _,
    ?_, ?_, ?_, ?_, ordersBy_of_sortSpec read⟩
  · rw [filter_of_constraints resolved, spec.apply_comm keeps]
  · rw [spec.apply_eq_append]
    exact keeps.frame select
  · rw [spec.apply_eq_append]
  · rw [spec.apply_eq_append, keeps.order]

/-! ## Runs of requests -/

/-- Requests one after the other, each on what the last answer left; a request that is refused
leaves the selection as it is. The result is the requests that are answered and what is left in the
end. -/
def run (resource : Resource) : Select → List Request → List Request × Select
  | select, [] => ([], select)
  | select, request :: rest =>
    match resource.index request select with
    | .error _ => resource.run select rest
    | .ok answer =>
      let (answered, final) := resource.run answer rest
      (request :: answered, final)

def narrowBy (found : List (List Constraint)) (select : Select) : Select :=
  found.foldl (fun narrowed constraints => Constraint.applyAll constraints narrowed) select

variable {requests : List Request} {found : List (List Constraint)} {specs : List SortSpec}

theorem keepsOrder_narrowBy (restrict : resource.filters.Restrict)
    (resolved : List.Forall₂ (fun request constraints =>
      resource.constraints request = .ok constraints) requests found) :
    Select.KeepsOrder (narrowBy found) := by
  refine Select.keepsOrder_foldl ?_
  intro constraints member
  obtain ⟨request, -, made⟩ := Traversal.exists_of_mem_results resolved member
  exact keepsOrder_constraints restrict made

theorem foldlM_filter (resolved : List.Forall₂ (fun request constraints =>
      resource.constraints request = .ok constraints) requests found) (select : Select) :
    requests.foldlM (fun narrowed request => resource.filter request narrowed) select =
      .ok (narrowBy found select) := by
  induction resolved generalizing select with
  | nil => rfl
  | cons first _ ih =>
      rw [List.foldlM_cons, filter_of_constraints first]
      exact ih _

theorem foldlM_sort (read : List.Forall₂ (fun request spec =>
      resource.sortSpec request = .ok spec) requests specs) (select : Select) :
    requests.foldlM (fun ordered request => resource.sort request ordered) select =
      .ok { select with order := select.order ++ specs.flatMap SortSpec.terms } := by
  induction read generalizing select with
  | nil => simp [pure, Except.pure]
  | @cons request spec requests specs first _ ih =>
      rw [List.foldlM_cons, sort_of_sortSpec first, spec.apply_eq_append]
      refine (ih _).trans ?_
      rw [List.flatMap_cons, List.append_assoc]

/-- Each answered request adds its constraints to the conditions and its terms to the order. -/
theorem run_eq (restrict : resource.filters.Restrict) (requests : List Request) (select : Select) :
    ∃ found specs,
      List.Forall₂ (fun request constraints => resource.constraints request = .ok constraints)
        (resource.run select requests).1 found ∧
      List.Forall₂ (fun request spec => resource.sortSpec request = .ok spec)
        (resource.run select requests).1 specs ∧
      (resource.run select requests).2 =
        { narrowBy found select with order := select.order ++ specs.flatMap SortSpec.terms } := by
  induction requests generalizing select with
  | nil => exact ⟨[], [], .nil, .nil, by simp [run, narrowBy]⟩
  | cons request rest ih =>
      rw [run]
      cases verdict : resource.index request select with
      | error error => exact ih select
      | ok answer =>
          obtain ⟨first, spec, resolved, read, rfl⟩ := exists_stages verdict
          obtain ⟨found, specs, others, reads, final⟩ :=
            ih (spec.apply (Constraint.applyAll first select))
          have keepsFirst := keepsOrder_constraints restrict resolved
          have keeps := keepsOrder_narrowBy restrict others
          refine ⟨first :: found, spec :: specs, .cons resolved others, .cons read reads, ?_⟩
          rw [final, spec.apply_eq_append, keeps.reordered, keepsFirst.order]
          simp only [List.flatMap_cons, List.append_assoc]
          rfl

/-- A request is answered exactly if its filter and its ordering are accepted on their own. The two
commute then, and the answer has the conditions of the one and the order of the other. Over any run
of requests the conditions are what the filters of the answered requests leave, and the order is
what their orderings append. -/
theorem index_separates (restrict : resource.filters.Restrict) :
    (∀ request select, (∃ answer, resource.index request select = .ok answer) ↔
      (∃ filtered, resource.filter request select = .ok filtered) ∧
        ∃ sorted, resource.sort request select = .ok sorted) ∧
    (∀ request select answer, resource.index request select = .ok answer →
      ∃ filtered sorted spec, resource.Separates request select answer filtered sorted spec) ∧
    ∀ requests select answered final, resource.run select requests = (answered, final) →
      ∃ filtered sorted specs,
        answered.foldlM (fun narrowed request => resource.filter request narrowed) select =
          .ok filtered ∧
        answered.foldlM (fun ordered request => resource.sort request ordered) select =
          .ok sorted ∧
        List.Forall₂ resource.OrdersBy answered specs ∧
        final.toFrame = select.toFrame ∧ final.condition = filtered.condition ∧
        final.order = sorted.order ∧
        sorted.order = select.order ++ specs.flatMap SortSpec.terms := by
  refine ⟨fun _ _ => exists_index_iff, fun _ _ _ => exists_separates restrict, ?_⟩
  intro requests select answered final ran
  obtain ⟨found, specs, resolved, read, result⟩ := run_eq restrict requests select
  rw [ran] at resolved read result
  subst result
  exact ⟨_, _, specs, foldlM_filter resolved select, foldlM_sort read select,
    read.imp fun _ _ => ordersBy_of_sortSpec, (keepsOrder_narrowBy restrict resolved).frame select,
    rfl, rfl, rfl⟩

end Resource

/-! ## Members, the latest first -/

namespace Members

def latestFirst : Resource :=
  { resource with defaultSort := SortSpec.empty.push "id" idColumn .desc }

def ordered : Request := ⟨.fields [("login", "x")], some "login"⟩

/-- There is no such field. -/
def refused : Request := ⟨.fields [("age", "1")], some "login"⟩

def unordered : Request := ⟨.fields [("without", "a%")], some " "⟩

end Members

/-- The request in the middle is refused, and the last one gets the default ordering. -/
theorem Resource.index_separates_members :
    Members.latestFirst.filters.Restrict ∧
      ∃ final filtered sorted : Select,
        Members.latestFirst.run (.ofEntity Members.entity)
          [Members.ordered, Members.refused, Members.unordered] =
            ([Members.ordered, Members.unordered], final) ∧
        final.condition = filtered.condition ∧ final.order = sorted.order ∧
        [Members.ordered, Members.unordered].foldlM
          (fun ordered request => Members.latestFirst.sort request ordered)
          (.ofEntity Members.entity) = .ok sorted ∧
        sorted.order = [⟨Members.loginColumn, .asc⟩, ⟨Members.idColumn, .desc⟩] := by
  have restrict : Members.latestFirst.filters.Restrict := Members.adds.restrict
  obtain ⟨-, -, runs⟩ := Resource.index_separates restrict
  obtain ⟨filtered, sorted, specs, -, sorts, -, -, condition, order, -⟩ :=
    runs [Members.ordered, Members.refused, Members.unordered] (.ofEntity Members.entity) _ _ rfl
  refine ⟨restrict, _, filtered, sorted, rfl, condition, order, sorts, ?_⟩
  cases sorts
  rfl

end Listing
