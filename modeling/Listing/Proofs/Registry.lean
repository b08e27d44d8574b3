import Listing.Proofs.Http.Endpoint
import Mathlib.Data.List.Dedup

set_option autoImplicit false

/-!
# Registries over time

A registry goes through a history of operations: resources are configured, looked up and asked. What
it answers about an entity is settled by the first configuration of that entity, whatever is done
for others in between.
-/

namespace Listing

open Sql (Select)

namespace Registry

/-! ## Histories -/

inductive Operation where
  | configure (resource : Resource)
  | get (entity : Entity)
  | isConfigured (entity : Entity)
  | index (entity : Entity) (request : Request) (select : Select)

inductive Answer where
  | configured (outcome : Except ConfigError Unit)
  | found (resource : Option Resource)
  | known (configured : Bool)
  | indexed (outcome : Except RequestError Select)

namespace Operation

/-- The entity that an operation is about. -/
def entity : Operation → Entity
  | .configure resource => resource.entity
  | .get entity | .isConfigured entity | .index entity _ _ => entity

def configured? : Operation → Option Entity
  | .configure resource => some resource.entity
  | _ => none

/-- The resource that an operation brings for an entity. -/
def resourceFor? (entity : Entity) : Operation → Option Resource
  | .configure resource => resource.forEntity? entity
  | _ => none

end Operation

/-- The registry that an operation leaves, and its answer. A refused configuration leaves the
registry as it was. -/
def perform (registry : Registry) : Operation → Registry × Answer
  | .configure resource =>
    match registry.configure resource with
    | .ok extended => (extended, .configured (.ok ()))
    | .error refused => (registry, .configured (.error refused))
  | .get entity => (registry, .found (registry.get? entity))
  | .isConfigured entity => (registry, .known (registry.isConfigured entity))
  | .index entity request select => (registry, .indexed (registry.index entity request select))

def run (registry : Registry) (history : List Operation) : Registry :=
  history.foldl (fun reached operation => (reached.perform operation).1) registry

/-- What an operation answers after a history that begins with an empty registry. -/
def answer (history : List Operation) (operation : Operation) : Answer :=
  ((empty.run history).perform operation).2

/-- The entities that a history configures, or tries to. -/
def configuredEntities (history : List Operation) : List Entity :=
  history.filterMap Operation.configured?

/-- The history configures the entity of this resource, and does so by this resource first. -/
def FirstConfigured (history : List Operation) (resource : Resource) : Prop :=
  ∃ before after, history = before ++ .configure resource :: after ∧
    resource.entity ∉ configuredEntities before

variable {registry other : Registry} {resource : Resource} {entity : Entity}
  {operation : Operation} {history : List Operation}

theorem run_concat (registry : Registry) (history : List Operation) (operation : Operation) :
    registry.run (history ++ [operation]) = ((registry.run history).perform operation).1 :=
  List.foldl_concat ..

theorem resourceFor?_eq_some :
    operation.resourceFor? entity = some resource ↔
      operation = .configure resource ∧ resource.entity = entity := by
  cases operation with
  | get | isConfigured | index => simp [Operation.resourceFor?]
  | configure configured =>
      simp only [Operation.resourceFor?, Resource.forEntity?, Option.ite_none_right_eq_some,
        Option.some.injEq, Operation.configure.injEq]
      constructor
      · rintro ⟨same, rfl⟩
        exact ⟨rfl, same⟩
      · rintro ⟨rfl, same⟩
        exact ⟨same, rfl⟩

theorem forall_resourceFor?_eq_none :
    (∀ operation ∈ history, operation.resourceFor? entity = none) ↔
      entity ∉ configuredEntities history := by
  have each (operation : Operation) :
      operation.resourceFor? entity = none ↔ operation.configured? ≠ some entity := by
    cases operation <;> simp [Operation.resourceFor?, Operation.configured?, Resource.forEntity?]
  simp [each, configuredEntities]

/-! ## One operation -/

theorem isConfigured_eq (registry : Registry) (entity : Entity) :
    registry.isConfigured entity = (registry.get? entity).isSome := by
  rw [get?_eq]
  rfl

theorem configure_of_absent (absent : registry.get? resource.entity = none) :
    ∃ free, registry.configure resource = .ok (registry.add resource free) := by
  have free : ¬ registry.isConfigured resource.entity = true := by
    simp [isConfigured_eq, absent]
  exact ⟨free, dif_neg free⟩

theorem configure_of_present (present : (registry.get? resource.entity).isSome = true) :
    registry.configure resource = .error (.alreadyConfigured resource.entity.table) :=
  dif_pos ((isConfigured_eq registry resource.entity).trans present)

/-- An operation brings its resource where there was none, and changes nothing else. -/
theorem get?_perform (registry : Registry) (operation : Operation) (entity : Entity) :
    (registry.perform operation).1.get? entity =
      (registry.get? entity).or (operation.resourceFor? entity) := by
  cases operation with
  | get | isConfigured | index => exact (Option.or_none).symm
  | configure resource =>
      cases present : registry.get? resource.entity with
      | none =>
          obtain ⟨free, added⟩ := configure_of_absent present
          simp only [perform, added, get?_add, Operation.resourceFor?, Resource.forEntity?]
          by_cases same : entity = resource.entity
          · simp [same, present]
          · simp [same, Ne.symm same]
      | some first =>
          have refused := configure_of_present (Option.isSome_of_eq_some present)
          simp only [perform, refused, Operation.resourceFor?, Resource.forEntity?]
          by_cases same : resource.entity = entity
          · simp [← same, present]
          · simp [same]

theorem perform_configure_of_absent (absent : registry.get? resource.entity = none) :
    (registry.perform (.configure resource)).2 = .configured (.ok ()) := by
  obtain ⟨free, added⟩ := configure_of_absent absent
  rw [perform, added]

theorem perform_configure_of_present
    (present : (registry.get? resource.entity).isSome = true) :
    registry.perform (.configure resource) =
      (registry, .configured (.error (.alreadyConfigured resource.entity.table))) := by
  rw [perform, configure_of_present present]

/-- The answer to an operation depends on what is found for its entity alone. -/
theorem answer_congr (agree : registry.get? operation.entity = other.get? operation.entity) :
    (registry.perform operation).2 = (other.perform operation).2 := by
  cases operation with
  | configure resource =>
      replace agree : registry.get? resource.entity = other.get? resource.entity := agree
      cases found : other.get? resource.entity with
      | none =>
          rw [perform_configure_of_absent found, perform_configure_of_absent (agree.trans found)]
      | some first =>
          have present : (other.get? resource.entity).isSome = true := Option.isSome_of_eq_some found
          rw [perform_configure_of_present present,
            perform_configure_of_present (agree ▸ present)]
  | get => exact congrArg Answer.found agree
  | isConfigured entity =>
      have same : registry.isConfigured entity = other.isConfigured entity := by
        rw [isConfigured_eq, isConfigured_eq]
        exact congrArg Option.isSome agree
      exact congrArg Answer.known same
  | index entity request select =>
      replace agree : registry.get? entity = other.get? entity := agree
      have same : registry.index entity request select = other.index entity request select := by
        rw [index, index, agree]
      exact congrArg Answer.indexed same

/-! ## Every history -/

/-- What is found in the end was there before, or it is the first that the history brings. -/
theorem get?_run (registry : Registry) (history : List Operation) (entity : Entity) :
    (registry.run history).get? entity =
      (registry.get? entity).or (history.findSome? (Operation.resourceFor? entity)) := by
  induction history generalizing registry with
  | nil => exact (Option.or_none).symm
  | cons operation rest ih =>
      refine (ih _).trans ?_
      rw [get?_perform, Option.or_assoc, List.findSome?_cons]
      cases operation.resourceFor? entity <;> rfl

theorem get?_run_eq_none_iff :
    (empty.run history).get? entity = none ↔ entity ∉ configuredEntities history := by
  rw [get?_run, ← forall_resourceFor?_eq_none]
  exact List.findSome?_eq_none_iff

theorem isSome_get?_run_iff :
    ((empty.run history).get? entity).isSome = true ↔ entity ∈ configuredEntities history := by
  rw [Option.isSome_iff_ne_none, ne_eq, get?_run_eq_none_iff, Decidable.not_not]

theorem get?_run_eq_some_iff :
    (empty.run history).get? entity = some resource ↔
      resource.entity = entity ∧ FirstConfigured history resource := by
  have found : (empty.run history).get? entity =
      history.findSome? (Operation.resourceFor? entity) := get?_run ..
  rw [found, List.findSome?_eq_some_iff]
  constructor
  · rintro ⟨before, operation, after, rfl, brings, earlier⟩
    obtain ⟨rfl, rfl⟩ := resourceFor?_eq_some.1 brings
    exact ⟨rfl, before, after, rfl, forall_resourceFor?_eq_none.1 earlier⟩
  · rintro ⟨rfl, before, after, rfl, fresh⟩
    exact ⟨before, _, after, rfl, resourceFor?_eq_some.2 ⟨rfl, rfl⟩,
      forall_resourceFor?_eq_none.2 fresh⟩

/-- It makes no difference to an entity whether anything is done for others. -/
theorem get?_run_filter (history : List Operation) (entity : Entity) :
    (empty.run (history.filter fun operation => operation.entity = entity)).get? entity =
      (empty.run history).get? entity := by
  rw [get?_run, get?_run]
  congr 1
  induction history with
  | nil => rfl
  | cons operation rest ih =>
      by_cases about : operation.entity = entity
      · rw [List.filter_cons_of_pos (by simpa using about), List.findSome?_cons,
          List.findSome?_cons, ih]
      · have brings : operation.resourceFor? entity = none := by
          rw [Option.eq_none_iff_forall_ne_some]
          intro resource found
          obtain ⟨rfl, same⟩ := resourceFor?_eq_some.1 found
          exact about same
        rw [List.filter_cons_of_neg (by simpa using about), List.findSome?_cons, brings, ih]

theorem mem_keys_run_iff :
    entity ∈ Keyed.keys (empty.run history).stored ↔ entity ∈ configuredEntities history := by
  rw [← isConfigured_iff, isConfigured_eq, isSome_get?_run_iff]

theorem size_run (history : List Operation) :
    (empty.run history).size = (configuredEntities history).dedup.length := by
  have same : (Keyed.keys (empty.run history).stored).Perm (configuredEntities history).dedup :=
    (List.perm_ext_iff_of_nodup (empty.run history).distinct (List.nodup_dedup _)).2 fun _ =>
      mem_keys_run_iff.trans List.mem_dedup.symm
  rw [← same.length_eq, Keyed.keys, List.length_map, size]

theorem isEmpty_run_iff :
    (empty.run history).isEmpty = true ↔ configuredEntities history = [] := by
  rw [isEmpty, List.isEmpty_iff, ← List.map_eq_nil_iff, List.eq_nil_iff_forall_not_mem,
    List.eq_nil_iff_forall_not_mem]
  exact forall_congr' fun _ => not_congr mem_keys_run_iff

theorem run_configured (present : resource.entity ∈ configuredEntities history) :
    (empty.run history).perform (.configure resource) =
      (empty.run history,
        .configured (.error (.alreadyConfigured resource.entity.table))) :=
  perform_configure_of_present (isSome_get?_run_iff.2 present)

theorem answer_configure_iff :
    answer history (.configure resource) = .configured (.ok ()) ↔
      resource.entity ∉ configuredEntities history := by
  constructor
  · intro accepted present
    rw [answer, run_configured present] at accepted
    cases accepted
  · intro fresh
    exact perform_configure_of_absent (get?_run_eq_none_iff.2 fresh)

/-- Only an entity without a resource is told so: no resource answers in these words. -/
theorem answer_index_iff {request : Request} {select : Select} {table : String} :
    answer history (.index entity request select) = .indexed (.error (.notConfigured table)) ↔
      entity ∉ configuredEntities history ∧ table = entity.table := by
  simp only [answer, perform, Answer.indexed.injEq]
  rw [← get?_run_eq_none_iff]
  cases found : (empty.run history).get? entity with
  | none =>
      rw [index_of_absent found]
      simp [eq_comm]
  | some resource =>
      rw [index_of_get? found]
      constructor
      · intro failed
        have toBlame := (Resource.refused_of_index failed).isClientError
        cases toBlame
      · intro absurdity
        cases absurdity.1

/-- Over every history the first configuration of an entity stays: a later one is refused and
changes nothing, the entity is answered by the first one, and nothing that is done for other
entities shows. -/
theorem first_configuration_stays (history : List Operation) :
    (∀ resource : Resource,
      (answer history (.configure resource) = .configured (.ok ()) ↔
        resource.entity ∉ configuredEntities history) ∧
      (resource.entity ∈ configuredEntities history →
        answer history (.configure resource) =
          .configured (.error (.alreadyConfigured resource.entity.table)) ∧
        empty.run (history ++ [.configure resource]) = empty.run history)) ∧
    (∀ entity : Entity,
      (∀ resource, answer history (.get entity) = .found (some resource) ↔
        resource.entity = entity ∧ FirstConfigured history resource) ∧
      (answer history (.get entity) = .found none ↔ entity ∉ configuredEntities history) ∧
      answer history (.isConfigured entity) =
        .known (decide (entity ∈ configuredEntities history))) ∧
    (∀ request select,
      (∀ resource, FirstConfigured history resource →
        answer history (.index resource.entity request select) =
          .indexed (resource.index request select)) ∧
      ∀ entity table,
        answer history (.index entity request select) =
            .indexed (.error (.notConfigured table)) ↔
          entity ∉ configuredEntities history ∧ table = entity.table) ∧
    (∀ operation,
      answer history operation =
        answer (history.filter fun earlier => earlier.entity = operation.entity) operation) ∧
    (empty.run history).size = (configuredEntities history).dedup.length ∧
    ((empty.run history).isEmpty = true ↔ configuredEntities history = []) := by
  refine ⟨fun resource => ⟨answer_configure_iff, fun present => ⟨?_, ?_⟩⟩,
    fun entity => ⟨fun resource => ?_, ?_, ?_⟩,
    fun request select => ⟨fun resource first => ?_, fun entity table => answer_index_iff⟩,
    fun operation => answer_congr (get?_run_filter history operation.entity).symm,
    size_run history, isEmpty_run_iff⟩
  · rw [answer, run_configured present]
  · rw [run_concat, run_configured present]
  · simp only [answer, perform, Answer.found.injEq]
    exact get?_run_eq_some_iff
  · simp only [answer, perform, Answer.found.injEq]
    exact get?_run_eq_none_iff
  · simp only [answer, perform, Answer.known.injEq]
    rw [isConfigured_eq, Bool.eq_iff_iff, isSome_get?_run_iff, decide_eq_true_iff]
  · have found := get?_run_eq_some_iff.2 ⟨rfl, first⟩
    exact congrArg Answer.indexed (index_of_get? found request select)

end Registry

namespace Members

/-- Another view of the table of members, which only tells their logins. -/
def logins : Resource where
  entity := ⟨"logins", "members", [loginColumn]⟩
  filterable := .none
  sortable := .none
  defaultSort := .empty
  filters := .empty

/-- Both views of the table are configured, and in between the second is looked for. -/
def views : List Registry.Operation :=
  [.configure resource, .get logins.entity, .configure logins]

end Members

open Members in
theorem Registry.first_configuration_stays_views :
    Registry.answer views (.configure { resource with filterable := .none }) =
        .configured (.error (.alreadyConfigured "members")) ∧
      Registry.answer views (.index entity (request "a" "1") (.ofEntity entity)) =
        .indexed (resource.index (request "a" "1") (.ofEntity entity)) ∧
      Registry.answer views (.get logins.entity) =
        Registry.answer [.get logins.entity, .configure logins] (.get logins.entity) ∧
      (Registry.empty.run views).size = 2 := by
  obtain ⟨configured, -, indexed, alone, size, -⟩ := Registry.first_configuration_stays views
  refine ⟨((configured _).2 (by decide)).1, (indexed _ _).1 resource ⟨[], _, rfl, by decide⟩,
    ?_, size.trans (by decide)⟩
  exact alone (.get logins.entity)

end Listing
