import Listing.Resource

set_option autoImplicit false

namespace Listing

/-!
# Registries

The resources of a server, one for each entity. The first configuration of an entity stays.
-/

/-- The resource, if it is one of this entity. -/
def Resource.forEntity? (resource : Resource) (entity : Entity) : Option Resource :=
  if resource.entity = entity then some resource else none

/-- What is stored for each entity, in the order in which it came. Resources of all entities are
stored alike, so that they are stored for their own entity is a fact about the store. -/
structure Registry where
  stored : List (Entity × Resource)
  distinct : (Keyed.keys stored).Nodup
  matching : ∀ entity resource, Keyed.get? entity stored = some resource → resource.entity = entity

namespace Registry

def empty : Registry := ⟨[], List.nodup_nil, by simp [Keyed.get?]⟩

/-- The resource of an entity. What is stored for the entity has to be a resource of this entity. -/
def get? (registry : Registry) (entity : Entity) : Option Resource := do
  let resource ← Keyed.get? entity registry.stored
  resource.forEntity? entity

def isConfigured (registry : Registry) (entity : Entity) : Bool :=
  (Keyed.get? entity registry.stored).isSome

def size (registry : Registry) : Nat :=
  registry.stored.length

def isEmpty (registry : Registry) : Bool :=
  registry.stored.isEmpty

/-- What is stored for an entity is a resource of this entity. -/
theorem get?_eq (registry : Registry) (entity : Entity) :
    registry.get? entity = Keyed.get? entity registry.stored := by
  rw [get?]
  cases found : Keyed.get? entity registry.stored with
  | none => rfl
  | some resource => exact if_pos (registry.matching entity resource found)

theorem isConfigured_iff {registry : Registry} {entity : Entity} :
    registry.isConfigured entity = true ↔ entity ∈ Keyed.keys registry.stored := by
  rw [isConfigured, Option.isSome_iff_ne_none, ne_eq, Keyed.get?_eq_none_iff, Decidable.not_not]

/-- The registry with one more resource, whose entity has none yet. -/
def add (registry : Registry) (resource : Resource)
    (free : ¬ registry.isConfigured resource.entity = true) : Registry where
  stored := registry.stored ++ [(resource.entity, resource)]
  distinct := by
    rw [isConfigured_iff] at free
    rw [Keyed.keys_append, List.nodup_append]
    refine ⟨registry.distinct, by simp, ?_⟩
    intro entity present other added same
    obtain rfl : other = resource.entity := List.mem_singleton.1 added
    exact free (same ▸ present)
  matching := by
    intro entity stored found
    rw [Keyed.get?_append, Option.or_eq_some_iff] at found
    rcases found with found | ⟨-, found⟩
    · exact registry.matching entity stored found
    · simp only [Keyed.get?, Option.ite_none_right_eq_some, Option.some.injEq] at found
      obtain ⟨same, rfl⟩ := found
      exact same

/-- Adds a resource, unless its entity already has one. -/
def configure (registry : Registry) (resource : Resource) : Except ConfigError Registry :=
  if taken : registry.isConfigured resource.entity = true then
    .error (.alreadyConfigured resource.entity.table)
  else .ok (registry.add resource taken)

/-- A further resource changes what is found for its own entity alone. -/
theorem get?_add (registry : Registry) (resource : Resource)
    (free : ¬ registry.isConfigured resource.entity = true) (entity : Entity) :
    (registry.add resource free).get? entity =
      if entity = resource.entity then some resource else registry.get? entity := by
  rw [isConfigured_iff, ← Keyed.get?_eq_none_iff] at free
  rw [get?_eq, get?_eq, add, Keyed.get?_append]
  by_cases same : entity = resource.entity
  · subst same
    simp [free, Keyed.get?]
  · simp [Keyed.get?, same, Ne.symm same]

/-- Filters and sorts a selection as the resource of an entity does. -/
def index (registry : Registry) (entity : Entity) (request : Request) (select : Sql.Select) :
    Except RequestError Sql.Select :=
  match registry.get? entity with
  | none => .error (.notConfigured entity.table)
  | some resource => resource.index request select

theorem index_of_get? {registry : Registry} {entity : Entity} {resource : Resource}
    (found : registry.get? entity = some resource) (request : Request) (select : Sql.Select) :
    registry.index entity request select = resource.index request select := by
  rw [index, found]

theorem index_of_absent {registry : Registry} {entity : Entity}
    (absent : registry.get? entity = none) (request : Request) (select : Sql.Select) :
    registry.index entity request select = .error (.notConfigured entity.table) := by
  rw [index, absent]

end Registry

end Listing
