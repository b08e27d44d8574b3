import Listing.Error
import Listing.Schema

set_option autoImplicit false

namespace Listing

/-!
# Field sets

Which fields of an entity a request may name, and the column behind each of them.
-/

/-- Field names in a fixed order, each bound to a column. -/
structure FieldSet where
  fields : List (String × Column)

namespace FieldSet

/-- Every column of the entity, in declaration order. -/
def all (entity : Entity) : FieldSet :=
  ⟨entity.columns.map fun column => (column.name, column)⟩

def none : FieldSet := ⟨[]⟩

/-- The column bound to a name. -/
def column? (set : FieldSet) (name : String) : Option Column :=
  (set.fields.find? fun field => field.1 = name).map Prod.snd

def contains (set : FieldSet) (name : String) : Bool :=
  set.fields.any fun field => field.1 = name

def names (set : FieldSet) : List String :=
  set.fields.map Prod.fst

def size (set : FieldSet) : Nat :=
  set.fields.length

def isEmpty (set : FieldSet) : Bool :=
  set.fields.isEmpty

/-- The named column of an entity as an entry. -/
def entry (entity : Entity) (name : String) : Except ConfigError (String × Column) :=
  match (all entity).column? name with
  | some column => .ok (name, column)
  | .none => .error (.unknownField entity.table name)

/-- The named columns, in the given order and as often as they are named. -/
def only (entity : Entity) (names : List String) : Except ConfigError FieldSet :=
  (names.mapM (entry entity)).map FieldSet.mk

/-- Every column but the named ones, in declaration order. -/
def except (entity : Entity) (names : List String) : Except ConfigError FieldSet :=
  match names.find? fun name => !(all entity).contains name with
  | some unknown => .error (.unknownField entity.table unknown)
  | .none => .ok ⟨(all entity).fields.filter fun field => !names.contains field.1⟩

/-! ## Looking a name up -/

theorem contains_iff_mem_names {set : FieldSet} {name : String} :
    set.contains name = true ↔ name ∈ set.names := by
  simp [contains, names]

/-- A name belongs to the set exactly when a column is bound to it. -/
theorem contains_eq_isSome_column? (set : FieldSet) (name : String) :
    set.contains name = (set.column? name).isSome := by
  rw [contains, column?, Option.isSome_map, List.isSome_find?]

end FieldSet

end Listing
