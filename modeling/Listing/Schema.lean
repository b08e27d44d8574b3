set_option autoImplicit false

namespace Listing

/-!
# Schema

The tables that can be listed and their columns.
-/

/-- What kind of values a column holds, as far as request values are read by it. -/
inductive Kind where
  | signed
  | unsigned
  | floating
  | boolean
  | uuid
  | text
deriving DecidableEq, Repr

structure Column where
  table : String
  name : String
  kind : Kind
deriving DecidableEq, Repr

/-- An entity is stored in a table with columns in a fixed order. Two entities may share a table,
so an entity has a name of its own. -/
structure Entity where
  name : String
  table : String
  columns : List Column
deriving DecidableEq, Repr

/-- The entity with the given columns, all of its own table. -/
def Entity.define (name table : String) (columns : List (String × Kind)) : Entity where
  name := name
  table := table
  columns := columns.map fun (column, kind) => ⟨table, column, kind⟩

/-- The first column of the given name. -/
def Entity.column? (entity : Entity) (name : String) : Option Column :=
  entity.columns.find? fun column => column.name = name

def Entity.columnNames (entity : Entity) : List String :=
  entity.columns.map Column.name

end Listing
