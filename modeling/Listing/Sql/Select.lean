import Listing.Sql.Condition

set_option autoImplicit false

namespace Listing.Sql

/-!
# Selections

A query for the rows of one entity: which rows, and in which order. Every operation adds to one of
the two and leaves the other alone, and the rest of the query too.
-/

/-- How rows are ordered by a column. -/
inductive Direction where
  | asc
  | desc
  /-- By the place of the value in a list of literals. What is not in the list comes last. -/
  | listed (literals : List String)
deriving DecidableEq, Repr

structure OrderTerm where
  column : Column
  direction : Direction
deriving DecidableEq, Repr

/-- What is selected, whichever rows it comes from: columns of an entity and of what is joined to
it, of no more than so many rows. -/
structure Frame where
  entity : Entity
  columns : List Column
  joins : List Fragment
  limit : Option UInt64

/-- The rows that meet a condition, if there is one, in an order whose later terms break the ties of
earlier ones. -/
structure Select extends Frame where
  condition : Option Condition
  order : List OrderTerm

namespace Select

/-- All columns of all rows, in no particular order. -/
def ofEntity (entity : Entity) : Select :=
  ⟨⟨entity, entity.columns, [], none⟩, none, []⟩

/-- Keeps only the rows that meet a further condition. -/
def restrict (select : Select) (condition : Condition) : Select :=
  match select.condition with
  | none => { select with condition := some condition }
  | some present => { select with condition := some (present.both condition) }

/-- Keeps only the rows that do not meet a condition. -/
def exclude (select : Select) (condition : Condition) : Select :=
  select.restrict condition.negate

def compare (select : Select) (comparison : Comparison) : Select :=
  select.restrict (.compare comparison)

def whereEqual (select : Select) (column : Column) (value : Value) : Select :=
  select.compare (.equal column value)

def whereOneOf (select : Select) (column : Column) (values : List Value) : Select :=
  select.compare (.oneOf column values)

/-- Orders by a further column, which breaks the ties that are left. -/
def orderBy (select : Select) (column : Column) (direction : Direction) : Select :=
  { select with order := select.order ++ [⟨column, direction⟩] }

/-! ## What each operation leaves alone -/

@[simp] theorem toFrame_restrict (select : Select) (condition : Condition) :
    (select.restrict condition).toFrame = select.toFrame := by
  unfold restrict
  split <;> rfl

@[simp] theorem order_restrict (select : Select) (condition : Condition) :
    (select.restrict condition).order = select.order := by
  unfold restrict
  split <;> rfl

/-- A further condition joins the one that is there, whatever the rest of the query. -/
theorem condition_restrict (select : Select) (condition : Condition) :
    (select.restrict condition).condition =
      some (match select.condition with
        | none => condition
        | some present => present.both condition) := by
  unfold restrict
  split <;> rfl

@[simp] theorem toFrame_orderBy (select : Select) (column : Column) (direction : Direction) :
    (select.orderBy column direction).toFrame = select.toFrame := rfl

@[simp] theorem condition_orderBy (select : Select) (column : Column) (direction : Direction) :
    (select.orderBy column direction).condition = select.condition := rfl

@[simp] theorem order_orderBy (select : Select) (column : Column) (direction : Direction) :
    (select.orderBy column direction).order = select.order ++ [⟨column, direction⟩] := rfl

end Select

end Listing.Sql
