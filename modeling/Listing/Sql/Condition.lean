import Listing.Value

set_option autoImplicit false

namespace Listing.Sql

/-!
# Conditions

Comparisons of columns with values, and the groups into which they are put. What belongs here is
how a further condition joins one that is already there; what a condition looks like in a
statement is said elsewhere.
-/

/-- A piece of a statement as it is written, cut at its placeholders: what stands in front of the
first one, and each bound value with what stands behind its placeholder. -/
structure Fragment where
  head : String
  parts : List (Value × String)

inductive Comparison where
  | equal (column : Column) (value : Value)
  | atLeast (column : Column) (value : Value)
  /-- The pattern is bound as it is, wildcards and all. -/
  | like (column : Column) (pattern : String)
  | oneOf (column : Column) (values : List Value)
  /-- The column occurs, or with `absent` does not occur, in a column of another table. -/
  | related (column : Column) (absent : Bool) (source : Column)
  /-- Anything else that can be asked of a row. A `compound` one needs parentheses as an operand. -/
  | written (fragment : Fragment) (compound : Bool)

/-- How the items of a group combine. -/
inductive Junction where
  | all
  | any
deriving DecidableEq, Repr

/-- A comparison, or a group of conditions that may be negated as a whole. -/
inductive Condition where
  | compare (comparison : Comparison)
  | group (junction : Junction) (negated : Bool) (items : List Condition)

namespace Condition

/-- The condition as an item of a group: a group of one item that is not negated counts as that
item. -/
def item : Condition → Condition
  | .group _ false [only] => only
  | condition => condition

/-- A group whose items all have to hold. -/
def all (items : List Condition) : Condition :=
  .group .all false (items.map item)

/-- A group of which one item has to hold. -/
def any (items : List Condition) : Condition :=
  .group .any false (items.map item)

/-- The opposite condition. A comparison counts as the group of itself. -/
def negate : Condition → Condition
  | .compare comparison => .group .all true [.compare comparison]
  | .group junction negated items => .group junction (!negated) items

/-- The items of a conjunction that is not negated. A comparison is the conjunction of itself. -/
def conjuncts? : Condition → Option (List Condition)
  | .compare comparison => some [.compare comparison]
  | .group .all false items => some items
  | .group _ _ _ => none

/-- Both conditions. Two conjunctions become one; what is no conjunction becomes an item. -/
def both (first second : Condition) : Condition :=
  match first.conjuncts?, second.conjuncts? with
  | some items, some more => .group .all false (items ++ more)
  | some items, none => .group .all false (items ++ [second.item])
  | none, _ => .group .all false [first.item, second.item]

end Condition

end Listing.Sql
