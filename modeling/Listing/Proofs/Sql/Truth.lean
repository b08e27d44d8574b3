import Listing.Proofs.Sql.Evaluation

set_option autoImplicit false

/-!
# Truth of conditions

What a statement asks of a row, once every comparison has a truth value there: one of two, or one
of the three of SQL.
-/

namespace Listing.Sql

variable {α : Type}

/-- Truth values with the connectives of SQL, of which the operands may be reordered. -/
structure Logic (α : Type) extends Interpretation α where
  join_comm : ∀ junction a b, join junction a b = join junction b a

def Logic.boolean : Logic Bool where
  constant := id
  not := Bool.not
  join
    | .all => Bool.and
    | .any => Bool.or
  join_assoc junction a b c := by cases junction <;> cases a <;> cases b <;> cases c <;> rfl
  constant_join junction a := by cases junction <;> cases a <;> rfl
  join_constant junction a := by cases junction <;> cases a <;> rfl
  join_comm junction a b := by cases junction <;> cases a <;> cases b <;> rfl

/-- The truth values of SQL: of a missing value no comparison is known to hold or not to hold. -/
inductive Truth where
  | false
  | unknown
  | true
deriving DecidableEq, Repr

namespace Truth

def not : Truth → Truth
  | .false => .true
  | .unknown => .unknown
  | .true => .false

def and : Truth → Truth → Truth
  | .false, _ => .false
  | .unknown, .false => .false
  | .unknown, _ => .unknown
  | .true, other => other

def or : Truth → Truth → Truth
  | .true, _ => .true
  | .unknown, .true => .true
  | .unknown, _ => .unknown
  | .false, other => other

end Truth

/-- The three-valued logic of SQL. -/
def Logic.ternary : Logic Truth where
  constant value := if value then .true else .false
  not := Truth.not
  join
    | .all => Truth.and
    | .any => Truth.or
  join_assoc junction a b c := by cases junction <;> cases a <;> cases b <;> cases c <;> rfl
  constant_join junction a := by cases junction <;> cases a <;> rfl
  join_constant junction a := by cases junction <;> cases a <;> rfl
  join_comm junction a b := by cases junction <;> cases a <;> cases b <;> rfl

namespace Logic

theorem joinAll_perm (logic : Logic α) (junction : Junction) {first second : List α}
    (reordered : first.Perm second) : logic.joinAll junction first = logic.joinAll junction second := by
  induction reordered with
  | nil => rfl
  | cons operand _ ih => rw [Interpretation.joinAll_cons, Interpretation.joinAll_cons, ih]
  | swap earlier later rest =>
      simp only [Interpretation.joinAll_cons]
      rw [← logic.join_assoc, logic.join_comm junction later earlier, logic.join_assoc]
  | trans _ _ leftIH rightIH => exact leftIH.trans rightIH

end Logic

/-- The truth value of a condition on a row where the comparisons have those of `leaf`. -/
abbrev Condition.truth (logic : Logic α) (leaf : Comparison → α) (condition : Condition) : α :=
  condition.eval logic.toInterpretation leaf

/-- Whether a selection wants a row where the comparisons have the truth values of `leaf`. -/
abbrev Select.truth (logic : Logic α) (leaf : Comparison → α) (select : Select) : α :=
  select.eval logic.toInterpretation leaf

end Listing.Sql
