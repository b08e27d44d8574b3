import Listing.Sql.Statement

set_option autoImplicit false

/-!
# Evaluating conditions

Values computed along the expression of a condition, be they truth values or the values bound to
its placeholders. However a further condition joins the one that is there, the result is worth the
two of them joined: `eval_both` and `eval_restrict`.
-/

namespace Listing.Sql

variable {α : Type}

/-- What the connectives of an expression are worth. The laws are those by which a chain of
operands may be regrouped and begun or ended with the constant that changes nothing. -/
structure Interpretation (α : Type) where
  constant : Bool → α
  not : α → α
  join : Junction → α → α → α
  join_assoc : ∀ junction a b c,
    join junction (join junction a b) c = join junction a (join junction b c)
  constant_join : ∀ junction a, join junction (constant (junction == .all)) a = a
  join_constant : ∀ junction a, join junction a (constant (junction == .all)) = a

namespace Interpretation

/-- What adds nothing to a chain. -/
def neutral (interpretation : Interpretation α) (junction : Junction) : α :=
  interpretation.constant (junction == .all)

/-- Any number of operands in one chain. -/
def joinAll (interpretation : Interpretation α) (junction : Junction) (operands : List α) : α :=
  operands.foldr (interpretation.join junction) (interpretation.neutral junction)

def negateIf (interpretation : Interpretation α) (negated : Bool) (operand : α) : α :=
  if negated then interpretation.not operand else operand

variable (interpretation : Interpretation α) (junction : Junction)

@[simp] theorem neutral_join (operand : α) :
    interpretation.join junction (interpretation.neutral junction) operand = operand :=
  interpretation.constant_join junction operand

@[simp] theorem join_neutral (operand : α) :
    interpretation.join junction operand (interpretation.neutral junction) = operand :=
  interpretation.join_constant junction operand

@[simp] theorem joinAll_nil :
    interpretation.joinAll junction [] = interpretation.neutral junction := rfl

@[simp] theorem joinAll_cons (operand : α) (operands : List α) :
    interpretation.joinAll junction (operand :: operands) =
      interpretation.join junction operand (interpretation.joinAll junction operands) := rfl

theorem joinAll_append (first second : List α) :
    interpretation.joinAll junction (first ++ second) =
      interpretation.join junction (interpretation.joinAll junction first)
        (interpretation.joinAll junction second) := by
  induction first with
  | nil => simp
  | cons operand rest ih =>
      rw [List.cons_append, joinAll_cons, ih, joinAll_cons, interpretation.join_assoc]

/-- Chains within a chain of the same kind count as their operands. -/
theorem joinAll_flatten (groups : List (List α)) :
    interpretation.joinAll junction groups.flatten =
      interpretation.joinAll junction (groups.map (interpretation.joinAll junction)) := by
  induction groups with
  | nil => rfl
  | cons group rest ih => rw [List.flatten_cons, joinAll_append, ih, List.map_cons, joinAll_cons]

end Interpretation

/-! ## Expressions and conditions -/

/-- The worth of an expression whose comparisons are worth what `leaf` says. -/
def Expression.eval (interpretation : Interpretation α) (leaf : Comparison → α) : Expression → α
  | .constant value => interpretation.constant value
  | .leaf comparison => leaf comparison
  | .not operand => interpretation.not (operand.eval interpretation leaf)
  | .chain junction left right =>
    interpretation.join junction (left.eval interpretation leaf) (right.eval interpretation leaf)

/-- A condition is worth what the expression is worth as which it is sent. -/
def Condition.eval (interpretation : Interpretation α) (leaf : Comparison → α)
    (condition : Condition) : α :=
  condition.expression.eval interpretation leaf

/-- The worth of the condition of a selection. Without a condition every row is wanted. -/
def Select.eval (interpretation : Interpretation α) (leaf : Comparison → α) (select : Select) : α :=
  match select.condition with
  | none => interpretation.constant true
  | some condition => condition.eval interpretation leaf

variable (interpretation : Interpretation α) (leaf : Comparison → α)

theorem Expression.eval_negateIf (negated : Bool) (expression : Expression) :
    (expression.negateIf negated).eval interpretation leaf =
      interpretation.negateIf negated (expression.eval interpretation leaf) := by
  cases negated <;> rfl

theorem eval_extendChain (junction : Junction) (left : Expression) (items : List Condition) :
    (extendChain junction left items).eval interpretation leaf =
      interpretation.join junction (left.eval interpretation leaf)
        (interpretation.joinAll junction (items.map (Condition.eval interpretation leaf))) := by
  induction items generalizing left with
  | nil => simp [extendChain]
  | cons item rest ih =>
      rw [extendChain, ih, Expression.eval, interpretation.join_assoc, List.map_cons,
        Interpretation.joinAll_cons]
      rfl

namespace Condition

theorem eval_group (junction : Junction) (negated : Bool) (items : List Condition) :
    (group junction negated items).eval interpretation leaf =
      interpretation.negateIf negated
        (interpretation.joinAll junction (items.map (Condition.eval interpretation leaf))) := by
  cases items with
  | nil => rw [Condition.eval, Condition.expression, Expression.eval_negateIf]; rfl
  | cons first rest =>
      rw [Condition.eval, Condition.expression, Expression.eval_negateIf, eval_extendChain]
      rfl

theorem eval_plainGroup (items : List Condition) :
    (group .all false items).eval interpretation leaf =
      interpretation.joinAll .all (items.map (Condition.eval interpretation leaf)) := by
  rw [eval_group]
  rfl

theorem eval_item (condition : Condition) :
    condition.item.eval interpretation leaf = condition.eval interpretation leaf := by
  unfold item
  split
  · rw [eval_group]
    simp [Interpretation.negateIf]
  · rfl

theorem eval_of_conjuncts {condition : Condition} {items : List Condition}
    (conjuncts : condition.conjuncts? = some items) :
    condition.eval interpretation leaf =
      interpretation.joinAll .all (items.map (Condition.eval interpretation leaf)) := by
  unfold conjuncts? at conjuncts
  split at conjuncts
  · cases conjuncts
    simp
  · cases conjuncts
    exact eval_plainGroup interpretation leaf items
  · cases conjuncts

/-- Whichever way the two conditions are put together, the result is worth both. -/
theorem eval_both (first second : Condition) :
    (first.both second).eval interpretation leaf =
      interpretation.join .all (first.eval interpretation leaf)
        (second.eval interpretation leaf) := by
  unfold both
  split
  · next items more firstItems secondItems =>
      rw [eval_plainGroup, List.map_append, Interpretation.joinAll_append,
        eval_of_conjuncts interpretation leaf firstItems,
        eval_of_conjuncts interpretation leaf secondItems]
  · next items firstItems _ =>
      rw [eval_plainGroup, List.map_append, Interpretation.joinAll_append,
        eval_of_conjuncts interpretation leaf firstItems]
      simp [eval_item]
  · rw [eval_plainGroup]
    simp [eval_item]

end Condition

/-! ## Selections -/

namespace Select

/-- A restricted selection is worth what it was worth before, and the new condition. -/
theorem eval_restrict (select : Select) (condition : Condition) :
    (select.restrict condition).eval interpretation leaf =
      interpretation.join .all (select.eval interpretation leaf)
        (condition.eval interpretation leaf) := by
  unfold Select.eval
  rw [condition_restrict]
  cases select.condition with
  | none => exact (interpretation.constant_join .all _).symm
  | some present => exact Condition.eval_both interpretation leaf present condition

theorem eval_foldl_restrict (select : Select) (conditions : List Condition) :
    (conditions.foldl restrict select).eval interpretation leaf =
      interpretation.join .all (select.eval interpretation leaf)
        (interpretation.joinAll .all (conditions.map (Condition.eval interpretation leaf))) := by
  induction conditions generalizing select with
  | nil => simp
  | cons condition rest ih =>
      rw [List.foldl_cons, ih, eval_restrict, interpretation.join_assoc, List.map_cons,
        Interpretation.joinAll_cons]

end Select

end Listing.Sql
