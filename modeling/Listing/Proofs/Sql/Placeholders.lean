import Listing.Proofs.Sql.Evaluation

set_option autoImplicit false

/-!
# Placeholders

The values of a statement stand apart from its text. They are bound in the order in which the
conditions were added, and the text is that of the shape that is left when they are forgotten.
-/

namespace Listing.Sql

/-! ## Bound values -/

/-- The values bound to the placeholders, from left to right. -/
def Interpretation.collect : Interpretation (List Value) where
  constant _ := []
  not values := values
  join _ first second := first ++ second
  join_assoc _ first second third := List.append_assoc first second third
  constant_join _ values := List.nil_append values
  join_constant _ values := List.append_nil values

theorem Interpretation.joinAll_collect (junction : Junction) (operands : List (List Value)) :
    Interpretation.collect.joinAll junction operands = operands.flatten := by
  induction operands with
  | nil => rfl
  | cons operand rest ih => rw [joinAll_cons, ih, List.flatten_cons]; rfl

theorem Expression.eval_collect (expression : Expression) :
    expression.eval .collect Comparison.params = expression.params := by
  induction expression with
  | constant value => rfl
  | leaf comparison => rfl
  | not operand ih => exact ih
  | chain junction left right leftIH rightIH =>
      rw [Expression.eval, leftIH, rightIH, Expression.params]
      rfl

def Condition.params (condition : Condition) : List Value :=
  condition.expression.params

namespace Select

theorem eval_collect (select : Select) :
    select.eval .collect Comparison.params = whereParams select.condition := by
  unfold eval whereParams
  cases select.condition with
  | none => rfl
  | some condition => exact condition.expression.eval_collect

theorem toFrame_foldl_restrict (select : Select) (conditions : List Condition) :
    (conditions.foldl restrict select).toFrame = select.toFrame := by
  induction conditions generalizing select with
  | nil => rfl
  | cons condition rest ih => rw [List.foldl_cons, ih, toFrame_restrict]

theorem whereParams_foldl_restrict (select : Select) (conditions : List Condition) :
    whereParams (conditions.foldl restrict select).condition =
      whereParams select.condition ++ conditions.flatMap Condition.params := by
  have each : conditions.map (Condition.eval .collect Comparison.params) =
      conditions.map Condition.params :=
    List.map_congr_left fun condition _ => condition.expression.eval_collect
  rw [← eval_collect, eval_foldl_restrict, eval_collect, Interpretation.joinAll_collect, each,
    List.flatMap_def]
  rfl

/-- Restricting a selection binds further values behind those of the conditions that are there. -/
theorem params_foldl_restrict (select : Select) (conditions : List Condition) :
    (conditions.foldl restrict select).params =
      select.joinParams ++ whereParams select.condition ++ conditions.flatMap Condition.params ++
        select.limitParams := by
  rw [params, whereParams_foldl_restrict, toFrame_foldl_restrict, ← List.append_assoc]

end Select

/-! ## Shapes -/

/-- Stands in a shape for every bound value. -/
def hole : Value := .bool false

def Fragment.shape (fragment : Fragment) : Fragment :=
  { fragment with parts := fragment.parts.map fun part => (hole, part.2) }

/-- The comparison with its values forgotten, but not their number. -/
def Comparison.shape : Comparison → Comparison
  | .equal column _ => .equal column hole
  | .atLeast column _ => .atLeast column hole
  | .like column _ => .like column ""
  | .oneOf column values => .oneOf column (values.map fun _ => hole)
  | .related column absent source => .related column absent source
  | .written fragment compound => .written fragment.shape compound

mutual

/-- The condition with its values forgotten. -/
def Condition.shape : Condition → Condition
  | .compare comparison => .compare comparison.shape
  | .group junction negated items => .group junction negated (shapes items)

def shapes : List Condition → List Condition
  | [] => []
  | item :: items => item.shape :: shapes items

end

def Expression.shape : Expression → Expression
  | .constant value => .constant value
  | .leaf comparison => .leaf comparison.shape
  | .not operand => .not operand.shape
  | .chain junction left right => .chain junction left.shape right.shape

def Select.shape (select : Select) : Select :=
  { select with condition := select.condition.map Condition.shape }

theorem shapes_eq_map (items : List Condition) : shapes items = items.map Condition.shape := by
  induction items with
  | nil => rw [shapes, List.map_nil]
  | cons item rest ih => rw [shapes, ih, List.map_cons]

/-! ### Shapes and texts -/

theorem Comparison.text_shape (comparison : Comparison) :
    comparison.shape.text = comparison.text := by
  cases comparison with
  | oneOf column values =>
      cases values with
      | nil => rfl
      | cons value rest =>
          simp only [Comparison.shape, Comparison.text, List.map_cons, List.map_map]
          rfl
  | written fragment compound =>
      simp only [Comparison.shape, Comparison.text, Fragment.shape, Fragment.text, List.map_map]
      rfl
  | _ => rfl

theorem Comparison.isCompound_shape (comparison : Comparison) :
    comparison.shape.isCompound = comparison.isCompound := by
  cases comparison <;> rfl

namespace Expression

theorem isCompound_shape (expression : Expression) :
    expression.shape.isCompound = expression.isCompound := by
  cases expression with
  | leaf comparison => exact comparison.isCompound_shape
  | _ => rfl

theorem continues_shape (junction : Junction) (expression : Expression) :
    expression.shape.continues junction = expression.continues junction := by
  cases expression <;> rfl

theorem text_shape (expression : Expression) : expression.shape.text = expression.text := by
  induction expression with
  | constant value => rfl
  | leaf comparison => exact comparison.text_shape
  | not operand ih => rw [shape, text, text, isCompound_shape, ih]
  | chain junction left right leftIH rightIH =>
      rw [shape, text, text, isCompound_shape, isCompound_shape, continues_shape, leftIH, rightIH]

theorem shape_negateIf (negated : Bool) (expression : Expression) :
    (expression.negateIf negated).shape = expression.shape.negateIf negated := by
  cases negated <;> rfl

end Expression

mutual

theorem Condition.expression_shape : (condition : Condition) →
    condition.shape.expression = condition.expression.shape
  | .compare comparison => by
      rw [Condition.shape, Condition.expression, Condition.expression, Expression.shape]
  | .group junction negated [] => by
      rw [Condition.shape, shapes, Condition.expression, Expression.shape_negateIf]
      rfl
  | .group junction negated (first :: rest) => by
      rw [Condition.shape, shapes, Condition.expression, Condition.expression,
        Expression.shape_negateIf, first.expression_shape, extendChain_shapes]

theorem extendChain_shapes (junction : Junction) (left : Expression) : (items : List Condition) →
    extendChain junction left.shape (shapes items) = (extendChain junction left items).shape
  | [] => by rw [shapes, extendChain, extendChain]
  | item :: rest => by
      rw [shapes, extendChain, extendChain, item.expression_shape,
        ← extendChain_shapes junction (.chain junction left item.expression) rest, Expression.shape]

end

/-- No bound value leaves a trace in the text of a statement. -/
theorem Select.text_shape (select : Select) : select.shape.text = select.text := by
  have sameWhere :
      whereText (select.condition.map Condition.shape) = whereText select.condition := by
    cases select.condition with
    | none => rfl
    | some condition =>
        rw [Option.map_some, whereText, whereText, condition.expression_shape,
          Expression.text_shape]
  rw [Select.shape, Select.text, sameWhere, Select.text]

/-! ### Shapes and restrictions -/

namespace Condition

theorem shape_item (condition : Condition) : condition.item.shape = condition.shape.item := by
  cases condition with
  | compare comparison => simp [item, Condition.shape]
  | group junction negated items =>
      match negated, items with
      | true, items => simp [item, Condition.shape]
      | false, [] => simp [item, Condition.shape, shapes]
      | false, [only] => simp [item, Condition.shape, shapes]
      | false, first :: second :: rest => simp [item, Condition.shape, shapes]

theorem conjuncts?_shape (condition : Condition) :
    condition.shape.conjuncts? = condition.conjuncts?.map (List.map Condition.shape) := by
  cases condition with
  | compare comparison => simp [Condition.shape, conjuncts?]
  | group junction negated items =>
      cases junction <;> cases negated <;> simp [Condition.shape, conjuncts?, shapes_eq_map]

theorem shape_both (first second : Condition) :
    (first.both second).shape = first.shape.both second.shape := by
  unfold both
  rw [conjuncts?_shape, conjuncts?_shape]
  cases first.conjuncts? with
  | none => simp [Condition.shape, shapes_eq_map, shape_item]
  | some items =>
      cases second.conjuncts? with
      | none => simp [Condition.shape, shapes_eq_map, shape_item]
      | some more => simp [Condition.shape, shapes_eq_map]

end Condition

namespace Select

theorem shape_restrict (select : Select) (condition : Condition) :
    (select.restrict condition).shape = select.shape.restrict condition.shape := by
  unfold restrict shape
  cases select.condition with
  | none => rfl
  | some present => simp [Condition.shape_both]

theorem shape_foldl_restrict (select : Select) (conditions : List Condition) :
    (conditions.foldl restrict select).shape =
      (conditions.map Condition.shape).foldl restrict select.shape := by
  induction conditions generalizing select with
  | nil => rfl
  | cons condition rest ih =>
      rw [List.foldl_cons, ih, shape_restrict, List.map_cons, List.foldl_cons]

end Select

end Listing.Sql
