import Listing.Sql.Select

set_option autoImplicit false

namespace Listing.Sql

/-!
# Statements

The text of a selection, in which every value is a placeholder, and the values bound to the
placeholders from left to right. The two are computed apart from each other.
-/

/-! ## Names and comparisons -/

/-- A name in double quotes, with every double quote inside it doubled. -/
def quoteName (name : String) : String :=
  let inner := name.toList.flatMap fun char => if char = '"' then ['"', '"'] else [char]
  String.ofList ('"' :: inner ++ ['"'])

def columnText (column : Column) : String :=
  quoteName column.table ++ "." ++ quoteName column.name

/-- Texts with a comma and a space between each and the next. -/
def commaList (texts : List String) : String :=
  ", ".intercalate texts

def Fragment.text (fragment : Fragment) : String :=
  fragment.head ++ String.join (fragment.parts.map fun part => "?" ++ part.2)

def Fragment.params (fragment : Fragment) : List Value :=
  fragment.parts.map Prod.fst

/-- A comparison with its placeholders. Membership in nothing is a comparison of two different
numbers. -/
def Comparison.text : Comparison → String
  | .equal column _ => columnText column ++ " = ?"
  | .atLeast column _ => columnText column ++ " >= ?"
  | .like column _ => columnText column ++ " LIKE ?"
  | .oneOf _ [] => "? = ?"
  | .oneOf column values =>
    columnText column ++ " IN (" ++ commaList (values.map fun _ => "?") ++ ")"
  | .related column absent source =>
    columnText column ++ (if absent then " NOT IN " else " IN ") ++ "(SELECT "
      ++ quoteName source.name ++ " FROM " ++ quoteName source.table ++ ")"
  | .written fragment _ => fragment.text

def Comparison.params : Comparison → List Value
  | .equal _ value => [value]
  | .atLeast _ value => [value]
  | .like _ pattern => [.text pattern]
  | .oneOf _ [] => [.int32 1, .int32 2]
  | .oneOf _ values => values
  | .related _ _ _ => []
  | .written fragment _ => fragment.params

def Comparison.isCompound : Comparison → Bool
  | .written _ compound => compound
  | _ => false

/-! ## Expressions -/

/-- The expression of a condition: every group is a chain that grows to the left. -/
inductive Expression where
  | constant (value : Bool)
  | leaf (comparison : Comparison)
  | not (operand : Expression)
  | chain (junction : Junction) (left right : Expression)

def Expression.negateIf (negated : Bool) (expression : Expression) : Expression :=
  if negated then .not expression else expression

mutual

/-- The expression of a condition. A group of nothing is true if all of it has to hold, and false
if some of it has to. -/
def Condition.expression : Condition → Expression
  | .compare comparison => .leaf comparison
  | .group junction negated [] => .negateIf negated (.constant (junction == .all))
  | .group junction negated (first :: rest) =>
    .negateIf negated (extendChain junction first.expression rest)

/-- The chain that goes on from an expression with the conditions of a list. -/
def extendChain (junction : Junction) (left : Expression) : List Condition → Expression
  | [] => left
  | next :: rest => extendChain junction (.chain junction left next.expression) rest

end

def Junction.word : Junction → String
  | .all => " AND "
  | .any => " OR "

/-- Whether an expression needs parentheses as an operand. -/
def Expression.isCompound : Expression → Bool
  | .constant _ => false
  | .leaf comparison => comparison.isCompound
  | .not _ => true
  | .chain _ _ _ => true

/-- Whether an expression is a chain of this kind. On the left of such a chain it needs no
parentheses. -/
def Expression.continues (junction : Junction) : Expression → Bool
  | .chain own _ _ => own == junction
  | _ => false

def parenthesizeIf (wanted : Bool) (text : String) : String :=
  if wanted then "(" ++ text ++ ")" else text

def Expression.text : Expression → String
  | .constant true => "TRUE"
  | .constant false => "FALSE"
  | .leaf comparison => comparison.text
  | .not operand => "NOT " ++ parenthesizeIf operand.isCompound operand.text
  | .chain junction left right =>
    parenthesizeIf (left.isCompound && !left.continues junction) left.text ++ junction.word
      ++ parenthesizeIf right.isCompound right.text

def Expression.params : Expression → List Value
  | .constant _ => []
  | .leaf comparison => comparison.params
  | .not operand => operand.params
  | .chain _ left right => left.params ++ right.params

/-! ## Orders -/

/-- The place of the value of a column in a list of literals, from zero on. -/
def placeText (column : Column) (literals : List String) : String :=
  let cases := literals.zipIdx.map fun (literal, place) =>
    "WHEN " ++ columnText column ++ "=" ++ literal ++ " THEN " ++ toString place ++ " "
  "CASE " ++ String.join cases ++ "ELSE " ++ toString literals.length ++ " END"

/-- A term of an order. Places have no word for a direction. -/
def OrderTerm.text (term : OrderTerm) : String :=
  match term.direction with
  | .asc => columnText term.column ++ " ASC"
  | .desc => columnText term.column ++ " DESC"
  | .listed literals => placeText term.column literals

/-! ## Selections -/

def whereText : Option Condition → String
  | none => ""
  | some condition => " WHERE " ++ condition.expression.text

def whereParams : Option Condition → List Value
  | none => []
  | some condition => condition.expression.params

def orderText : List OrderTerm → String
  | [] => ""
  | terms => " ORDER BY " ++ commaList (terms.map OrderTerm.text)

def Frame.text (frame : Frame) : String :=
  "SELECT " ++ commaList (frame.columns.map columnText) ++ " FROM " ++ quoteName frame.entity.table
    ++ String.join (frame.joins.map fun join => " " ++ join.text)

def Frame.joinParams (frame : Frame) : List Value :=
  frame.joins.flatMap Fragment.params

def Frame.limitText (frame : Frame) : String :=
  match frame.limit with
  | none => ""
  | some _ => " LIMIT ?"

def Frame.limitParams (frame : Frame) : List Value :=
  frame.limit.toList.map .uint64

def Select.text (select : Select) : String :=
  select.toFrame.text ++ whereText select.condition ++ orderText select.order ++ select.limitText

def Select.params (select : Select) : List Value :=
  select.joinParams ++ whereParams select.condition ++ select.limitParams

end Listing.Sql
