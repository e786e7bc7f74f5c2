import ResourceFeed.Query.Expr

/-! # Predicate text

    A predicate is sent as fully parenthesized infix text.  Only members of
    the element, constants, comparisons and the logical operators have such a
    text; text constants are quoted but not escaped.
-/

namespace ResourceFeed

/-- The spelling of a constant. -/
def Value.literal (value : Value) : Except Failure String :=
  match value with
  | .null => .ok "NULL"
  | .bool value => .ok (if value then "1" else "0")
  | .int value => .ok (toString value.toInt)
  | .float value => .ok (Decimal.Layout.plain.text value)
  | .text value => .ok ("'" ++ value ++ "'")
  | .instant value => .ok value.text
  | .record _ => .error (.unsupportedConstant value)

/-- The word of an operator. -/
def Operator.keyword (operator : Operator) : Except Failure String :=
  match operator with
  | .and | .andAlso => .ok "and"
  | .or => .ok "or"
  | .eq => .ok "eq"
  | .ne => .ok "ne"
  | .lt => .ok "lt"
  | .le => .ok "le"
  | .gt => .ok "gt"
  | .ge => .ok "ge"
  | .add | .sub | .mul | .div => .error (.unsupportedOperator operator.name)

/-- The text of a predicate, or the first of its nodes from the root that has none. -/
def Expr.predicateText : Expr → Except Failure String
  | .element => .error (.invalidShape .bareElement)
  | .member .element name => .ok name
  | .member _ name => .error (.unsupportedMember name)
  | .constant value => value.literal
  | .binary operator left right => do
    let keyword ← operator.keyword
    let left ← predicateText left
    let right ← predicateText right
    return "(" ++ left ++ " " ++ keyword ++ " " ++ right ++ ")"
  | .call name _ _ => .error (.unsupportedOperator name)
  | .capture name _ => .error (.unsupportedMember name)
  | .construct _ => .error (.invalidShape .recordInPredicate)

end ResourceFeed
