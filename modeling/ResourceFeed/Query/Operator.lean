/-! # Operators

    The binary operators of query expressions.  There are two conjunctions:
    `and` evaluates both sides, `andAlso` only as many as it needs.
-/

namespace ResourceFeed

/-- A binary operator. -/
inductive Operator where
  /-- Conjunction of two sides that are both evaluated. -/
  | and
  /-- Conjunction that leaves the right side when the left one is false. -/
  | andAlso
  /-- Disjunction that leaves the right side when the left one is true. -/
  | or
  | eq
  | ne
  | lt
  | le
  | gt
  | ge
  | add
  | sub
  | mul
  | div
  deriving DecidableEq, Repr

/-- The name of an operator in messages. -/
def Operator.name : Operator → String
  | .and => "And"
  | .andAlso => "AndAlso"
  | .or => "Or"
  | .eq => "Equal"
  | .ne => "NotEqual"
  | .lt => "LessThan"
  | .le => "LessThanOrEqual"
  | .gt => "GreaterThan"
  | .ge => "GreaterThanOrEqual"
  | .add => "Add"
  | .sub => "Subtract"
  | .mul => "Multiply"
  | .div => "Divide"

end ResourceFeed
