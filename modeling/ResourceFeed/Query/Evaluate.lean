import ResourceFeed.Query.Expr
import ResourceFeed.Query.Run

/-! # Evaluation

    The value of an expression for a given element, or for none.  Operands,
    arguments and fields are evaluated from left to right, and the first
    failure ends the evaluation.  `andAlso` and `or` leave their right side
    when the left one decides; `and` does not.

    Integers of 64 bits are added, subtracted, multiplied and divided toward
    zero exactly: a result out of range, and a division by zero, is a failure.
    If one operand is a floating-point number, both are taken as such.
-/

namespace ResourceFeed

namespace Operator

/-- A truth value as an operand of an operator. -/
def truth (operator : Operator) (value : Value) : Except Failure Bool :=
  match value with
  | .bool value => .ok value
  | other => .error (.evaluation (.notBoolean operator other.type))

/-- The exact result of integer arithmetic; none for a division by zero. -/
def exactResult? (operator : Operator) (a b : Int) : Option Int :=
  match operator with
  | .add => some (a + b)
  | .sub => some (a - b)
  | .mul => some (a * b)
  | .div => if b = 0 then none else some (a.tdiv b)
  | _ => none

/-- The result of integer arithmetic, if there is one of 64 bits. -/
def onIntegers? (operator : Operator) (a b : Int64) : Option Int64 :=
  (operator.exactResult? a.toInt b.toInt).bind int64OfInt?

/-- The result of floating-point arithmetic. -/
def onFloats (operator : Operator) (a b : Float) : Float :=
  match operator with
  | .add => a + b
  | .sub => a - b
  | .mul => a * b
  | _ => a / b

/-- A number as a floating-point number. -/
def asFloat? : Value → Option Float
  | .int value => some value.toFloat
  | .float value => some value
  | _ => none

/-- Arithmetic on two values; texts can be added. -/
def arithmetic (operator : Operator) (left right : Value) : Except Failure Value :=
  match left, right with
  | .int a, .int b =>
    match operator.onIntegers? a b with
    | some result => .ok (.int result)
    | none => .error (.evaluation (.integer operator a b))
  | left, right =>
    match operator, left, right with
    | .add, .text a, .text b => .ok (.text (a ++ b))
    | operator, left, right =>
      match asFloat? left, asFloat? right with
      | some a, some b => .ok (.float (operator.onFloats a b))
      | _, _ => .error (.evaluation (.inapplicable operator left.type right.type))

/-- Whether an order answers a comparison. -/
def holdsFor (operator : Operator) (order : Ordering) : Bool :=
  match operator with
  | .lt => order == .lt
  | .le => order != .gt
  | .gt => order == .gt
  | _ => order != .lt

/-- An operator on two values. -/
def apply (operator : Operator) (left right : Value) : Except Failure Value :=
  match operator with
  | .and | .andAlso => do
    let a ← operator.truth left
    let b ← operator.truth right
    return .bool (a && b)
  | .or => do
    let a ← operator.truth left
    let b ← operator.truth right
    return .bool (a || b)
  | .eq => .ok (.bool (left.isLike right))
  | .ne => .ok (.bool (!left.isLike right))
  | .lt | .le | .gt | .ge =>
    match left.compare right with
    | some order => .ok (.bool (operator.holdsFor order))
    | none => .error (.evaluation (.incomparable left.type right.type))
  | .add | .sub | .mul | .div => operator.arithmetic left right

/-- The left operand that decides alone, if there is one. -/
def deciding? : Operator → Option Bool
  | .andAlso => some false
  | .or => some true
  | _ => none

end Operator

/-- A member of a value. -/
def Value.member (value : Value) (name : String) : Except Failure Value :=
  match value with
  | .record fields =>
    match Members.get? name fields with
    | some value => .ok value
    | none => .error (.evaluation (.noMember name))
  | other => .error (.evaluation (.memberOfPlain name other.type))

namespace Expr

mutual

/-- Evaluates an expression for an element, or for none. -/
def run (element? : Option Value) : Expr → Run Value
  | .element =>
    match element? with
    | some value => pure value
    | none => Run.fail (.evaluation .unbound)
  | .member target name => do
    let value ← run element? target
    Run.ofExcept (value.member name)
  | .constant value => pure value
  | .binary operator left right =>
    match operator.deciding? with
    | some decisive => do
      let a ← run element? left
      let a ← Run.ofExcept (operator.truth a)
      if a = decisive then pure (.bool decisive)
      else do
        let b ← run element? right
        let b ← Run.ofExcept (operator.truth b)
        pure (.bool b)
    | none => do
      let a ← run element? left
      let b ← run element? right
      Run.ofExcept (operator.apply a b)
  | .call name function arguments => do
    let values ← runArguments element? arguments
    Run.emit (.call name)
    Run.ofExcept (function values)
  | .capture name value => do
    Run.emit (.capture name)
    pure value
  | .construct fields => do
    let values ← runFields element? fields
    pure (.record (Members.ofList values))

/-- Evaluates arguments from left to right. -/
def runArguments (element? : Option Value) : List Expr → Run (List Value)
  | [] => pure []
  | expr :: rest => do
    let value ← run element? expr
    let values ← runArguments element? rest
    pure (value :: values)

/-- Evaluates fields from left to right. -/
def runFields (element? : Option Value) : List (String × Expr) → Run (List (String × Value))
  | [] => pure []
  | (name, expr) :: rest => do
    let value ← run element? expr
    let values ← runFields element? rest
    pure ((name, value) :: values)

end

/-- The value of an expression for an element, or for none. -/
def evaluate (expr : Expr) (element? : Option Value) : Except Failure Value :=
  (expr.run element?).outcome

end Expr

end ResourceFeed
