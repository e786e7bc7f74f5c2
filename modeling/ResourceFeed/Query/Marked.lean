import ResourceFeed.Query.Chain

/-! # Folding in two passes

    Folding makes two passes over an expression.  The first one marks its
    nodes, from the leaves upward: a mark tells whether a node is closed, and
    has the marks of the operands, arguments or fields of the node in their
    order.  The second one goes down the expression and takes the marks along.
    A node that is marked as closed is evaluated; in any other one, operand
    after operand takes the next mark.  An operand for which no mark is left
    stays as it is.

    What the second pass does is given for any monad and any evaluation of
    closed expressions.
-/

namespace ResourceFeed

/-- Whether a node is closed, and the marks of its operands. -/
structure Mark where
  isClosed : Bool
  operands : List Mark

/-- The mark of a node that is closed if all its operands are. -/
def Mark.above (operands : List Mark) : Mark :=
  ⟨operands.all Mark.isClosed, operands⟩

namespace Expr

/-! ## First pass -/

mutual

/-- The mark of an expression. -/
def mark : Expr → Mark
  | .element => ⟨false, []⟩
  | .member target _ => .above [mark target]
  | .constant _ => .above []
  | .binary _ left right => .above [mark left, mark right]
  | .call _ _ arguments => .above (argumentMarks arguments)
  | .capture _ _ => .above []
  | .construct fields => .above (fieldMarks fields)

/-- The marks of arguments. -/
def argumentMarks : List Expr → List Mark
  | [] => []
  | expr :: rest => mark expr :: argumentMarks rest

/-- The marks of fields. -/
def fieldMarks : List (String × Expr) → List Mark
  | [] => []
  | (_, expr) :: rest => mark expr :: fieldMarks rest

end

/-! ## Second pass -/

section folding
variable {m : Type → Type} [Monad m]

/-- Folds an operand by the next mark, if one is left. -/
def byNext (fold : Mark → m Expr) (expr : Expr) : List Mark → m Expr
  | [] => pure expr
  | next :: _ => fold next

variable (evaluate : Expr → m Value)

mutual

/-- Replaces what is marked as closed by its value. -/
def foldBy (mark : Mark) (expr : Expr) : m Expr :=
  if mark.isClosed then do
    let value ← evaluate expr
    pure (.constant value)
  else match expr with
    | .member target name => do
      let target ← byNext (fun next => foldBy next target) target mark.operands
      pure (.member target name)
    | .binary operator left right => do
      let left ← byNext (fun next => foldBy next left) left mark.operands
      let right ← byNext (fun next => foldBy next right) right mark.operands.tail
      pure (.binary operator left right)
    | .call name function arguments => do
      let arguments ← foldArgumentsBy mark.operands arguments
      pure (.call name function arguments)
    | .construct fields => do
      let fields ← foldFieldsBy mark.operands fields
      pure (.construct fields)
    | leaf => pure leaf

/-- Folds arguments from left to right, each by the next mark. -/
def foldArgumentsBy (marks : List Mark) : List Expr → m (List Expr)
  | [] => pure []
  | expr :: rest => do
    let expr ← byNext (fun next => foldBy next expr) expr marks
    let rest ← foldArgumentsBy marks.tail rest
    pure (expr :: rest)

/-- Folds fields from left to right, each by the next mark. -/
def foldFieldsBy (marks : List Mark) : List (String × Expr) → m (List (String × Expr))
  | [] => pure []
  | (name, expr) :: rest => do
    let expr ← byNext (fun next => foldBy next expr) expr marks
    let rest ← foldFieldsBy marks.tail rest
    pure ((name, expr) :: rest)

end

/-- Folds an expression by its own marks, unless it is closed as a whole. -/
def simplifyBy (expr : Expr) : m Expr :=
  if expr.mark.isClosed then pure expr else expr.foldBy evaluate expr.mark

end folding

end Expr

/-- Folds every predicate and selector, from the source outward. -/
def Chain.foldBy {m : Type → Type} [Monad m] (evaluate : Expr → m Value) : Chain → m Chain
  | .source kind => pure (.source kind)
  | .filter input predicate => do
    let input ← foldBy evaluate input
    let predicate ← predicate.simplifyBy evaluate
    pure (.filter input predicate)
  | .project input selector => do
    let input ← foldBy evaluate input
    let selector ← selector.simplifyBy evaluate
    pure (.project input selector)
  | .related input member => do
    let input ← foldBy evaluate input
    pure (.related input member)

end ResourceFeed
