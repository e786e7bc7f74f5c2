import ResourceFeed.Query.Evaluate

/-! # Folding

    Before a query is sent, every part of an expression that does not depend
    on the element is replaced by its value, so that only members and literals
    are left for the server.  The parts replaced are the largest closed ones;
    they are evaluated once each, from left to right, and the first failure
    ends the folding.

    An expression that is closed as a whole is left alone.
-/

namespace ResourceFeed.Expr

mutual

/-- Replaces the largest closed parts by their values. -/
def fold (expr : Expr) : Run Expr :=
  if expr.isClosed then do
    let value ← expr.run none
    pure (.constant value)
  else match expr with
    | .member target name => do
      let target ← fold target
      pure (.member target name)
    | .binary operator left right => do
      let left ← fold left
      let right ← fold right
      pure (.binary operator left right)
    | .call name function arguments => do
      let arguments ← foldArguments arguments
      pure (.call name function arguments)
    | .construct fields => do
      let fields ← foldFields fields
      pure (.construct fields)
    | leaf => pure leaf

/-- Folds arguments from left to right. -/
def foldArguments : List Expr → Run (List Expr)
  | [] => pure []
  | expr :: rest => do
    let expr ← fold expr
    let rest ← foldArguments rest
    pure (expr :: rest)

/-- Folds fields from left to right. -/
def foldFields : List (String × Expr) → Run (List (String × Expr))
  | [] => pure []
  | (name, expr) :: rest => do
    let expr ← fold expr
    let rest ← foldFields rest
    pure ((name, expr) :: rest)

end

/-- Folds an expression that depends on the element; any other is left alone. -/
def simplify (expr : Expr) : Run Expr :=
  if expr.isClosed then pure expr else expr.fold

end ResourceFeed.Expr
