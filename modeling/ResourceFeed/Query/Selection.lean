import ResourceFeed.Query.Expr

/-! # Selections

    The members that a selector reads off the element itself.  A server that
    is asked for a projection sends these fields only; the selector is applied
    to them by the client.
-/

namespace ResourceFeed.Expr

mutual

/-- The names of the members read off the element, from left to right, repeated ones included. -/
def directMembers : Expr → List String
  | .element => []
  | .member target name =>
    match target with
    | .element => [name]
    | target => directMembers target
  | .constant _ => []
  | .binary _ left right => directMembers left ++ directMembers right
  | .call _ _ arguments => argumentMembers arguments
  | .capture _ _ => []
  | .construct fields => fieldMembers fields

/-- The names of the members read off the element in arguments. -/
def argumentMembers : List Expr → List String
  | [] => []
  | expr :: rest => directMembers expr ++ argumentMembers rest

/-- The names of the members read off the element in fields. -/
def fieldMembers : List (String × Expr) → List String
  | [] => []
  | (_, expr) :: rest => directMembers expr ++ fieldMembers rest

end

/-- The list of fields that a selector asks the server for. -/
def selectList (selector : Expr) : String :=
  String.intercalate "," selector.directMembers

/-! ## Laws -/

theorem directMembers_member {target : Expr} (h : target ≠ .element) (name : String) :
    (Expr.member target name).directMembers = target.directMembers := by
  rw [directMembers]
  exact h

theorem argumentMembers_eq_flatMap (arguments : List Expr) :
    argumentMembers arguments = arguments.flatMap directMembers := by
  induction arguments with
  | nil => rfl
  | cons first rest ih => rw [argumentMembers, ih, List.flatMap_cons]

theorem fieldMembers_eq_flatMap (fields : List (String × Expr)) :
    fieldMembers fields = fields.flatMap fun field => field.2.directMembers := by
  induction fields with
  | nil => rfl
  | cons first rest ih => rw [fieldMembers, ih, List.flatMap_cons]

end ResourceFeed.Expr
