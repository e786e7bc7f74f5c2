import ResourceFeed.Failure

/-! # Expressions

    Predicates and selectors are trees over one variable, the *element* that a
    query looks at.  Besides members of records, constants and operators a
    tree may hold calls of functions of the host program and *captures*, values
    of the host program that are read when the tree is evaluated.

    A tree is *closed* if the element does not occur in it.
-/

namespace ResourceFeed

/-- A function of the host program on values. -/
abbrev HostFunction := List Value → Except Failure Value

/-- An expression over one element. -/
inductive Expr where
  /-- The element that a predicate or selector is applied to. -/
  | element
  /-- A member of a record. -/
  | member (target : Expr) (name : String)
  | constant (value : Value)
  | binary (operator : Operator) (left right : Expr)
  | call (name : String) (function : HostFunction) (arguments : List Expr)
  /-- A value of the host program under a name. -/
  | capture (name : String) (value : Value)
  /-- A new record with these fields. -/
  | construct (fields : List (String × Expr))
  deriving Inhabited

namespace Expr

/-- A member of the element itself. -/
def field (name : String) : Expr :=
  .member .element name

mutual

/-- Whether the element occurs nowhere in the expression. -/
def isClosed : Expr → Bool
  | .element => false
  | .member target _ => isClosed target
  | .constant _ => true
  | .binary _ left right => isClosed left && isClosed right
  | .call _ _ arguments => areClosed arguments
  | .capture _ _ => true
  | .construct fields => fieldsAreClosed fields

/-- Whether the element occurs in none of the expressions. -/
def areClosed : List Expr → Bool
  | [] => true
  | expr :: rest => isClosed expr && areClosed rest

/-- Whether the element occurs in none of the fields. -/
def fieldsAreClosed : List (String × Expr) → Bool
  | [] => true
  | (_, expr) :: rest => isClosed expr && fieldsAreClosed rest

end

/-- The name of a member of the element itself. -/
def directMember? : Expr → Option String
  | .member .element name => some name
  | _ => none

/-! ## Diagnostics -/

mutual

/-- The text of an expression in diagnostics. -/
def diagnosticText : Expr → String
  | .element => "x"
  | .member target name => diagnosticText target ++ "." ++ name
  | .constant value => value.diagnosticText
  | .binary operator left right =>
    "(" ++ diagnosticText left ++ " " ++ operator.name ++ " " ++ diagnosticText right ++ ")"
  | .call name _ arguments =>
    name ++ "([" ++ diagnosticArguments arguments ++ "]" ++ (if name = "" then ",)" else ")")
  | .capture name _ => "<captured " ++ name ++ ">"
  | .construct fields => "\x7b" ++ diagnosticFields fields ++ "\x7d"

/-- Arguments in diagnostics, between commas. -/
def diagnosticArguments : List Expr → String
  | [] => ""
  | [expr] => diagnosticText expr
  | expr :: rest => diagnosticText expr ++ ", " ++ diagnosticArguments rest

/-- Fields in diagnostics, between commas. -/
def diagnosticFields : List (String × Expr) → String
  | [] => ""
  | [(name, expr)] => Text.quoted name ++ ": " ++ diagnosticText expr
  | (name, expr) :: rest =>
    Text.quoted name ++ ": " ++ diagnosticText expr ++ ", " ++ diagnosticFields rest

end

end Expr

end ResourceFeed
