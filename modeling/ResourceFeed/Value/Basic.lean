import ResourceFeed.Calendar.Instant
import ResourceFeed.Members

/-! # Values

    The values that flow through queries and entities: constants of an
    expression, field contents, and the records that a selector builds.

    Two notions of sameness occur.  `equal` compares like with like and
    follows the arithmetic of binary64 inside, so that a number that is not
    one differs from itself.  `isLike` also lets an integer equal a
    floating-point number; predicates use it.
-/

namespace ResourceFeed

/-- A value. -/
inductive Value where
  | null
  | bool (value : Bool)
  | int (value : Int64)
  | float (value : Float)
  | text (value : String)
  | instant (value : Calendar.Instant)
  /-- Named values in ascending order of the names. -/
  | record (fields : List (String × Value))
  deriving Inhabited

/-- Named values, such as the fields of an entity. -/
abbrev Record := Members Value

/-- What sort of value a value is. -/
inductive ValueType where
  | null
  | boolean
  | integer
  | float
  | text
  | instant
  | record
  deriving DecidableEq, Repr

namespace ValueType

/-- The name of a sort of value in messages. -/
def name : ValueType → String
  | .null => "null"
  | .boolean => "boolean"
  | .integer => "integer"
  | .float => "float"
  | .text => "text"
  | .instant => "datetime"
  | .record => "record"

end ValueType

namespace Value

/-- What sort of value this is. -/
def type : Value → ValueType
  | .null => .null
  | .bool _ => .boolean
  | .int _ => .integer
  | .float _ => .float
  | .text _ => .text
  | .instant _ => .instant
  | .record _ => .record

/-- Whether the value is null. -/
def isNull : Value → Bool
  | .null => true
  | _ => false

/-- The truth value of a boolean. -/
def bool? : Value → Option Bool
  | .bool value => some value
  | _ => none

/-- The text of a text. -/
def text? : Value → Option String
  | .text value => some value
  | _ => none

/-- A field of a record. -/
def get? (value : Value) (name : String) : Option Value :=
  match value with
  | .record fields => Members.get? name fields
  | _ => none

/-! ## Sameness and order -/

mutual

/-- Whether two values are of one sort and equal. -/
def equal : Value → Value → Bool
  | .null, .null => true
  | .bool a, .bool b => a == b
  | .int a, .int b => a == b
  | .float a, .float b => a == b
  | .text a, .text b => a == b
  | .instant a, .instant b => a == b
  | .record a, .record b => equalFields a b
  | _, _ => false

/-- Whether two lists of named values agree in names and values. -/
def equalFields : List (String × Value) → List (String × Value) → Bool
  | [], [] => true
  | (name, value) :: rest, (name', value') :: rest' =>
    name == name' && equal value value' && equalFields rest rest'
  | _, _ => false

end

/-- The order of two floating-point numbers; none if one of them is not a number. -/
def compareFloats (a b : Float) : Option Ordering :=
  if a < b then some .lt else if a == b then some .eq else if b < a then some .gt else none

/-- The order of two values of compatible sorts.  An integer is compared with a floating-point
    number after it is rounded to one. -/
def compare : Value → Value → Option Ordering
  | .bool a, .bool b => some (Ord.compare a b)
  | .int a, .int b => some (Ord.compare a.toInt b.toInt)
  | .float a, .float b => compareFloats a b
  | .int a, .float b => compareFloats a.toFloat b
  | .float a, .int b => compareFloats a b.toFloat
  | .text a, .text b => some (Ord.compare a b)
  | .instant a, .instant b => some (a.compare b)
  | _, _ => none

/-- Equality that lets an integer equal a floating-point number. -/
def isLike (a b : Value) : Bool :=
  match a, b with
  | .int _, .float _ | .float _, .int _ => a.compare b == some .eq
  | _, _ => equal a b

end Value

end ResourceFeed
