import ResourceFeed.Decimal.Reading
import ResourceFeed.Members

/-! # JSON values

    A JSON value with its numbers as they are held: an integer of 64 bits,
    with or without sign, or else a finite binary64 number.  An object has its
    members in ascending order of their names, each name once.
-/

namespace ResourceFeed

/-- A JSON value. -/
inductive Json where
  | null
  | bool (value : Bool)
  /-- A whole number without fraction and exponent, from `-2 ^ 63` to `2 ^ 64 - 1`. -/
  | integer (value : Int)
  /-- Any other number; it is finite. -/
  | float (value : Float)
  | text (value : String)
  | array (items : List Json)
  /-- The members in ascending order of their names. -/
  | object (members : List (String × Json))
  deriving Inhabited

namespace Json

/-- The members of an object. -/
def members? : Json → Option (Members Json)
  | .object members => some members
  | _ => none

/-- The items of an array. -/
def items? : Json → Option (List Json)
  | .array items => some items
  | _ => none

/-- The text of a string. -/
def text? : Json → Option String
  | .text value => some value
  | _ => none

/-- An integer that fits 64 bits with sign. -/
def int64? : Json → Option Int64
  | .integer value => int64OfInt? value
  | _ => none

/-- An integer that fits 64 bits without sign. -/
def uint64? : Json → Option Nat
  | .integer value => if 0 ≤ value ∧ value < limitUInt64 then some value.toNat else none
  | _ => none

/-- The floating-point number nearest to an integer. -/
def integerToFloat (value : Int) : Float :=
  let size := Decimal.nearest value.natAbs 0
  if value < 0 then -size else size

/-- The floating-point number nearest to a number. -/
def float? : Json → Option Float
  | .integer value => some (integerToFloat value)
  | .float value => some value
  | _ => none

/-- Whether the value is `null`. -/
def isNull : Json → Bool
  | .null => true
  | _ => false

end Json

end ResourceFeed
