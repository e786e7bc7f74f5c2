import ResourceFeed.Calendar.Reading
import ResourceFeed.Decimal.Reading
import ResourceFeed.Resource.FieldType
import ResourceFeed.Value.Text

/-! # Coercion

    Servers are free with JSON types: a number may come as text, a truth value
    as a digit.  A raw value is read as the wire form that the field declares,
    but only if nothing is lost by it: a fraction is no integer, and an
    integer outside of the range of its wire form is refused.
-/

namespace ResourceFeed

/-- Reads a truth value: the two words in any case, or one and zero. -/
def coerceTruth? (raw : Json) : Option Bool :=
  match raw with
  | .bool value => some value
  | .integer 1 => some true
  | .integer 0 => some false
  | .text value =>
    match String.ofList ((Text.trimChars value.toList).map Char.toLower) with
    | "1" | "true" => some true
    | "0" | "false" => some false
    | _ => none
  | _ => none

/-- Reads an integer of 64 bits: a number without fraction, or the text of an integer. -/
def coerceInteger? (raw : Json) : Option Int64 :=
  match raw with
  | .float value =>
    (Decimal.wholeNumber? value).bind int64OfInt?
  | .text value => Decimal.int64? (Text.trim value)
  | raw => raw.int64?

/-- Reads a floating-point number: any number, or its text. -/
def coerceFloat? (raw : Json) : Option Float :=
  match raw with
  | .text value => Decimal.float? (Text.trim value)
  | raw => raw.float?

/-- Reads a raw value as a wire form; `null` stays null. -/
def coerce? (wire : WireForm) (raw : Json) : Option Value :=
  if raw.isNull then some .null
  else match wire with
    | .text =>
      match raw with
      | .text value => some (.text value)
      | raw => some (.text raw.render)
    | .boolean => (coerceTruth? raw).map .bool
    | .int32 =>
      (coerceInteger? raw).bind fun value =>
        if FitsInt32 value.toInt then some (.int value) else none
    | .int64 => (coerceInteger? raw).map .int
    | .float => (coerceFloat? raw).map .float
    | .instant => (raw.text?.bind Calendar.instant?).map .instant

end ResourceFeed
