import ResourceFeed.Json.Basic
import ResourceFeed.Json.Draft
import ResourceFeed.Decimal.Binary64
import ResourceFeed.Decimal.Reading
import ResourceFeed.Text.Utf8

/-! # Reading JSON text

    A draft becomes a value if its arrays and objects nest no deeper than 127,
    its strings are text and its numbers have a value.  Of two members with
    one name the later one counts.

    A whole number that fits 64 bits stays an integer.  Any other number is
    *scaled*: its digits are collected while they fit 64 bits without sign,
    and the collected number is multiplied or divided by a power of ten.  That
    takes one or two roundings and so may differ in the last place from the
    nearest number.  A number too large to be finite has no value.
-/

namespace ResourceFeed.Json

/-! ## Numbers -/

/-- The power of ten with an exponent up to 308, rounded to nearest. -/
def powerOfTen (exponent : Nat) : Float :=
  Float.ofScientific 1 false exponent

/-- `significand * 10 ^ exponent`, scaled by at most two powers of ten; `none` if not finite. -/
def scaled? (significand : Nat) (exponent : Int) : Option Float :=
  let start := Decimal.nearest significand 0
  if significand = 0 then some start
  else if 308 < exponent then none
  else if 0 ≤ exponent then
    let product := start * powerOfTen exponent.toNat
    if Decimal.isFinite product then some product else none
  else if -308 ≤ exponent then some (start / powerOfTen (-exponent).toNat)
  else if -616 ≤ exponent then
    some (start / powerOfTen 308 / powerOfTen (-exponent - 308).toNat)
  else some (Float.ofBits 0)

/-- Collects digits as long as the number fits 64 bits without sign; the digits that are left. -/
def collect (significand : Nat) : List Char → Nat × List Char
  | [] => (significand, [])
  | digit :: rest =>
    let next := 10 * significand + (digit.toNat - 48)
    if next < limitUInt64 then collect next rest else (significand, digit :: rest)

namespace Numeral

/-- The size of a number that is not a whole number of 64 bits.  Digits before the point that do
    not fit count as powers of ten, digits after the point that do not fit are dropped. -/
def size? (numeral : Numeral) : Option Float :=
  let (whole, beyond) := collect 0 numeral.whole
  let fraction := numeral.fraction.getD []
  let (significand, dropped) := collect whole fraction
  let kept : Int := (fraction.length : Int) - dropped.length
  scaled? significand (beyond.length - kept + numeral.exponent.getD 0)

/-- The value of a number.  Minus zero is not an integer. -/
def toJson? (numeral : Numeral) : Option Json :=
  let (whole, beyond) := collect 0 numeral.whole
  let isWhole := numeral.fraction.isNone && numeral.exponent.isNone && beyond.isEmpty
  if isWhole && !numeral.negative then some (.integer whole)
  else if isWhole && 0 < whole && decide (FitsInt64 (-whole)) then some (.integer (-(whole : Int)))
  else numeral.size?.map fun x => .float (if numeral.negative then -x else x)

end Numeral

/-! ## Strings -/

/-- The characters of a string.  A leading surrogate must be followed by a trailing one. -/
def characters? : List StringPart → Option (List Char)
  | [] => some []
  | .char c :: rest => (characters? rest).map (c :: ·)
  | .unit code :: rest =>
    if code < 0xd800 ∨ 0xdfff < code then (characters? rest).map (Char.ofNat code :: ·)
    else match rest with
      | .unit low :: rest =>
        if code < 0xdc00 ∧ 0xdc00 ≤ low ∧ low ≤ 0xdfff then
          (characters? rest).map
            (Char.ofNat (0x10000 + (code - 0xd800) * 0x400 + (low - 0xdc00)) :: ·)
        else none
      | _ => none

/-- The text of a string. -/
def string? (parts : List StringPart) : Option String :=
  (characters? parts).map String.ofList

/-! ## Values -/

mutual

/-- The value of a draft whose arrays and objects may nest `depth` deep. -/
def ofDraft? (depth : Nat) : Draft → Option Json
  | .word .null => some .null
  | .word .true => some (.bool true)
  | .word .false => some (.bool false)
  | .numeral numeral => numeral.toJson?
  | .string parts => (string? parts).map .text
  | .array items =>
    match depth with
    | 0 => none
    | depth + 1 => (itemsOfDrafts? depth items).map .array
  | .object members =>
    match depth with
    | 0 => none
    | depth + 1 => (pairsOfDrafts? depth members).map fun pairs => .object (Members.ofList pairs)

/-- The values of the items of an array. -/
def itemsOfDrafts? (depth : Nat) : List Draft → Option (List Json)
  | [] => some []
  | draft :: rest => do
    let item ← ofDraft? depth draft
    let items ← itemsOfDrafts? depth rest
    return item :: items

/-- The names and values of the members of an object. -/
def pairsOfDrafts? (depth : Nat) : List (List StringPart × Draft) → Option (List (String × Json))
  | [] => some []
  | (name, draft) :: rest => do
    let name ← string? name
    let value ← ofDraft? depth draft
    let pairs ← pairsOfDrafts? depth rest
    return (name, value) :: pairs

end

/-- How deep arrays and objects may nest. -/
def depthLimit : Nat := 127

/-- The value of a JSON text. -/
def ofText? (text : String) : Option Json :=
  (Draft.ofChars? text.toList).bind (ofDraft? depthLimit)

/-- The value of a JSON text given as bytes. -/
def ofBytes? (bytes : Text.Bytes) : Option Json :=
  (Text.ofBytes? bytes).bind ofText?

/-- The bytes of a text of characters below 128 have the value of the text. -/
theorem ofBytes?_asciiBytes {text : String} (h : text.toList.all fun c => c.toNat < 0x80) :
    ofBytes? (Text.asciiBytes text) = ofText? text := by
  rw [ofBytes?, Text.ofBytes?_asciiBytes h, Option.bind_some]

end ResourceFeed.Json
