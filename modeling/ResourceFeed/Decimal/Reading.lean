import ResourceFeed.Limits

/-! # Numbers in text

    The two numeric spellings of free text.  An integer is ASCII digits after
    at most one sign.  A floating-point number is digits with at most one
    point and at most one exponent, or one of the words `inf`, `infinity` and
    `nan` in any case; it is rounded to nearest, and what is too large becomes
    an infinity.
-/

namespace ResourceFeed.Decimal

/-- The value of ASCII digits; `none` if the text is empty or holds anything else. -/
def natural? (text : List Char) : Option Nat :=
  if text.isEmpty || !text.all Char.isDigit then none
  else some (text.foldl (fun n c => 10 * n + (c.toNat - '0'.toNat)) 0)

/-- Splits off one sign; `true` means minus. -/
def splitSign : List Char → Bool × List Char
  | '-' :: rest => (true, rest)
  | '+' :: rest => (false, rest)
  | text => (false, text)

/-- The value of an optional sign and ASCII digits. -/
def integer? (text : List Char) : Option Int :=
  let (negative, digits) := splitSign text
  (natural? digits).map fun n => if negative then -(n : Int) else n

/-- The value of an optional sign and ASCII digits, if it fits 64 bits. -/
def int64? (text : String) : Option Int64 :=
  (integer? text.toList).bind int64OfInt?

/-- The binary number nearest to `digits * 10 ^ exponent`.  Beyond the exponents of the format the
    answer no longer depends on the digits. -/
def nearest (digits : Nat) (exponent : Int) : Float :=
  let size : Int := exponent + (Nat.toDigits 10 digits).length
  if digits = 0 ∨ size < -400 then Float.ofBits 0
  else if 400 < size then Float.ofBits 0x7ff0000000000000
  else match exponent with
    | .ofNat e => Float.ofScientific digits false e
    | .negSucc e => Float.ofScientific digits true (e + 1)

/-- The value of digits with at most one point and at most one exponent. -/
def magnitude? (text : List Char) : Option Float := do
  let (number, exponent) ← match text.span fun c => c != 'e' && c != 'E' with
    | (number, []) => some (number, 0)
    | (number, _ :: rest) => (integer? rest).map fun e => (number, e)
  let (whole, fraction) := match number.span (· != '.') with
    | (whole, []) => (whole, [])
    | (whole, _ :: rest) => (whole, rest)
  let digits ← natural? (whole ++ fraction)
  return nearest digits (exponent - fraction.length)

/-- The value of a floating-point number in text. -/
def float? (text : String) : Option Float :=
  let (negative, rest) := splitSign text.toList
  let size? : Option Float :=
    match String.ofList (rest.map Char.toLower) with
    | "inf" | "infinity" => some (Float.ofBits 0x7ff0000000000000)
    | "nan" => some (Float.ofBits 0x7ff8000000000000)
    | _ => magnitude? rest
  size?.map fun x => if negative then -x else x

/-! ## Laws -/

/-- The digits of a number have its value. -/
theorem natural?_toDigits (n : Nat) : natural? (Nat.toDigits 10 n) = some n := by
  have hsome : (Nat.toDigits 10 n).isEmpty = false := by
    rw [List.isEmpty_eq_false_iff]
    exact Nat.toDigits_ne_nil
  have hdigits : (Nat.toDigits 10 n).all Char.isDigit = true :=
    List.all_eq_true.mpr fun _ => Nat.isDigit_of_mem_toDigits (by decide) (by decide)
  rw [natural?, hsome, hdigits, ← Nat.ofDigitChars_eq_foldl, Nat.ofDigitChars_ten_toDigits]
  rfl

/-- An integer is printed as its digits, behind a minus sign if it is negative. -/
theorem toList_toString (value : Int) :
    (toString value).toList =
      if value < 0 then '-' :: Nat.toDigits 10 value.natAbs else Nat.toDigits 10 value.natAbs := by
  cases value with
  | ofNat n =>
    rw [if_neg (by simp), Int.toString_eq_repr]
    exact Nat.toList_repr
  | negSucc n =>
    have htext : toString (Int.negSucc n) = "-" ++ (n + 1).repr := rfl
    rw [if_pos (Int.negSucc_lt_zero n), htext, String.toList_append, Nat.toList_repr]
    rfl

end ResourceFeed.Decimal
