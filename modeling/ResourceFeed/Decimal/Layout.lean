import ResourceFeed.Decimal.Shortest

/-! # Decimal text of binary numbers

    Three texts of a binary number occur: the *plain* one of query constants,
    the *diagnostic* one, and the one of JSON *documents*.  All of them write
    the fewest digits that read back; a `Layout` says what else differs: where
    an exponent is written instead of zeros, whether a whole number keeps its
    `.0`, whether a positive exponent has a sign, and which way a tie goes.
-/

namespace ResourceFeed.Decimal

/-- How a finite number is laid out. -/
structure Layout where
  /-- The exponents of the first digit, from and to, for which no exponent is written; `none` if
      none is ever written. -/
  positional : Option (Int × Int)
  /-- Whether a whole number without exponent ends in `.0`. -/
  keepsPoint : Bool
  /-- Whether a positive exponent is written with its sign. -/
  signsExponent : Bool
  tie : Tie

namespace Layout

/-- Never an exponent, and whole numbers without a point. -/
def plain : Layout := ⟨none, false, false, .away⟩

/-- Positional from `0.0001` to below `10 ^ 16`, with a point. -/
def diagnostic : Layout := ⟨some (-4, 15), true, false, .away⟩

/-- Positional from `0.00001` to below `10 ^ 16`, with a point; exponents carry their sign. -/
def document : Layout := ⟨some (-5, 15), true, true, .even⟩

/-- The digits with zeros in place of an exponent. -/
def positionalText (layout : Layout) (d : Digits) : String :=
  let digits := Nat.toDigits 10 d.digits
  let first : Int := d.exponent + digits.length - 1
  if 0 ≤ d.exponent then
    String.ofList (digits ++ List.replicate d.exponent.toNat '0')
      ++ (if layout.keepsPoint then ".0" else "")
  else if 0 ≤ first then
    String.ofList (digits.take (first.toNat + 1) ++ '.' :: digits.drop (first.toNat + 1))
  else
    String.ofList ('0' :: '.' :: List.replicate (-first - 1).toNat '0' ++ digits)

/-- One digit before the point, the others after it, and an exponent. -/
def exponentText (layout : Layout) (d : Digits) : String :=
  let digits := Nat.toDigits 10 d.digits
  let first : Int := d.exponent + digits.length - 1
  let rest := digits.drop 1
  String.ofList (digits.take 1 ++ (if rest.isEmpty then [] else '.' :: rest))
    ++ "e" ++ (if layout.signsExponent && 0 ≤ first then "+" else "") ++ toString first

/-- The digits, positional or with an exponent. -/
def digitsText (layout : Layout) (d : Digits) : String :=
  let first : Int := d.exponent + digitCount d.digits - 1
  match layout.positional with
  | none => layout.positionalText d
  | some (low, high) =>
    if d.digits = 0 ∨ (low ≤ first ∧ first ≤ high) then layout.positionalText d
    else layout.exponentText d

/-- The text of a number. -/
def text (layout : Layout) (x : Float) : String :=
  match Binary64.ofFloat x with
  | .nan => "NaN"
  | .infinite negative => if negative then "-inf" else "inf"
  | .finite negative significand exponent =>
    let digits := if significand = 0 then ⟨0, 0⟩ else shortest layout.tie significand exponent
    (if negative then "-" else "") ++ layout.digitsText digits

end Layout

end ResourceFeed.Decimal
