import ResourceFeed.Decimal.Binary64

/-! # The fewest digits that read back

    A decimal text of a binary number needs only so many digits that a reader
    who rounds to nearest gets the same number again.  Around the number
    `m * 2 ^ q` lies the interval of reals that round to it; its ends belong
    to it exactly when `m` is even.  For one digit, two digits, and so on, the
    two neighbours of the number on the decimal grid of that many digits are
    tried: the first grid with a neighbour inside the interval wins, and of
    two neighbours inside the nearer one.

    Only a tie between the two neighbours is left open; the printer that uses
    the digits decides it.
-/

namespace ResourceFeed.Decimal

/-- Which of two equally near neighbours is taken. -/
inductive Tie where
  /-- The one further from zero. -/
  | away
  /-- The one whose last digit is even. -/
  | even
  deriving DecidableEq, Repr

/-- The decimal number `digits * 10 ^ exponent`; `digits` does not end in zero unless it is zero. -/
structure Digits where
  digits : Nat
  exponent : Int
  deriving DecidableEq, Repr

/-- How many decimal digits a number has; zero has none. -/
def digitCount (n : Nat) : Nat :=
  if n = 0 then 0 else (Nat.toDigits 10 n).length

/-- A positive fraction. -/
structure Ratio where
  numerator : Nat
  denominator : Nat

namespace Ratio

/-- The exponent of the first decimal digit of a positive fraction. -/
def firstExponent (r : Ratio) : Int :=
  if r.denominator ≤ r.numerator then digitCount (r.numerator / r.denominator) - 1
  else -(digitCount ((r.denominator - 1) / r.numerator) : Int)

/-- A fraction divided by a power of ten. -/
def scaleDown (r : Ratio) (exponent : Int) : Ratio :=
  match exponent with
  | .ofNat e => ⟨r.numerator, r.denominator * Nat.pow 10 e⟩
  | .negSucc e => ⟨r.numerator * Nat.pow 10 (e + 1), r.denominator⟩

end Ratio

/-- The interval of reals that round to one binary number, in units of a quarter of its last
    place: from `low` to `high` around `centre`, all three over `denominator`. -/
structure Rounding where
  low : Nat
  centre : Nat
  high : Nat
  denominator : Nat
  /-- Whether the ends round to the number too. -/
  closed : Bool

namespace Rounding

/-- The interval around `significand * 2 ^ exponent`.  Below a power of two the neighbour is only
    half as far away, unless that neighbour lies in the lowest range. -/
def around (significand : Nat) (exponent : Int) : Rounding :=
  let quarter : Int := exponent - 2
  let unit := Nat.pow 2 quarter.toNat
  let below := if significand = Nat.pow 2 52 ∧ -1074 < exponent then 1 else 2
  { low := (4 * significand - below) * unit
    centre := 4 * significand * unit
    high := (4 * significand + 2) * unit
    denominator := Nat.pow 2 (-quarter).toNat
    closed := significand % 2 == 0 }

/-- Whether `n * 10 ^ exponent` lies in the interval. -/
def holds (r : Rounding) (n : Nat) (exponent : Int) : Bool :=
  let (scaled, unit) := match exponent with
    | .ofNat e => (n * Nat.pow 10 e * r.denominator, 1)
    | .negSucc e => (n * r.denominator, Nat.pow 10 (e + 1))
  if r.closed then r.low * unit ≤ scaled && scaled ≤ r.high * unit
  else r.low * unit < scaled && scaled < r.high * unit

/-- Of two neighbours that both lie inside, whether the upper one is taken; `rest` over
    `denominator` is the distance from the lower one in steps of the grid. -/
def takesUpper (tie : Tie) (lower rest denominator : Nat) : Bool :=
  match compare (2 * rest) denominator with
  | .lt => false
  | .gt => true
  | .eq => tie == .away || lower % 2 == 1

/-- The neighbour to take on the grid of multiples of `10 ^ exponent`, if one lies inside. -/
def neighbour (r : Rounding) (tie : Tie) (exponent : Int) : Option Nat :=
  let scaled := Ratio.scaleDown ⟨r.centre, r.denominator⟩ exponent
  let lower := scaled.numerator / scaled.denominator
  let rest := scaled.numerator % scaled.denominator
  match r.holds lower exponent, r.holds (lower + 1) exponent with
  | true, true => some (lower + (takesUpper tie lower rest scaled.denominator).toNat)
  | true, false => some lower
  | false, true => some (lower + 1)
  | false, false => none

/-- The first neighbour among grids of `count`, `count + 1`, … digits; `left` bounds the search. -/
def search (r : Rounding) (tie : Tie) (first : Int) : Nat → Nat → Digits
  | 0, _ => ⟨0, 0⟩
  | left + 1, count =>
    let exponent := first + 1 - count
    match r.neighbour tie exponent with
    | some n => ⟨n, exponent⟩
    | none => r.search tie first left (count + 1)

end Rounding

/-- Moves the zeros at the end of the digits into the exponent; `left` bounds their number. -/
def dropZeros : Nat → Digits → Digits
  | 0, d => d
  | left + 1, d =>
    if d.digits ≠ 0 ∧ d.digits % 10 = 0 then dropZeros left ⟨d.digits / 10, d.exponent + 1⟩ else d

/-- The fewest decimal digits that read back as the positive number `significand * 2 ^ exponent`.
    Seventeen are always enough. -/
def shortest (tie : Tie) (significand : Nat) (exponent : Int) : Digits :=
  let r := Rounding.around significand exponent
  dropZeros 18 (r.search tie (Ratio.firstExponent ⟨r.centre, r.denominator⟩) 17 1)

end ResourceFeed.Decimal
