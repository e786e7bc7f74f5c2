/-! # Binary floating-point numbers, exactly

    A number of the format binary64 is not a number, an infinity, or
    `significand * 2 ^ exponent` with a sign.  The reading below takes the
    parts from the bit pattern, so that decimal text can be computed in exact
    natural-number arithmetic.
-/

namespace ResourceFeed.Decimal

/-- The parts of a binary64 number. -/
inductive Binary64 where
  | nan
  | infinite (negative : Bool)
  /-- The value `significand * 2 ^ exponent`, negated if `negative`. -/
  | finite (negative : Bool) (significand : Nat) (exponent : Int)
  deriving DecidableEq, Repr

namespace Binary64

/-- The parts that a bit pattern stands for. -/
def ofBits (bits : UInt64) : Binary64 :=
  let n := bits.toNat
  let negative := decide (Nat.pow 2 63 ≤ n)
  let biased : Nat := n / Nat.pow 2 52 % Nat.pow 2 11
  let fraction := n % Nat.pow 2 52
  if biased = 2047 then if fraction = 0 then .infinite negative else .nan
  else if biased = 0 then .finite negative fraction (-1074)
  else .finite negative (Nat.pow 2 52 + fraction) ((biased : Int) - 1075)

/-- The parts of a number. -/
def ofFloat (x : Float) : Binary64 :=
  ofBits x.toBits

end Binary64

/-- Whether a number is neither an infinity nor the number that is not one. -/
def isFinite (x : Float) : Bool :=
  match Binary64.ofFloat x with
  | .finite .. => true
  | _ => false

/-- The integer that a number is, if it is one. -/
def wholeNumber? (x : Float) : Option Int :=
  match Binary64.ofFloat x with
  | .finite negative significand exponent =>
    let unit := Nat.pow 2 (-exponent).toNat
    if significand % unit = 0 then
      let size := significand / unit * Nat.pow 2 exponent.toNat
      some (if negative then -(size : Int) else size)
    else none
  | _ => none

end ResourceFeed.Decimal
