import ResourceFeed.Calendar.Date
import ResourceFeed.Decimal.Reading
import ResourceFeed.Json.Token
import ResourceFeed.Text.Reader

/-! # TOML numbers and dates

    Integers fit 64 bits with sign and may be written to the bases 2, 8, 10
    and 16; a floating-point number does not overflow upward.  Underscores may
    stand between digits.  Of dates and times only the form is checked, since
    no setting is one.
-/

namespace ResourceFeed.Toml.Grammar

open Text Text.Reader

/-! ## Numbers -/

/-- Digits of some sort, with single underscores between them. -/
def digitRun (isDigit : Char → Bool) : Reader (List Char) := do
  let groups ← separated (someRun isDigit) (char '_')
  return groups.flatten

/-- A sign, if there is one; `true` means minus. -/
def sign : Reader Bool := do
  return (← maybe (oneOf ['+', '-'])) == some '-'

/-- Decimal digits without a zero in front of others. -/
def decimalDigits : Reader (List Char) := do
  let digits ← digitRun Char.isDigit
  only (digits.length ≤ 1 || digits.head? ≠ some '0')
  return digits

/-- The value of digits to a base. -/
def valueOf (base : Nat) (digits : List Char) : Nat :=
  digits.foldl (fun n c => base * n + (Json.Token.hexDigit? c).getD 0) 0

/-- An integer with a letter for its base. -/
def basedInteger : Reader Int :=
  (do literal ['0', 'x']; return valueOf 16 (← digitRun fun c => (Json.Token.hexDigit? c).isSome))
    <|> (do literal ['0', 'o']; return valueOf 8 (← digitRun fun c => '0' ≤ c && c ≤ '7'))
    <|> (do literal ['0', 'b']; return valueOf 2 (← digitRun fun c => c = '0' || c = '1'))

/-- An integer of 64 bits. -/
def integer : Reader Int := do
  let value ← basedInteger <|> (do
    let negative ← sign
    let size : Int := valueOf 10 (← decimalDigits)
    return if negative then -size else size)
  only (decide (FitsInt64 value))
  return value

/-- An exponent. -/
def exponent : Reader Int := do
  let _ ← oneOf ['e', 'E']
  let negative ← sign
  let size : Int := valueOf 10 (← digitRun Char.isDigit)
  return if negative then -size else size

/-- A floating-point number in digits; it has a point or an exponent. -/
def decimalFloat : Reader Float := do
  let negative ← sign
  let whole ← decimalDigits
  let fraction ← maybe (do char '.'; digitRun Char.isDigit)
  let scale ← maybe exponent
  only (fraction.isSome || scale.isSome)
  let fraction := fraction.getD []
  let size := Decimal.nearest (valueOf 10 (whole ++ fraction)) (scale.getD 0 - fraction.length)
  only (negative || size.toBits ≠ 0x7ff0000000000000)
  return if negative then -size else size

/-- A floating-point number that is not finite. -/
def specialFloat : Reader Float := do
  let negative ← sign
  let size ← (do literal ['i', 'n', 'f']; return Float.ofBits 0x7ff0000000000000)
    <|> (do literal ['n', 'a', 'n']; return Float.ofBits 0x7ff8000000000000)
  return if negative then -size else size

/-! ## Dates and times -/

/-- A number of a fixed count of digits. -/
def fixedNumber (count : Nat) : Reader Nat := do
  let digits ← (List.replicate count ()).mapM fun _ => satisfy Char.isDigit
  return valueOf 10 digits

/-- A date. -/
def date : Reader Unit := do
  let year ← fixedNumber 4
  char '-'
  let month ← fixedNumber 2
  char '-'
  let day ← fixedNumber 2
  only (1 ≤ day && day ≤ Calendar.daysInMonth year month)

/-- A time of day. -/
def time : Reader Unit := do
  let hour ← fixedNumber 2
  char ':'
  let minute ← fixedNumber 2
  char ':'
  let second ← fixedNumber 2
  only (hour < 24 && minute < 60 && second ≤ 60)
  let _ ← maybe (do char '.'; someRun Char.isDigit)

/-- An offset from universal time. -/
def timeOffset : Reader Unit := do
  match ← oneOf ['Z', 'z', '+', '-'] with
  | 'Z' | 'z' => return ()
  | _ => do
    let hour ← fixedNumber 2
    char ':'
    let minute ← fixedNumber 2
    only (hour < 24 && minute < 60)

/-- A date, a time, or a date with a time. -/
def datetime : Reader Unit :=
  (do
    date
    let _ ← maybe (do let _ ← oneOf ['T', 't', ' ']; time; maybe timeOffset))
  <|> time

end ResourceFeed.Toml.Grammar
