import ResourceFeed.Calendar.Date

/-! # Instants

    A point in universal time: whole seconds since the beginning of 1970 and
    nanoseconds.  A leap second repeats the second before it and counts its
    nanoseconds on from one thousand million.  Instants are ordered by seconds
    first and nanoseconds second.

    The text of an instant is its RFC 3339 form in universal time with the
    fewest of no, three, six or nine digits of fraction that hold it.
-/

namespace ResourceFeed.Calendar

/-- A point in universal time. -/
structure Instant where
  /-- Whole seconds since the beginning of 1970. -/
  seconds : Int
  /-- Nanoseconds within the second; one thousand million and more in a leap second. -/
  nanos : Nat
  deriving DecidableEq, Repr

/-- The seconds of a day. -/
def daySeconds : Int := 86400

/-- The nanoseconds of a second. -/
def secondNanos : Nat := 1000000000

namespace Instant

/-- The beginning of 1970. -/
def epoch : Instant := ⟨0, 0⟩

/-- The date on which an instant falls. -/
def date (t : Instant) : Date :=
  Date.ofNumber (t.seconds / daySeconds)

/-- The earlier of two instants comes first. -/
def compare (a b : Instant) : Ordering :=
  (Ord.compare a.seconds b.seconds).then (Ord.compare a.nanos b.nanos)

/-- Whether an instant falls into a year of the calendar. -/
def isValid (t : Instant) : Bool :=
  firstYear ≤ t.date.year && t.date.year ≤ lastYear

/-- The instant a number of milliseconds after the beginning of 1970, if the calendar has it. -/
def ofMillis? (millis : Int) : Option Instant :=
  let t : Instant := ⟨millis / 1000, (millis % 1000).toNat * 1000000⟩
  if t.isValid then some t else none

/-- The instant at a time of day.  Second 60 is the leap second after second 59. -/
def ofParts (date : Date) (hour minute second nanos : Nat) : Instant :=
  let leap := second == 60
  let second := if leap then 59 else second
  { seconds := date.number * daySeconds + hour * 3600 + minute * 60 + second
    nanos := if leap then nanos + secondNanos else nanos }

end Instant

/-! ## Text -/

/-- A number with zeros in front up to a width. -/
def padded (width n : Nat) : String :=
  let digits := Nat.toDigits 10 n
  String.ofList (List.replicate (width - digits.length) '0' ++ digits)

/-- A year: four digits, and a sign outside of 0 to 9999. -/
def yearText (year : Int) : String :=
  if year < 0 then "-" ++ padded 4 year.natAbs
  else if 9999 < year then "+" ++ padded 4 year.natAbs
  else padded 4 year.natAbs

/-- The fraction of a second in as many digits as it needs, three at a time. -/
def fractionText (nanos : Nat) : String :=
  if nanos = 0 then ""
  else if nanos % 1000000 = 0 then "." ++ padded 3 (nanos / 1000000)
  else if nanos % 1000 = 0 then "." ++ padded 6 (nanos / 1000)
  else "." ++ padded 9 nanos

/-- The RFC 3339 form of an instant. -/
def Instant.text (t : Instant) : String :=
  let date := t.date
  let ofDay := (t.seconds % daySeconds).toNat
  let leap := decide (secondNanos ≤ t.nanos)
  let second := if leap then ofDay % 60 + 1 else ofDay % 60
  yearText date.year ++ "-" ++ padded 2 date.month ++ "-" ++ padded 2 date.day ++ "T"
    ++ padded 2 (ofDay / 3600) ++ ":" ++ padded 2 (ofDay / 60 % 60) ++ ":" ++ padded 2 second
    ++ fractionText (if leap then t.nanos - secondNanos else t.nanos) ++ "Z"

end ResourceFeed.Calendar
