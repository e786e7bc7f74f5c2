import ResourceFeed.Calendar.Instant
import ResourceFeed.Decimal.Reading
import ResourceFeed.Text.Reader
import ResourceFeed.Text.Split

/-! # Reading instants

    Servers write instants in four spellings, which are tried in this order
    after the blanks at both ends are dropped:

    * `/Date(ms)/`, milliseconds since the beginning of 1970.  An offset
      behind the number only affects how a date is shown and is ignored.
    * RFC 3339 with an offset, every part at its full width.
    * A date and a time without offset, taken as universal time, with `T` or
      blanks between them.  Its numbers may be short, may follow blanks, and
      the year may be signed and then of any length.
    * A date alone, which stands for its first second.
-/

namespace ResourceFeed.Calendar

open Text (Reader)

namespace Reader

/-- Takes the characters before the first that is no digit, `most` of them at the most, and
    gives them if they are at least `least`. -/
def digits (least : Nat) (most : Option Nat) : Reader (List Char) := fun text =>
  let run := text.takeWhile Char.isDigit
  let taken := match most with
    | some most => run.take most
    | none => run
  if taken.length < least then none else some (taken, text.drop taken.length)

/-- Takes digits and gives their value. -/
def number (least : Nat) (most : Option Nat) : Reader Nat := do
  let taken ← digits least most
  Text.Reader.lift? (Decimal.natural? taken)

/-- Takes a fraction of a second, if there is a point, and gives its nanoseconds.  Digits after
    the ninth are dropped. -/
def fraction : Reader Nat := fun text =>
  match text with
  | '.' :: rest =>
    let run := rest.takeWhile Char.isDigit
    (Decimal.natural? ((run ++ List.replicate 9 '0').take 9)).bind fun nanos =>
      if run.isEmpty then none else some (nanos, rest.drop run.length)
  | _ => some (0, text)

end Reader

open Reader Text.Reader

/-! ## Parts -/

/-- The instant of a date and a time of day, if both exist; the offset in seconds is taken off. -/
def instantOf (date : Date) (hour minute second nanos : Nat) (offset : Int) : Reader Instant := do
  only (date.isValid && hour < 24 && minute < 60 && second ≤ 60)
  let t := Instant.ofParts date hour minute second nanos
  return { t with seconds := t.seconds - offset }

/-- An offset from universal time in seconds: `Z`, or a sign with hours and minutes.  It is less
    than a day. -/
def offset : Reader Int := do
  let sign ← oneOf ['Z', 'z', '+', '-', '\u2212']
  if sign = 'Z' ∨ sign = 'z' then return 0
  let hours ← number 2 (some 2)
  char ':'
  let minutes ← number 2 (some 2)
  only (hours < 24 && minutes < 60)
  let size : Int := hours * 3600 + minutes * 60
  return if sign = '+' then size else -size

/-- A number that may follow blanks and has one or two digits. -/
def shortNumber : Reader Nat := do
  blanks
  number 1 (some 2)

/-- A year that may follow blanks: up to four digits, or a sign and any number of digits. -/
def year : Reader Int := do
  blanks
  match ← get with
  | '+' :: rest => set rest; return (← number 1 none)
  | '-' :: rest => set rest; return -(← number 1 none)
  | _ => return (← number 1 (some 4))

/-- A date whose numbers may be short. -/
def shortDate : Reader Date := do
  let year ← year
  char '-'
  let month ← shortNumber
  char '-'
  let day ← shortNumber
  return ⟨year, month, day⟩

/-! ## Spellings -/

/-- Date, time and offset, every part at its full width. -/
def withOffset : Reader Instant := do
  let year ← number 4 (some 4)
  char '-'
  let month ← number 2 (some 2)
  char '-'
  let day ← number 2 (some 2)
  let _ ← oneOf ['T', 't', ' ']
  let hour ← number 2 (some 2)
  char ':'
  let minute ← number 2 (some 2)
  char ':'
  let second ← number 2 (some 2)
  let nanos ← fraction
  let offset ← offset
  instantOf ⟨year, month, day⟩ hour minute second nanos offset

/-- Date and time without offset, with a separator between them. -/
def withoutOffset (separator : Reader Unit) : Reader Instant := do
  let date ← shortDate
  separator
  let hour ← shortNumber
  char ':'
  let minute ← shortNumber
  char ':'
  let second ← shortNumber
  let nanos ← fraction
  instantOf date hour minute second nanos 0

/-- A date alone. -/
def dateAlone : Reader Instant := do
  let date ← shortDate
  instantOf date 0 0 0 0 0

/-- The milliseconds between `/Date(` and `)/`: the first piece between signs that is not empty,
    negative if the whole begins with a minus sign. -/
def millis? (body : List Char) : Option Int := do
  let digits ← (Text.pieces (fun c => c == '+' || c == '-') body).find? (!·.isEmpty)
  let size ← Decimal.natural? digits
  if !decide (FitsInt64 size) then none
  return if body.head? = some '-' then -(size : Int) else size

/-- What stands between a given beginning and a given end. -/
def between? (opening closing text : List Char) : Option (List Char) :=
  if opening.isPrefixOf text ∧ closing.isSuffixOf (text.drop opening.length) then
    some ((text.drop opening.length).take (text.length - opening.length - closing.length))
  else none

/-- The instant that a text spells. -/
def instant? (text : String) : Option Instant :=
  let text := Text.trimChars text.toList
  match between? "/Date(".toList ")/".toList text with
  | some body => (millis? body).bind Instant.ofMillis?
  | none =>
    all? withOffset text
      <|> all? (withoutOffset (char 'T')) text
      <|> all? (withoutOffset blanks) text
      <|> all? dateAlone text

end ResourceFeed.Calendar
