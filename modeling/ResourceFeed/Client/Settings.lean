import ResourceFeed.Failure
import ResourceFeed.Query.Target

/-! # Settings

    What a client is told: where the server is, how long to wait for it, how
    many resources to ask for at a time, as whom, and how many versions to
    remember.
-/

namespace ResourceFeed

/-- A span of time; less than one thousand million nanoseconds beside the seconds. -/
structure Timeout where
  seconds : Nat
  nanos : Nat
  deriving DecidableEq, Repr

namespace Timeout

/-- A span of time from any number of nanoseconds. -/
def ofParts (seconds nanos : Nat) : Timeout :=
  ⟨seconds + nanos / 1000000000, nanos % 1000000000⟩

/-- A number with a fraction in units of `10 ^ -places`, without zeros at its end. -/
def decimalText (whole fraction places : Nat) : String :=
  let digits := (Calendar.padded places fraction).toList.reverse.dropWhile (· == '0')
  toString whole ++ (if digits.isEmpty then "" else "." ++ String.ofList digits.reverse)

/-- The text of a span in the largest unit of which there is a whole one. -/
def text (timeout : Timeout) : String :=
  if 0 < timeout.seconds then decimalText timeout.seconds timeout.nanos 9 ++ "s"
  else if 1000000 ≤ timeout.nanos then
    decimalText (timeout.nanos / 1000000) (timeout.nanos % 1000000) 6 ++ "ms"
  else if 1000 ≤ timeout.nanos then
    decimalText (timeout.nanos / 1000) (timeout.nanos % 1000) 3 ++ "µs"
  else toString timeout.nanos ++ "ns"

end Timeout

/-- A name and a password. -/
structure Credentials where
  user : String
  password : String
  deriving DecidableEq, Repr

/-- The settings of a client. -/
structure Settings where
  /-- The root of all addresses. -/
  baseUrl : String
  timeout : Timeout
  /-- How many resources to ask for on the first page. -/
  pageSize : Option Nat
  credentials : Option Credentials
  /-- How many versions to remember; unbounded if `none`. -/
  tokenCapacity : Option Nat
  deriving DecidableEq, Repr

namespace Settings

/-- The settings of a client that is told nothing. -/
def initial : Settings :=
  ⟨"http://localhost:3333/sdata/slx/dynamic", ⟨30, 0⟩, none, none, none⟩

/-- The base address without the slashes at its end. -/
def trimmedBaseUrl (settings : Settings) : String :=
  Site.trimSlashes settings.baseUrl

/-- The first reason why the settings cannot be used. -/
def fault? (settings : Settings) : Option SettingsFault :=
  if settings.baseUrl = "" then some .emptyBaseUrl
  else if !("http://".toList.isPrefixOf settings.baseUrl.toList)
      && !("https://".toList.isPrefixOf settings.baseUrl.toList) then some .baseUrlScheme
  else if '?' ∈ settings.baseUrl.toList then some .baseUrlQuery
  else if settings.timeout = ⟨0, 0⟩ then some .zeroTimeout
  else if settings.pageSize = some 0 then some .zeroPageSize
  else if settings.tokenCapacity = some 0 then some .zeroTokenCapacity
  else none

/-- The settings, if they can be used. -/
def validated (settings : Settings) : Except Failure Settings :=
  match settings.fault? with
  | none => .ok settings
  | some fault => .error (.settings fault)

/-- A value that may be missing, in diagnostics. -/
def optionText (text : α → String) : Option α → String
  | none => "None"
  | some value => "Some(" ++ text value ++ ")"

/-- Credentials in diagnostics, which do not show the password. -/
def credentialsText (credentials : Credentials) : String :=
  "Credentials \x7b user: " ++ Text.quoted credentials.user ++ ", password: \"***\" \x7d"

/-- Settings in diagnostics. -/
def diagnosticText (settings : Settings) : String :=
  "SDataConfig \x7b base_url: " ++ Text.quoted settings.baseUrl
    ++ ", timeout: " ++ settings.timeout.text
    ++ ", page_size: " ++ optionText toString settings.pageSize
    ++ ", credentials: " ++ optionText credentialsText settings.credentials
    ++ ", token_cache_capacity: " ++ optionText toString settings.tokenCapacity ++ " \x7d"

end Settings

end ResourceFeed
