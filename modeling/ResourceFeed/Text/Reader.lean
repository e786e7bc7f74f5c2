import ResourceFeed.Text.Blank

/-! # Readers

    A reader takes a part off the front of a text, or refuses the text.  What
    one reader leaves the next one takes; `<|>` tries another reader on the
    same text when the first refuses.
-/

namespace ResourceFeed.Text

/-- Takes a part off the front of a text, or refuses the text. -/
abbrev Reader := StateT (List Char) Option

namespace Reader

/-- Runs a reader on a whole text. -/
def all? (reader : Reader α) (text : List Char) : Option α :=
  match reader.run text with
  | some (value, []) => some value
  | _ => none

/-- Refuses every text. -/
def refuse : Reader α := fun _ => none

/-- Takes only if a condition holds. -/
def only (condition : Bool) : Reader Unit :=
  if condition then pure () else refuse

/-- A value that may be missing; refuses if it is. -/
def lift? (value : Option α) : Reader α :=
  match value with
  | some value => pure value
  | none => refuse

/-- Takes one character that satisfies a condition. -/
def satisfy (condition : Char → Bool) : Reader Char := fun text =>
  match text with
  | c :: rest => if condition c then some (c, rest) else none
  | [] => none

/-- Takes one given character. -/
def char (c : Char) : Reader Unit := fun text =>
  match text with
  | d :: rest => if d = c then some ((), rest) else none
  | [] => none

/-- Takes one of several characters. -/
def oneOf (cs : List Char) : Reader Char :=
  satisfy fun c => c ∈ cs

/-- Takes given characters. -/
def literal (cs : List Char) : Reader Unit := fun text =>
  if cs.isPrefixOf text then some ((), text.drop cs.length) else none

/-- Takes the characters before the first that fails a condition. -/
def run (condition : Char → Bool) : Reader (List Char) := fun text =>
  some (text.takeWhile condition, text.dropWhile condition)

/-- Takes the characters before the first that fails a condition, at least one of them. -/
def someRun (condition : Char → Bool) : Reader (List Char) := do
  let taken ← run condition
  only (!taken.isEmpty)
  return taken

/-- Takes whatever blanks come first. -/
def blanks : Reader Unit := fun text =>
  some ((), trimStart text)

/-- Takes what a reader takes, or nothing if it refuses. -/
def maybe (reader : Reader α) : Reader (Option α) := fun text =>
  match reader text with
  | some (value, rest) => some (some value, rest)
  | none => some (none, text)

/-- Runs a reader up to `most` times, as long as it takes something. -/
def upTo (reader : Reader α) : Nat → Reader (List α)
  | 0 => pure []
  | most + 1 => fun text =>
    match reader text with
    | some (value, rest) =>
      if rest.length < text.length then
        (upTo reader most rest).map fun taken => (value :: taken.1, taken.2)
      else some ([], text)
    | none => some ([], text)

/-- Runs a reader as often as it takes something. -/
def many (reader : Reader α) : Reader (List α) := fun text =>
  upTo reader text.length text

/-- One or more of what a reader takes, with separators between them. -/
def separated (reader : Reader α) (separator : Reader Unit) : Reader (List α) := do
  let first ← reader
  let rest ← many (separator *> reader)
  return first :: rest

end Reader

end ResourceFeed.Text
