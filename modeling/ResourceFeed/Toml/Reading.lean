import ResourceFeed.Toml.Numbers
import ResourceFeed.Toml.Strings
import ResourceFeed.Toml.Table

/-! # Reading TOML

    The grammar of TOML 1.0.  Arrays and inline tables nest less than 80 deep
    and keys have fewer than 80 parts.  A byte order mark may stand before the
    document.
-/

namespace ResourceFeed.Toml.Grammar

open Text Text.Reader

/-! ## Keys -/

/-- A part of a key. -/
def keyPart : Reader String :=
  basicString <|> literalString <|> (do
    let text ← someRun fun c => c.isAlphanum || c = '-' || c = '_'
    return String.ofList text)

/-- A key: parts with dots between them. -/
def key : Reader Path := do
  let parts ← separated (do spaces; let part ← keyPart; spaces; return part) (char '.')
  only (parts.length < 80)
  match parts.reverse with
  | last :: before => return (before.reverse, last)
  | [] => refuse

/-! ## Values -/

/-- A value that holds no other. -/
def scalar : Reader Toml :=
  (do return .string (← string))
    <|> (do literal "true".toList; return .boolean true)
    <|> (do literal "false".toList; return .boolean false)
    <|> (do datetime; return .datetime)
    <|> (do return .float (← decimalFloat))
    <|> (do return .float (← specialFloat))
    <|> (do return .integer (← integer))

/-- An array of values; a comma may follow the last one. -/
def array (value : Reader Toml) : Reader Toml := do
  char '['
  let items ← maybe (separated (do gap; let item ← value; gap; return item) (char ','))
  let _ ← maybe (if items.isSome then char ',' else refuse)
  gap
  char ']'
  return .array (items.getD [])

/-- A key with its value. -/
def pair (value : Reader Toml) : Reader (Path × Toml) := do
  let path ← key
  char '='
  spaces
  let value ← value
  return (path, value)

/-- A table on one line. -/
def inlineTable (value : Reader Toml) : Reader Toml := do
  char '\x7b'
  let pairs ← maybe (separated (do let pair ← pair value; spaces; return pair) (char ','))
  spaces
  char '\x7d'
  lift? (ofPairs? (pairs.getD []))

/-- A value in which arrays and tables nest up to a depth. -/
def value : Nat → Reader Toml
  | 0 => scalar
  | depth + 1 => scalar <|> array (value depth) <|> inlineTable (value depth)

/-! ## Documents -/

/-- A statement. -/
def statement : Reader Statement :=
  (do char '['; char '['; let path ← key; char ']'; char ']'; return .listHeader path)
    <|> (do char '['; let path ← key; char ']'; return .header path)
    <|> (do let (path, value) ← pair (value 79); return .pair path value)

/-- A line with a statement or without one. -/
def line : Reader (Option Statement) := do
  spaces
  let statement ← maybe statement
  lineTail
  return statement

/-- The lines of a document. -/
def lines : Reader (List Statement) := do
  let _ ← maybe (char '\ufeff')
  let found ← separated line newline
  return found.filterMap id

end Grammar

/-- The members of a document. -/
def ofText? (text : String) : Option (List (String × Toml)) :=
  (Text.Reader.all? Grammar.lines text.toList).bind ofStatements?

end ResourceFeed.Toml
