import ResourceFeed.Json.Token
import ResourceFeed.Text.Reader

/-! # TOML strings

    Strings stand between quotation marks, in which a backslash escapes, or
    between apostrophes, in which nothing does.  Three such characters open
    and close a string of several lines, which may hold one or two of them in
    a row and drops a line end at its beginning.
-/

namespace ResourceFeed.Toml.Grammar

open Text Text.Reader

/-! ## Characters -/

/-- Whether a character may stand in a comment: no control character but the tabulator. -/
def isVisible (c : Char) : Bool :=
  c = '\t' || (0x20 ≤ c.toNat && c.toNat ≠ 0x7f)

/-- Whether a character is a blank within a line. -/
def isSpace (c : Char) : Bool :=
  c = ' ' || c = '\t'

/-- Takes blanks within a line. -/
def spaces : Reader Unit := do
  let _ ← run isSpace

/-- Takes the end of a line. -/
def newline : Reader Unit :=
  char '\n' <|> literal ['\r', '\n']

/-- Takes a comment up to the end of its line. -/
def comment : Reader Unit := do
  char '#'
  let _ ← run isVisible

/-- Takes blanks and a comment, if there is one. -/
def lineTail : Reader Unit := do
  spaces
  let _ ← maybe comment

/-- Takes blanks, line ends and comments, as they may stand within an array. -/
def gap : Reader Unit := do
  let _ ← many ((do let _ ← satisfy isSpace) <|> newline <|> (comment *> newline))

/-! ## Strings -/

/-- Takes hexadecimal digits and gives the character of their number. -/
def codePoint (count : Nat) : Reader Char := do
  let digits ← (List.replicate count ()).mapM fun _ =>
    satisfy fun c => (Json.Token.hexDigit? c).isSome
  let code := digits.foldl (fun n c => 16 * n + (Json.Token.hexDigit? c).getD 0) 0
  only (code < 0xd800 || (0xdfff < code && code ≤ 0x10ffff))
  return Char.ofNat code

/-- Takes what may follow a backslash and gives the character that it stands for. -/
def escaped : Reader Char := do
  match ← satisfy (fun _ => true) with
  | 'b' => return '\x08'
  | 't' => return '\t'
  | 'n' => return '\n'
  | 'f' => return '\x0c'
  | 'r' => return '\r'
  | '"' => return '"'
  | '\\' => return '\\'
  | 'u' => codePoint 4
  | 'U' => codePoint 8
  | _ => refuse

/-- A string between quotation marks. -/
def basicString : Reader String := do
  char '"'
  let parts ← many (someRun (fun c => isVisible c && c ≠ '"' && c ≠ '\\')
    <|> (do char '\\'; return [← escaped]))
  char '"'
  return String.ofList parts.flatten

/-- A string between apostrophes, in which nothing is escaped. -/
def literalString : Reader String := do
  char '\''
  let text ← run fun c => isVisible c && c ≠ '\''
  char '\''
  return String.ofList text

/-- Takes fewer than three of a quotation character that others follow. -/
def innerQuotes (quote : Char) : Reader (List Char) := do
  let quotes ← someRun (· == quote)
  only (quotes.length < 3)
  return quotes

/-- Takes the closing quotation characters; up to two more before them belong to the string. -/
def closingQuotes (quote : Char) : Reader (List Char) := do
  let quotes ← run (· == quote)
  only (3 ≤ quotes.length && quotes.length ≤ 5)
  return quotes.drop 3

/-- A line end in a string of several lines. -/
def stringNewline : Reader (List Char) := do
  newline
  return ['\n']

/-- A backslash at the end of a line, which joins the line to the next text. -/
def lineJoin : Reader (List Char) := do
  spaces
  newline
  let _ ← many ((do let _ ← satisfy isSpace) <|> newline)
  return []

/-- A string of several lines between three quotation marks. -/
def basicLines : Reader String := do
  literal ['"', '"', '"']
  let _ ← maybe newline
  let parts ← many (someRun (fun c => isVisible c && c ≠ '"' && c ≠ '\\')
    <|> stringNewline
    <|> (do char '\\'; lineJoin <|> (do return [← escaped]))
    <|> innerQuotes '"')
  let last ← closingQuotes '"'
  return String.ofList (parts.flatten ++ last)

/-- A string of several lines between three apostrophes. -/
def literalLines : Reader String := do
  literal ['\'', '\'', '\'']
  let _ ← maybe newline
  let parts ← many (someRun (fun c => isVisible c && c ≠ '\'')
    <|> stringNewline
    <|> innerQuotes '\'')
  let last ← closingQuotes '\''
  return String.ofList (parts.flatten ++ last)

/-- A string of any form. -/
def string : Reader String :=
  basicLines <|> basicString <|> literalLines <|> literalString

end ResourceFeed.Toml.Grammar
