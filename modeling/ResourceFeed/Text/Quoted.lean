import ResourceFeed.Text.Invisible

/-! # Quoted text

    A text between quotation marks, as diagnostics show it: the quotation mark
    and the backslash are written with a backslash, the line feed, carriage
    return, tabulator and NUL by a letter, and what has no visible form by its
    code point in hexadecimal.  The apostrophe stands as it is.
-/

namespace ResourceFeed.Text

/-- A number in lower-case hexadecimal, without leading zeros. -/
def hexadecimal (n : Nat) : String :=
  String.ofList (Nat.toDigits 16 n)

/-- A character as it stands between the quotation marks. -/
def quotedChar (c : Char) : String :=
  match c with
  | '"' => "\\\""
  | '\\' => "\\\\"
  | '\n' => "\\n"
  | '\r' => "\\r"
  | '\t' => "\\t"
  | '\x00' => "\\0"
  | c => if isInvisible c then "\\u\x7b" ++ hexadecimal c.toNat ++ "\x7d" else c.toString

/-- A text between quotation marks. -/
def quoted (text : String) : String :=
  "\"" ++ String.join (text.toList.map quotedChar) ++ "\""

end ResourceFeed.Text
