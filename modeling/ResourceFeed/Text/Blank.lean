/-! # Blank characters

    The characters that readers of free text skip at both ends: the property
    `White_Space` of the Unicode Character Database.  It holds the no-break
    space and the ideographic space, but neither the zero width space nor the
    byte order mark.
-/

namespace ResourceFeed.Text

/-- Whether a character has the property `White_Space`. -/
def isBlank (c : Char) : Bool :=
  let n := c.toNat
  (0x9 ≤ n && n ≤ 0xd) || n == 0x20 || n == 0x85 || n == 0xa0 || n == 0x1680
    || (0x2000 ≤ n && n ≤ 0x200a) || n == 0x2028 || n == 0x2029 || n == 0x202f
    || n == 0x205f || n == 0x3000

/-- A text without the blanks before its first other character. -/
def trimStart (text : List Char) : List Char :=
  text.dropWhile isBlank

/-- A text without the blanks at either end. -/
def trimChars (text : List Char) : List Char :=
  (trimStart (trimStart text).reverse).reverse

/-- A text without the blanks at either end. -/
def trim (text : String) : String :=
  String.ofList (trimChars text.toList)

end ResourceFeed.Text
