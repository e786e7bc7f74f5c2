/-! # Tokens of JSON text

    A JSON text is cut into brackets, separators, words, numerals and strings.
    The cutter is a machine that takes one character at a time: it is between
    two tokens or inside of one, and a character that cannot continue a
    numeral or a word ends it and is taken again between tokens.

    A token only has the form of its kind.  Whether a numeral has a value and
    whether the code units of a string pair up is decided when a value is made
    of them (`Json.ofDraft?`).
-/

namespace ResourceFeed.Json

/-- A part of a string: a character, or a UTF-16 code unit given by its number. -/
inductive StringPart where
  | char (c : Char)
  | unit (code : Nat)

/-- A number as written. -/
structure Numeral where
  negative : Bool
  /-- The digits before the point. -/
  whole : List Char
  /-- The digits after the point, if there is one. -/
  fraction : Option (List Char)
  exponent : Option Int

/-- The three words. -/
inductive Word where
  | null
  | true
  | false

/-- A token. -/
inductive Token where
  | openObject
  | closeObject
  | openArray
  | closeArray
  | colon
  | comma
  | word (word : Word)
  | numeral (numeral : Numeral)
  | string (parts : List StringPart)

namespace Token

/-- Where inside a numeral the machine is.  Digits are held in reverse. -/
inductive NumeralState where
  | minus
  /-- After a leading zero, which no digit may follow. -/
  | zero
  | whole (digits : List Char)
  | point (front : List Char)
  | fraction (front digits : List Char)
  /-- After the letter of the exponent; the digits before and after the point are finished. -/
  | letter (front : List Char) (back : Option (List Char))
  | exponentSign (front : List Char) (back : Option (List Char)) (negative : Bool)
  | exponent (front : List Char) (back : Option (List Char)) (negative : Bool) (size : Nat)

namespace NumeralState

/-- The state after one more character, if the numeral goes on with it. -/
def next? (state : NumeralState) (c : Char) : Option NumeralState :=
  let isExponent := c == 'e' || c == 'E'
  match state with
  | .minus => if c == '0' then some .zero else if c.isDigit then some (.whole [c]) else none
  | .zero =>
    if c == '.' then some (.point ['0'])
    else if isExponent then some (.letter ['0'] none)
    else none
  | .whole digits =>
    if c.isDigit then some (.whole (c :: digits))
    else if c == '.' then some (.point digits)
    else if isExponent then some (.letter digits none)
    else none
  | .point front => if c.isDigit then some (.fraction front [c]) else none
  | .fraction front digits =>
    if c.isDigit then some (.fraction front (c :: digits))
    else if isExponent then some (.letter front (some digits))
    else none
  | .letter front back =>
    if c == '+' then some (.exponentSign front back false)
    else if c == '-' then some (.exponentSign front back true)
    else if c.isDigit then some (.exponent front back false (c.toNat - 48))
    else none
  | .exponentSign front back negative =>
    if c.isDigit then some (.exponent front back negative (c.toNat - 48)) else none
  | .exponent front back negative size =>
    if c.isDigit then some (.exponent front back negative (10 * size + (c.toNat - 48)))
    else none

/-- The numeral, if it may end here. -/
def finish? (state : NumeralState) (negative : Bool) : Option Numeral :=
  match state with
  | .zero => some ⟨negative, ['0'], none, none⟩
  | .whole digits => some ⟨negative, digits.reverse, none, none⟩
  | .fraction front digits => some ⟨negative, front.reverse, some digits.reverse, none⟩
  | .exponent front back below size =>
    some ⟨negative, front.reverse, back.map List.reverse,
      some (if below then -(size : Int) else size)⟩
  | .minus | .point _ | .letter .. | .exponentSign .. => none

end NumeralState

/-- Where the machine is.  What has been taken of a token is held in reverse. -/
inductive State where
  | between
  | word (letters : List Char)
  | numeral (negative : Bool) (state : NumeralState)
  | string (parts : List StringPart)
  /-- After a backslash. -/
  | escape (parts : List StringPart)
  /-- Inside the four hexadecimal digits of a code unit, `left` of which are due. -/
  | unit (parts : List StringPart) (left : Nat) (code : Nat)

/-- The word of its letters. -/
def word? (letters : List Char) : Option Token :=
  match String.ofList letters with
  | "null" => some (.word .null)
  | "true" => some (.word .true)
  | "false" => some (.word .false)
  | _ => none

/-- One character between two tokens: at most one token, and the state after it. -/
def begin? (c : Char) : Option (List Token × State) :=
  match c with
  | ' ' | '\t' | '\n' | '\r' => some ([], .between)
  | '\x7b' => some ([.openObject], .between)
  | '\x7d' => some ([.closeObject], .between)
  | '[' => some ([.openArray], .between)
  | ']' => some ([.closeArray], .between)
  | ':' => some ([.colon], .between)
  | ',' => some ([.comma], .between)
  | '"' => some ([], .string [])
  | '-' => some ([], .numeral true .minus)
  | '0' => some ([], .numeral false .zero)
  | c =>
    if c.isDigit then some ([], .numeral false (.whole [c]))
    else if c.isAlpha then some ([], .word [c])
    else none

/-- The value of a hexadecimal digit. -/
def hexDigit? (c : Char) : Option Nat :=
  if c.isDigit then some (c.toNat - 48)
  else if 'a' ≤ c ∧ c ≤ 'f' then some (c.toNat - 87)
  else if 'A' ≤ c ∧ c ≤ 'F' then some (c.toNat - 55)
  else none

/-- The character that a letter after a backslash stands for. -/
def escaped? (c : Char) : Option Char :=
  match c with
  | '"' | '\\' | '/' => some c
  | 'b' => some '\x08'
  | 'f' => some '\x0c'
  | 'n' => some '\n'
  | 'r' => some '\r'
  | 't' => some '\t'
  | _ => none

/-- One character: the tokens that it completes, and the state after it. -/
def step? (state : State) (c : Char) : Option (List Token × State) :=
  match state with
  | .between => begin? c
  | .word letters =>
    if c.isAlpha then some ([], .word (c :: letters))
    else do
      let token ← word? letters.reverse
      let (tokens, state) ← begin? c
      return (token :: tokens, state)
  | .numeral negative state =>
    match state.next? c with
    | some state => some ([], .numeral negative state)
    | none => do
      let numeral ← state.finish? negative
      if c.isDigit then none
      let (tokens, state) ← begin? c
      return (.numeral numeral :: tokens, state)
  | .string parts =>
    if c == '"' then some ([.string parts.reverse], .between)
    else if c == '\\' then some ([], .escape parts)
    else if c.toNat < 0x20 then none
    else some ([], .string (.char c :: parts))
  | .escape parts =>
    if c == 'u' then some ([], .unit parts 4 0)
    else (escaped? c).map fun c => ([], .string (.char c :: parts))
  | .unit parts left code =>
    (hexDigit? c).map fun digit =>
      let code := 16 * code + digit
      if left ≤ 1 then ([], .string (.unit code :: parts)) else ([], .unit parts (left - 1) code)

/-- The tokens that the end of the text completes. -/
def finish? : State → Option (List Token)
  | .between => some []
  | .word letters => (word? letters.reverse).map fun token => [token]
  | .numeral negative state => (state.finish? negative).map fun numeral => [.numeral numeral]
  | .string _ | .escape _ | .unit .. => none

/-- The tokens of the text that follows a state; those found before it come in reverse. -/
def ofCharsFrom? (state : State) (found : List Token) : List Char → Option (List Token)
  | [] => (finish? state).map fun tokens => found.reverse ++ tokens
  | c :: rest => do
    let (tokens, state) ← step? state c
    ofCharsFrom? state (tokens.reverse ++ found) rest

/-- The tokens of a text. -/
def ofChars? (text : List Char) : Option (List Token) :=
  ofCharsFrom? .between [] text

end Token

end ResourceFeed.Json
