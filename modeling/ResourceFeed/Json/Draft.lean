import ResourceFeed.Json.Token

/-! # Drafts of JSON values

    A draft is the tree of a JSON text before numbers and strings are given
    their values: every member of an object in the order written, repeated
    names included.  It is built by a machine with a stack that takes one
    token at a time, so a text of any depth is read.

    A reader that ignores a member ignores it as a draft: neither the depth
    of the member, nor the size of its numbers, nor the code units of its
    strings can make it fail.
-/

namespace ResourceFeed.Json

/-- A JSON value as written. -/
inductive Draft where
  | word (word : Word)
  | numeral (numeral : Numeral)
  | string (parts : List StringPart)
  | array (items : List Draft)
  | object (members : List (List StringPart × Draft))

namespace Draft

/-- An array or object that has been opened.  What it holds so far is in reverse. -/
inductive Frame where
  | array (items : List Draft)
  | object (members : List (List StringPart × Draft))
  /-- An object whose next member has this name. -/
  | member (members : List (List StringPart × Draft)) (name : List StringPart)

/-- What may come next. -/
inductive Phase where
  | value
  /-- After an opening bracket: an item or the closing bracket. -/
  | firstItem
  /-- After an opening brace: a name or the closing brace. -/
  | firstName
  | name
  | colon
  /-- After a value inside of an array or object. -/
  | after
  | finished (draft : Draft)

/-- The opened arrays and objects, innermost first, and what may come next. -/
structure Machine where
  stack : List Frame
  phase : Phase

namespace Machine

/-- Adds a finished value to what encloses it. -/
def complete? (stack : List Frame) (draft : Draft) : Option Machine :=
  match stack with
  | [] => some ⟨[], .finished draft⟩
  | .array items :: rest => some ⟨.array (draft :: items) :: rest, .after⟩
  | .member members name :: rest => some ⟨.object ((name, draft) :: members) :: rest, .after⟩
  | .object _ :: _ => none

/-- A token where a value begins. -/
def value? (stack : List Frame) (token : Token) : Option Machine :=
  match token with
  | .openArray => some ⟨.array [] :: stack, .firstItem⟩
  | .openObject => some ⟨.object [] :: stack, .firstName⟩
  | .word spelled => complete? stack (.word spelled)
  | .numeral written => complete? stack (.numeral written)
  | .string parts => complete? stack (.string parts)
  | _ => none

/-- A token where a name must come. -/
def name? (stack : List Frame) (token : Token) : Option Machine :=
  match stack, token with
  | .object members :: rest, .string name => some ⟨.member members name :: rest, .colon⟩
  | _, _ => none

/-- One token. -/
def step? (machine : Machine) (token : Token) : Option Machine :=
  match machine.phase, machine.stack, token with
  | .firstItem, .array _ :: rest, .closeArray => complete? rest (.array [])
  | .firstItem, stack, token => value? stack token
  | .value, stack, token => value? stack token
  | .firstName, .object _ :: rest, .closeObject => complete? rest (.object [])
  | .firstName, stack, token => name? stack token
  | .name, stack, token => name? stack token
  | .colon, stack, .colon => some ⟨stack, .value⟩
  | .after, .array items :: rest, .closeArray => complete? rest (.array items.reverse)
  | .after, .array items :: rest, .comma => some ⟨.array items :: rest, .value⟩
  | .after, .object members :: rest, .closeObject => complete? rest (.object members.reverse)
  | .after, .object members :: rest, .comma => some ⟨.object members :: rest, .name⟩
  | _, _, _ => none

end Machine

/-- The draft that a list of tokens spells. -/
def ofTokens? (tokens : List Token) : Option Draft := do
  let machine ← tokens.foldlM Machine.step? ⟨[], .value⟩
  match machine.phase with
  | .finished draft => some draft
  | _ => none

/-- The draft of a text. -/
def ofChars? (text : List Char) : Option Draft :=
  (Token.ofChars? text).bind ofTokens?

end Draft

end ResourceFeed.Json
