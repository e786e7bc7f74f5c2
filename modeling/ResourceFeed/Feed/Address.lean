import ResourceFeed.Text.Split

/-! # Parameters of an address

    Behind the first question mark of an address stand parameters between
    ampersands, each a name, an equals sign and a value.  Setting a parameter
    removes all that have its name, drops empty ones, and adds it at the end.
-/

namespace ResourceFeed.Address

/-- Whether a parameter begins with a name and an equals sign. -/
def hasName (name : List Char) (parameter : List Char) : Bool :=
  (name ++ ['=']).isPrefixOf parameter

/-- The parameters of an address that are not empty. -/
def parameters (address : List Char) : List (List Char) :=
  match (Text.splitFirst '?' address).2 with
  | none => []
  | some query => (Text.pieces (· == '&') query).filter fun parameter => !parameter.isEmpty

/-- What stands before the parameters. -/
def path (address : List Char) : List Char :=
  (Text.splitFirst '?' address).1

/-- Sets a parameter of an address given as characters. -/
def setChars (address name value : List Char) : List Char :=
  let kept := (parameters address).filter fun parameter => !hasName name parameter
  path address ++ '?' :: Text.join '&' (kept ++ [name ++ '=' :: value])

/-- Sets a parameter of an address. -/
def setParameter (address name value : String) : String :=
  String.ofList (setChars address.toList name.toList value.toList)

end ResourceFeed.Address
