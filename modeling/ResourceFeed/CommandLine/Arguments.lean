/-! # Arguments of a command line

    Arguments are read one after the other against a grammar of options and
    positional arguments.  An option is spelled `--name value`, `--name=value`,
    `-n value`, `-nvalue` or `-n=value`; after `--` every argument is
    positional.  A grammar may have commands; the first argument that names
    one ends the reading, and what follows belongs to the command.

    The texts given to an option or to a positional argument are *held* and
    taken only when the next option or positional argument begins, or at the
    end.  So an unknown argument is reported before a text that cannot be
    taken, and all other faults in the order of the arguments.
-/

namespace ResourceFeed.CommandLine

/-- Why arguments cannot be used. -/
inductive UsageFault where
  | missingCommand
  | invalidCommand
  | missingArgument
  /-- A text outside of a fixed choice, or no text at all. -/
  | invalidValue
  /-- A text that its parameter does not take. -/
  | refusedValue
  | unknownArgument
  /-- An option given again that may be given once. -/
  | repeatedArgument
  /-- A text for an option that takes none. -/
  | surplusValue
  /-- Help was asked for. -/
  | help
  /-- There are no arguments at all. -/
  | helpForNothing
  deriving DecidableEq, Repr

/-- The name of a fault. -/
def UsageFault.name : UsageFault → String
  | .missingCommand => "MissingSubcommand"
  | .invalidCommand => "InvalidSubcommand"
  | .missingArgument => "MissingRequiredArgument"
  | .invalidValue => "InvalidValue"
  | .refusedValue => "ValueValidation"
  | .unknownArgument => "UnknownArgument"
  | .repeatedArgument => "ArgumentConflict"
  | .surplusValue => "TooManyValues"
  | .help => "DisplayHelp"
  | .helpForNothing => "DisplayHelpOnMissingArgumentOrSubcommand"

/-! ## Arguments by form -/

/-- An argument by its form. -/
inductive Argument where
  /-- The two dashes after which every argument is positional. -/
  | dashes
  | long (name : String) (value : Option String)
  | short (letter : Char) (value : Option String)
  | plain (text : String)
  deriving DecidableEq, Repr

namespace Argument

/-- A long option, with or without a value after an equals sign. -/
def ofLong (chars : List Char) : Argument :=
  let (name, rest) := chars.span (· != '=')
  .long (String.ofList name) (rest.tail?.map String.ofList)

/-- The value that is attached to a short option; an equals sign before it is left out. -/
def attached? : List Char → Option String
  | [] => none
  | '=' :: rest => some (String.ofList rest)
  | chars => some (String.ofList chars)

/-- The form of an argument.  A single dash is plain. -/
def ofText (text : String) : Argument :=
  match text.toList with
  | ['-', '-'] => .dashes
  | '-' :: '-' :: rest => ofLong rest
  | '-' :: letter :: rest => .short letter (attached? rest)
  | _ => .plain text

end Argument

/-! ## Grammars -/

/-- Takes one text into what was collected so far. -/
abbrev Taker (ρ : Type) := ρ → String → Except UsageFault ρ

/-- An option with a value. -/
structure ValuedOption (ρ : Type) where
  long : String
  short : Option Char
  take : Taker ρ

/-- A positional argument. -/
structure Positional (ρ : Type) where
  take : Taker ρ
  /-- Whether it takes all positional arguments that are left. -/
  repeats : Bool

/-- What arguments there are at one level of a command line, beside the options `--help` and
    `-h`, which ask for help everywhere. -/
structure Grammar (ρ : Type) where
  options : List (ValuedOption ρ)
  positionals : List (Positional ρ)
  commands : List String

/-- Texts that were given and have not been taken. -/
structure Held (ρ : Type) where
  take : Taker ρ
  texts : List String
  /-- Whether further positional arguments are added to the texts. -/
  grows : Bool

/-- How far the arguments of one level have been read. -/
structure Reading (ρ : Type) where
  collected : ρ
  held : Option (Held ρ)
  /-- Whether the held option still awaits its value. -/
  awaits : Bool
  /-- The positional arguments that are still to come. -/
  expected : List (Positional ρ)
  /-- Whether the two dashes have been read. -/
  dashed : Bool

namespace Reading

variable {ρ : Type}

/-- Before the first argument. -/
def start (grammar : Grammar ρ) (initial : ρ) : Reading ρ :=
  ⟨initial, none, false, grammar.positionals, false⟩

/-- Takes the held texts.  There must be at least one. -/
def settled (reading : Reading ρ) : Except UsageFault ρ :=
  match reading.held with
  | none => .ok reading.collected
  | some held =>
    if held.texts.isEmpty then .error .invalidValue
    else held.texts.foldlM held.take reading.collected

/-- Begins to hold texts after those held before are taken. -/
def hold (reading : Reading ρ) (held : Held ρ) : Except UsageFault (Reading ρ) :=
  reading.settled.map fun collected =>
    { reading with collected := collected, held := some held, awaits := held.texts.isEmpty }

/-- Adds a text to those held. -/
def add (reading : Reading ρ) (held : Held ρ) (text : String) : Reading ρ :=
  { reading with held := some { held with texts := held.texts ++ [text] }, awaits := false }

/-- Reads an option with the value that is attached to it, if there is one. -/
def option (reading : Reading ρ) (option : ValuedOption ρ) (value : Option String) :
    Except UsageFault (Reading ρ) :=
  reading.hold ⟨option.take, value.toList, false⟩

/-- Asks for help, after the held texts are taken. -/
def help (reading : Reading ρ) : Except UsageFault (Reading ρ) :=
  reading.settled.bind fun _ => .error .help

/-- The fault of a positional argument for which there is no place.  Where there are commands it
    is a command that does not exist, unless it is one behind the two dashes. -/
def surplus (grammar : Grammar ρ) (reading : Reading ρ) (text : String) : UsageFault :=
  if grammar.commands.isEmpty || reading.dashed && grammar.commands.contains text
  then .unknownArgument else .invalidCommand

/-- Reads a positional argument. -/
def positional (grammar : Grammar ρ) (reading : Reading ρ) (text : String) :
    Except UsageFault (Reading ρ) :=
  match reading.expected with
  | [] => .error (reading.surplus grammar text)
  | next :: rest =>
    if next.repeats then
      match reading.held with
      | some held =>
        if held.grows then .ok (reading.add held text)
        else reading.hold ⟨next.take, [text], true⟩
      | none => reading.hold ⟨next.take, [text], true⟩
    else ({ reading with expected := rest }).hold ⟨next.take, [text], false⟩

/-- Reads a plain argument: the value of an option that awaits one, or else a positional
    argument. -/
def plain (grammar : Grammar ρ) (reading : Reading ρ) (text : String) :
    Except UsageFault (Reading ρ) :=
  match reading.awaits, reading.held with
  | true, some held => .ok (reading.add held text)
  | _, _ => reading.positional grammar text

/-- Reads an argument. -/
def step (grammar : Grammar ρ) (reading : Reading ρ) (text : String) :
    Except UsageFault (Reading ρ) :=
  if reading.dashed then reading.positional grammar text
  else match Argument.ofText text with
    | .dashes => .ok { reading with dashed := true }
    | .plain text => reading.plain grammar text
    | .long "help" none => reading.help
    | .long "help" (some _) => .error .surplusValue
    | .long name value =>
      match grammar.options.find? fun option => option.long == name with
      | some option => reading.option option value
      | none => .error .unknownArgument
    | .short 'h' _ => reading.help
    | .short letter value =>
      match grammar.options.find? fun option => option.short == some letter with
      | some option => reading.option option value
      | none => .error .unknownArgument

/-- Whether an argument is read as the name of a command. -/
def namesCommand (grammar : Grammar ρ) (reading : Reading ρ) (text : String) : Bool :=
  !reading.dashed && !reading.awaits && grammar.commands.contains text

/-- Reads arguments up to the first that names a command; the command and what follows it. -/
def readOn (grammar : Grammar ρ) (reading : Reading ρ) :
    List String → Except UsageFault (Reading ρ × Option (String × List String))
  | [] => .ok (reading, none)
  | text :: rest =>
    if reading.namesCommand grammar text then .ok (reading, some (text, rest))
    else (reading.step grammar text).bind fun reading => readOn grammar reading rest

end Reading

end ResourceFeed.CommandLine
