import ResourceFeed.CommandLine.Arguments
import ResourceFeed.CommandLine.Assignment
import ResourceFeed.CommandLine.Resources

/-! # Invocations

    What a command line asks for: options that all commands share, and one of
    five commands on contacts or accounts.  The shared options stand before
    the command.
-/

namespace ResourceFeed.CommandLine

/-- What a query on the command line is made of. -/
structure QueryArguments where
  /-- The fields that must have certain values. -/
  filters : List Assignment
  /-- The fields to project; none for whole resources. -/
  select : List String
  /-- The members whose resources are included. -/
  related : List String

/-- A command. -/
inductive Command where
  /-- Prints the address of a query. -/
  | address (type : EntityType) (query : QueryArguments)
  /-- Prints the results of a query, up to a limit. -/
  | list (type : EntityType) (query : QueryArguments) (limit : Option Nat)
  /-- Prints a resource. -/
  | get (type : EntityType) (id : String)
  /-- Changes fields of a resource. -/
  | set (type : EntityType) (id : String) (assignments : List Assignment)
  | delete (type : EntityType) (id : String)

/-- The options that all commands share. -/
structure SharedOptions where
  /-- The name of a settings file. -/
  config : Option String
  baseUrl : Option String
  user : Option String
  password : Option String
  pageSize : Option Nat

/-- What a command line asks for. -/
structure Invocation where
  options : SharedOptions
  command : Command

/-! ## Takers -/

/-- Sets what may be given once. -/
def once (value : α) : Option α → Except UsageFault (Option α)
  | none => .ok (some value)
  | some _ => .error .repeatedArgument

/-- Sets a number that may be given once. -/
def onceNumber (read : String → Option Nat) (text : String) :
    Option Nat → Except UsageFault (Option Nat)
  | some _ => .error .repeatedArgument
  | none =>
    match read text with
    | some number => .ok (some number)
    | none => .error .refusedValue

/-- Sets a text that may be given once and must not be empty. -/
def onceNonempty (text : String) : Option String → Except UsageFault (Option String)
  | some _ => .error .repeatedArgument
  | none => if text = "" then .error .invalidValue else .ok (some text)

/-- An integer of 64 bits that is also a number of 32 bits without sign. -/
def pageSize? (text : String) : Option Nat :=
  (Decimal.int64? text).bind fun size =>
    if 0 ≤ size.toInt ∧ size.toInt < limitUInt32 then some size.toInt.toNat else none

/-- A number of 64 bits without sign; a plus may precede its digits. -/
def limit? (text : String) : Option Nat :=
  let digits := match text.toList with
    | '+' :: rest => rest
    | chars => chars
  (Decimal.natural? digits).bind fun limit => if limit < limitUInt64 then some limit else none

/-- The resources that go by a name. -/
def typeNamed (text : String) : Except UsageFault EntityType :=
  if text = "contact" then .ok contact
  else if text = "account" then .ok account
  else .error .invalidValue

/-- An assignment as the value of an option or a positional argument. -/
def assignmentTaken (text : String) : Except UsageFault Assignment :=
  match Assignment.ofText text with
  | .ok assignment => .ok assignment
  | .error _ => .error .refusedValue

/-- The texts between commas, empty ones included. -/
def commaSeparated (text : String) : List String :=
  (Text.pieces (· == ',') text.toList).map String.ofList

/-! ## Grammars of the levels -/

/-- The names of the commands, and the command that explains them. -/
def commandNames : List String :=
  ["translate", "list", "get", "set", "delete", "help"]

/-- The shared options before any is given. -/
def SharedOptions.initial : SharedOptions :=
  ⟨none, none, none, none, none⟩

/-- The arguments before a command. -/
def sharedGrammar : Grammar SharedOptions where
  options := [
    ⟨"config", some 'c', fun options text =>
      (onceNonempty text options.config).map fun config => { options with config := config }⟩,
    ⟨"base-url", none, fun options text =>
      (once text options.baseUrl).map fun baseUrl => { options with baseUrl := baseUrl }⟩,
    ⟨"user", none, fun options text =>
      (once text options.user).map fun user => { options with user := user }⟩,
    ⟨"password", none, fun options text =>
      (once text options.password).map fun password => { options with password := password }⟩,
    ⟨"page-size", none, fun options text =>
      (onceNumber pageSize? text options.pageSize).map fun size =>
        { options with pageSize := size }⟩]
  positionals := []
  commands := commandNames

/-- What was given to a command so far. -/
structure CommandArguments where
  type : Option EntityType
  id : Option String
  assignments : List Assignment
  query : QueryArguments
  limit : Option Nat

/-- Before anything is given to a command. -/
def CommandArguments.initial : CommandArguments :=
  ⟨none, none, [], ⟨[], [], []⟩, none⟩

/-- The resources that a command is about. -/
def typeArgument : Positional CommandArguments where
  take := fun given text => (typeNamed text).map fun type => { given with type := some type }
  repeats := false

/-- The key of the resource that a command is about. -/
def idArgument : Positional CommandArguments where
  take := fun given text => .ok { given with id := some text }
  repeats := false

/-- The assignments that a command makes. -/
def assignmentArguments : Positional CommandArguments where
  take := fun given text => (assignmentTaken text).map fun assignment =>
    { given with assignments := given.assignments ++ [assignment] }
  repeats := true

/-- Changes the query among what was given. -/
def CommandArguments.onQuery (given : CommandArguments)
    (change : QueryArguments → QueryArguments) : CommandArguments :=
  { given with query := change given.query }

/-- The options that make a query. -/
def queryOptions : List (ValuedOption CommandArguments) := [
  ⟨"where", some 'w', fun given text => (assignmentTaken text).map fun assignment =>
    given.onQuery fun query => { query with filters := query.filters ++ [assignment] }⟩,
  ⟨"select", some 's', fun given text => .ok <|
    given.onQuery fun query => { query with select := query.select ++ commaSeparated text }⟩,
  ⟨"include", some 'i', fun given text => .ok <|
    given.onQuery fun query => { query with related := query.related ++ [text] }⟩]

/-- The option that limits the number of results. -/
def limitOption : ValuedOption CommandArguments :=
  ⟨"limit", some 'l', fun given text =>
    (onceNumber limit? text given.limit).map fun limit => { given with limit := limit }⟩

/-- What must be given; it is missing otherwise. -/
def required : Option α → Except UsageFault α
  | some value => .ok value
  | none => .error .missingArgument

/-- A command with its grammar, and how it is made of what was given. -/
structure CommandForm where
  grammar : Grammar CommandArguments
  make : CommandArguments → Except UsageFault Command

/-- The form of the command that goes by a name. -/
def CommandForm.named? : String → Option CommandForm
  | "translate" => some {
      grammar := ⟨queryOptions, [typeArgument], []⟩
      make := fun given => return .address (← required given.type) given.query }
  | "list" => some {
      grammar := ⟨queryOptions ++ [limitOption], [typeArgument], []⟩
      make := fun given => return .list (← required given.type) given.query given.limit }
  | "get" => some {
      grammar := ⟨[], [typeArgument, idArgument], []⟩
      make := fun given => return .get (← required given.type) (← required given.id) }
  | "set" => some {
      grammar := ⟨[], [typeArgument, idArgument, assignmentArguments], []⟩
      make := fun given =>
        if given.assignments.isEmpty then throw .missingArgument
        else return .set (← required given.type) (← required given.id) given.assignments }
  | "delete" => some {
      grammar := ⟨[], [typeArgument, idArgument], []⟩
      make := fun given => return .delete (← required given.type) (← required given.id) }
  | _ => none

/-! ## Reading a command line -/

/-- Reads the arguments of a command. -/
def CommandForm.read (form : CommandForm) (arguments : List String) :
    Except UsageFault Command := do
  let (reading, _) ← (Reading.start form.grammar .initial).readOn form.grammar arguments
  form.make (← reading.settled)

/-- The fault of a request for help: help is given on everything or on one command. -/
def helpFault : List String → UsageFault
  | [] => .help
  | [name] => if commandNames.contains name then .help else .invalidCommand
  | _ => .invalidCommand

/-- Reads the arguments of a command that goes by a name. -/
def commandOf (name : String) (arguments : List String) : Except UsageFault Command :=
  match CommandForm.named? name with
  | some form => form.read arguments
  | none => .error (helpFault arguments)

/-- The fault of a command line without a command. -/
def faultWithoutCommand (options : SharedOptions) : UsageFault :=
  if options.config.isNone && options.baseUrl.isNone && options.user.isNone
      && options.password.isNone && options.pageSize.isNone
  then .helpForNothing else .missingCommand

/-- Reads a command line.  The option before a command is taken after the command is read. -/
def Invocation.ofArguments (arguments : List String) : Except UsageFault Invocation := do
  let (reading, command) ← (Reading.start sharedGrammar .initial).readOn sharedGrammar arguments
  match command with
  | some (name, rest) =>
    let command ← commandOf name rest
    return ⟨← reading.settled, command⟩
  | none => throw (faultWithoutCommand (← reading.settled))

end ResourceFeed.CommandLine
