import ResourceFeed.Client.Feed
import ResourceFeed.Client.SettingsFile
import ResourceFeed.CommandLine.Invocation

/-! # Running commands

    A command prints lines and may fail; the lines before a failure stay
    printed.  Changing a resource reads it, makes all assignments and sends
    the changes at once, so that a wrong assignment changes nothing.
-/

namespace ResourceFeed.CommandLine

/-- What a command came to. -/
structure Transcript where
  /-- The lines printed. -/
  lines : List String
  failure : Option Failure
  /-- Whether the command was given up because pages without entries went on too long. -/
  undecided : Bool

namespace Transcript

/-- The transcript of an operation that prints one line. -/
def ofOutcome : Except Failure String → Transcript
  | .ok line => ⟨[line], none, false⟩
  | .error failure => ⟨[], some failure, false⟩

end Transcript

/-! ## Settings -/

/-- Settings with what the shared options say. -/
def SharedOptions.override (options : SharedOptions) (settings : Settings) : Settings :=
  { settings with
    baseUrl := options.baseUrl.getD settings.baseUrl
    credentials := match options.user with
      | some user => some ⟨user, options.password.getD ""⟩
      | none => settings.credentials
    pageSize := options.pageSize.or settings.pageSize }

/-- The settings of a command: those of the settings file, if there is one, with what the shared
    options say. -/
def SharedOptions.settings (options : SharedOptions) (file : Option String) :
    Except Failure Settings := do
  let settings ← match file with
    | some text => Settings.ofFile text
    | none => pure Settings.initial
  (options.override settings).validated

/-! ## Queries -/

/-- The predicate that a field has a value. -/
def Assignment.predicate (assignment : Assignment) : Expr :=
  .binary .eq (.field assignment.field) (.constant assignment.value)

namespace QueryArguments

/-- The predicate that all filters hold, if there are any. -/
def predicate? (query : QueryArguments) : Option Expr :=
  match query.filters with
  | [] => none
  | first :: rest =>
    some (rest.foldl (fun all next => .binary .and all next.predicate) first.predicate)

/-- The selector that builds a record of fields. -/
def selector (fields : List String) : Expr :=
  .construct (fields.map fun field => (field, .field field))

/-- The clauses of a query. -/
def clauses (query : QueryArguments) : List Clause :=
  query.predicate?.toList.map .filter
    ++ query.related.map (fun member => .related (.field member))
    ++ (if query.select.isEmpty then [] else [.project (selector query.select)])

end QueryArguments

/-! ## Commands -/

variable {σ : Type}

/-- The line for a value. -/
def valueLine (value : Value) : String :=
  value.toJson.render

/-- The line for an entity. -/
def entityLine (tracked : Tracked) : String :=
  valueLine (.record tracked.entity.visibleFields)

/-- The line for an item of a feed. -/
def itemLine : FeedItem → String
  | .entity tracked => entityLine tracked
  | .value value => valueLine value

/-- The address of a query. -/
def queryAddress (client : Client) (type : EntityType) (query : QueryArguments) : Run String := do
  let query ← Run.ofExcept (TypedQuery.ofClauses type.kind query.clauses)
  client.queryUrl query.chain

/-- The results of a query up to a limit. -/
def listItems [Peer σ] (client : Client) (type : EntityType) (query : QueryArguments)
    (limit : Option Nat) (link : Link σ) (patience : Nat) : Transcript × Link σ :=
  match (Exchange.ofRun (Feed.ofClauses client type none query.clauses)).runOn link with
  | (.error failure, link) => (⟨[], some failure, false⟩, link)
  | (.ok feed, link) =>
    let (collected, link) := feed.collect link limit patience
    (⟨collected.items.map itemLine, collected.failure, collected.undecided⟩, link)

/-- Makes one assignment; only writable fields can be assigned to. -/
def Assignment.applyTo (assignment : Assignment) (tracked : Tracked) : Except Failure Tracked :=
  let chosen (field : Field) : Bool := field.name == assignment.field && field.isWritable
  match tracked.set? chosen assignment.value.toJson with
  | some outcome => outcome
  | none => .error (.unsupportedMember assignment.field)

/-- Makes assignments in order, up to the first that cannot be made. -/
def assign (tracked : Tracked) (assignments : List Assignment) : Except Failure Tracked :=
  assignments.foldlM (fun tracked assignment => assignment.applyTo tracked) tracked

/-- Changes fields of a resource. -/
def changeResource [Peer σ] (client : Client) (type : EntityType) (id : String)
    (assignments : List Assignment) : Exchange σ Tracked := do
  let tracked ← client.get type id
  let tracked ← Exchange.ofExcept (assign tracked assignments)
  client.save tracked

/-- Reads a resource and deletes it. -/
def deleteResource [Peer σ] (client : Client) (type : EntityType) (id : String) :
    Exchange σ Tracked := do
  let tracked ← client.get type id
  client.delete tracked

/-- The line that says that a resource was deleted. -/
def deletedLine (type : EntityType) (id : String) : String :=
  "Deleted " ++ Identity.text ⟨type.kind, id⟩

/-- Runs an operation that prints one line. -/
def runLine (operation : Exchange σ String) (link : Link σ) : Transcript × Link σ :=
  let (outcome, link) := operation.runOn link
  (.ofOutcome outcome, link)

/-- Runs a command.  Reading a feed takes at most `patience` steps. -/
def Command.run [Peer σ] (command : Command) (client : Client) (link : Link σ)
    (patience : Nat) : Transcript × Link σ :=
  match command with
  | .address type query => runLine (Exchange.ofRun (queryAddress client type query)) link
  | .list type query limit => listItems client type query limit link patience
  | .get type id => runLine (entityLine <$> client.get type id) link
  | .set type id assignments =>
    runLine (entityLine <$> changeResource client type id assignments) link
  | .delete type id =>
    runLine ((fun _ => deletedLine type id) <$> deleteResource client type id) link

/-- Runs what a command line asks for, with the text of its settings file. -/
def Invocation.run [Peer σ] (invocation : Invocation) (file : Option String) (peer : σ)
    (patience : Nat) : Transcript × Link σ :=
  let settings := invocation.options.settings file
  let versions := VersionStore.empty (settings.toOption.bind (·.tokenCapacity))
  let link : Link σ := ⟨versions, peer, [], []⟩
  match settings.bind fun settings => Client.ofSettings settings catalog with
  | .error failure => (⟨[], some failure, false⟩, link)
  | .ok client => invocation.command.run client link patience

end ResourceFeed.CommandLine
