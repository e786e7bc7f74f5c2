import ResourceFeed.Failure
import ResourceFeed.Query.Run
import ResourceFeed.Text.Utf8
import ResourceFeed.Version.Store

/-! # Exchanges with a server

    A client sends requests and gets responses.  What answers is a *peer*: a
    state and, for each request in that state, a response or a failure and the
    next state.  A peer may be a recording of responses, or a server with a
    state of its own.

    An operation of a client works on a *link*: the versions that it knows,
    the peer, the requests sent so far and the host events so far.  An
    operation that fails leaves in the link what it did before it failed.
-/

namespace ResourceFeed

/-- The method of a request. -/
inductive Method where
  | get
  | post
  | put
  | delete
  deriving DecidableEq, Repr

/-- The name of a method. -/
def Method.name : Method → String
  | .get => "GET"
  | .post => "POST"
  | .put => "PUT"
  | .delete => "DELETE"

/-- A request. -/
structure Request where
  method : Method
  url : String
  /-- The kind of content that is understood. -/
  accept : String
  /-- The version that the resource must have; the empty text is sent too. -/
  ifMatch : Option String
  body : Option String
  deriving DecidableEq, Repr

/-- A response. -/
structure Response where
  status : Nat
  /-- The version of the resource, if the header gives it. -/
  etag : Option String
  body : Text.Bytes
  deriving DecidableEq, Repr

namespace Response

/-- Whether the status means success. -/
def isSuccess (response : Response) : Bool :=
  200 ≤ response.status && response.status < 300

/-- The body as text. -/
def text (response : Response) : String :=
  Text.ofBytesLossy response.body

end Response

/-- What answers requests. -/
class Peer (σ : Type) where
  /-- The answer to a request in a state, and the state after it. -/
  answer : Request → σ → Except Failure Response × σ

/-- What an operation of a client works on. -/
structure Link (σ : Type) where
  versions : VersionStore
  peer : σ
  /-- The requests sent, in order. -/
  sent : List Request
  /-- What evaluations did in the host program, in order. -/
  events : List Event

/-- The link after a request was sent, whatever the answer was. -/
def Link.sending [Peer σ] (link : Link σ) (request : Request) : Link σ :=
  { link with
    peer := (Peer.answer request link.peer).2
    sent := link.sent ++ [request] }

/-- An operation of a client. -/
abbrev Exchange (σ α : Type) := ExceptT Failure (StateM (Link σ)) α

namespace Exchange

variable {σ α : Type}

/-- Runs an operation on a link. -/
def runOn (operation : Exchange σ α) (link : Link σ) : Except Failure α × Link σ :=
  (ExceptT.run operation).run link

/-- An outcome as an operation. -/
def ofExcept (outcome : Except Failure α) : Exchange σ α :=
  match outcome with
  | .ok value => pure value
  | .error failure => throw failure

/-- Sends a request. -/
def send [Peer σ] (request : Request) : Exchange σ Response := do
  let link ← get
  let (answer, peer) := Peer.answer request link.peer
  set { link with peer := peer, sent := link.sent ++ [request] }
  ofExcept answer

/-- A run as an operation; its events are added to those of the link. -/
def ofRun (run : Run α) : Exchange σ α := do
  modify fun link => { link with events := link.events ++ run.events }
  ofExcept run.outcome

/-- The token of an identity. -/
def version? (identity : Identity) : Exchange σ (Option String) := do
  return (← get).versions.get? identity

/-- Changes the versions. -/
def modifyVersions (change : VersionStore → VersionStore) : Exchange σ Unit :=
  modify fun link => { link with versions := change link.versions }

/-! ## Laws

    What each operation does to a link.  A longer operation is opened by
    rewriting with `runOn_bind` and the law of its first part. -/

section laws
variable {β : Type}

@[simp] theorem runOn_pure (value : α) (link : Link σ) :
    (pure value : Exchange σ α).runOn link = (.ok value, link) := rfl

@[simp] theorem runOn_throw (failure : Failure) (link : Link σ) :
    (throw failure : Exchange σ α).runOn link = (.error failure, link) := rfl

/-- Two operations in turn: the second one works on what the first one leaves, unless that fails. -/
theorem runOn_bind (operation : Exchange σ α) (next : α → Exchange σ β) (link : Link σ) :
    (operation >>= next).runOn link =
      match operation.runOn link with
      | (.ok value, link) => (next value).runOn link
      | (.error failure, link) => (.error failure, link) := by
  unfold runOn
  rw [ExceptT.run_bind, StateT.run_bind]
  change (match (ExceptT.run operation).run link with | (a, s) => _) = _
  rcases (ExceptT.run operation).run link with ⟨outcome, link'⟩
  cases outcome with
  | ok value => rfl
  | error failure => rfl

@[simp] theorem runOn_ofExcept (outcome : Except Failure α) (link : Link σ) :
    (ofExcept outcome : Exchange σ α).runOn link = (outcome, link) := by
  cases outcome with
  | ok value => rfl
  | error failure => rfl

@[simp] theorem runOn_send [Peer σ] (request : Request) (link : Link σ) :
    (send request).runOn link =
      ((Peer.answer request link.peer).1, link.sending request) := by
  have h : (send request).runOn link
      = (ofExcept (Peer.answer request link.peer).1).runOn (link.sending request) := rfl
  rw [h, runOn_ofExcept]

@[simp] theorem runOn_modifyVersions (change : VersionStore → VersionStore) (link : Link σ) :
    (modifyVersions change : Exchange σ Unit).runOn link =
      (.ok (), { link with versions := change link.versions }) := rfl

end laws

end Exchange

end ResourceFeed
