import Mathlib.Data.List.Permutation
import ResourceFeed.Proofs.Client.Cursor
import ResourceFeed.Proofs.Client.Operations
import ResourceFeed.Proofs.Version.Lookup

/-! # One resource, many instances

    Any number of clients share one version store and hold any number of
    instances of one resource.  They read it, alone or from streams of feeds,
    edit their instances and send updates, in any order.  The server keeps the
    resource under a version, changes the version whenever it accepts an
    update, and refuses an update that names another version.

    The version that an update names is looked up in the shared store, under
    the identity of the resource, while the snapshot that the update was
    computed from belongs to the instance.  So the update names the version
    that was *recorded last by any instance*, and this is what the invariant
    follows: the recordings, newest first, of all instances together.

    - If an update is accepted, the version recorded last is the current one.
    - If nothing newer was recorded since the instance recorded a version
      itself, then its snapshot is of the current version, too.
    - Without that condition the snapshot may be older.
-/

namespace ResourceFeed.SharedVersions

/-! ### The resource -/

/-- A resource that a server keeps under a version. -/
structure VersionedResource (σ : Type) [Peer σ] where
  identity : Identity
  url : String
  /-- The addresses of feeds in which the resource may occur. -/
  isFeed : String → Prop
  /-- The version in a state of the server. -/
  version : σ → String
  version_ne_empty : ∀ state, version state ≠ ""
  /-- A read gives the current version. -/
  read_version : ∀ {state response entry},
    (Peer.answer (Request.read url) state).1 = .ok response →
    response.isSuccess = true →
    Entry.decode response.body = .ok entry →
    entry.version.or response.etag = some (version state)
  /-- So does every page, and it links to pages of the same kind. -/
  page_version : ∀ {address state page}, isFeed address →
    answeredPage address (Peer.answer (Request.read address) state).1 = .ok page →
    (∀ entry ∈ page.entries, entry.key = some identity.id →
      entry.version = some (version state)) ∧
    (∀ next, page.next = some next → isFeed next)
  /-- An accepted update names the current version, changes it and gives the new one. -/
  update_version : ∀ {request state response}, request.method = .put → request.url = url →
    (Peer.answer request state).1 = .ok response →
    response.isSuccess = true →
    request.ifMatch = some (version state) ∧
    version (Peer.answer request state).2 ≠ version state ∧
    (Client.answeredVersion response).or response.etag
      = some (version (Peer.answer request state).2)

/-- An update that names another version than the current one is answered with status 412. -/
def VersionedResource.RefusesOthers {σ : Type} [Peer σ] (resource : VersionedResource σ) : Prop :=
  ∀ request state, request.method = .put → request.url = resource.url →
    request.ifMatch ≠ some (resource.version state) →
    ∃ response, (Peer.answer request state).1 = .ok response ∧ response.status = 412

/-! ### States and actions -/

/-- A tracked entity of the resource. -/
structure Instance where
  tracked : Tracked
  /-- The version of which its snapshot was taken. -/
  seen : String

/-- A stream that is being read. -/
structure Stream where
  cursor : Cursor
  resolver : Resolver
  type : EntityType
  /-- The version of the resource when the current page was sent. -/
  served : String

/-- An instance put a version into the shared store. -/
structure Recording where
  holder : Nat
  version : String

/-- What the clients share and hold. -/
structure State (σ : Type) where
  link : Link σ
  instances : Nat → Option Instance
  streams : Nat → Option Stream
  /-- The recordings of the version of the resource, newest first. -/
  recordings : List Recording

namespace State

variable {σ : Type}

/-- Before the first action, only the link is there. -/
def initial (link : Link σ) : State σ :=
  ⟨link, fun _ => none, fun _ => none, []⟩

/-- The state with a stream as far as it has been read. -/
def streaming (state : State σ) (stream : Nat) (reading : Stream) : State σ :=
  { state with
    streams := fun other => if other = stream then some reading else state.streams other }

/-- The version that a holder recorded last. -/
def lastRecorded? (state : State σ) (holder : Nat) : Option String :=
  (state.recordings.find? fun recording => recording.holder = holder).map (·.version)

/-- If nothing but what a holder has seen was recorded since it recorded a version itself, then
    the version recorded last is the one that it has seen. -/
theorem seen_eq_of_unrecorded {state : State σ} {holder : Nat} {seen version : String}
    (hseen : state.lastRecorded? holder = some seen)
    (hlast : state.recordings.head?.map (·.version) = some version)
    (hsince : ∀ recording ∈
      state.recordings.takeWhile fun recording => recording.holder ≠ holder,
      recording.version = seen) :
    seen = version := by
  unfold lastRecorded? at hseen
  cases hrecordings : state.recordings with
  | nil =>
    rw [hrecordings] at hlast
    cases hlast
  | cons recording rest =>
    rw [hrecordings] at hlast hseen hsince
    have hversion : recording.version = version := Option.some.inj hlast
    rw [← hversion]
    by_cases hown : recording.holder = holder
    · -- the last recording is the holder's own
      rw [List.find?_cons_of_pos (by simpa using hown)] at hseen
      exact (Option.some.inj hseen).symm
    · -- it was made since, and so it is of the version that the holder has seen
      refine (hsince recording ?_).symm
      rw [List.takeWhile_cons_of_pos (by simpa using hown)]
      exact List.mem_cons_self

end State

/-- What can happen, in any order. -/
inductive Action (σ : Type) where
  /-- A client reads the resource into an instance. -/
  | get (client : Client) (type : EntityType) (holder : Nat)
  /-- A client opens a stream. -/
  | openStream (client : Client) (type : EntityType) (address : String) (stream : Nat)
  /-- A stream takes one step; if that brings the resource, it becomes an instance. -/
  | advance (stream holder : Nat)
  /-- The fields of an instance are written. -/
  | edit (holder : Nat) (cells : List Cell)
  /-- A client sends what was edited in an instance. -/
  | update (client : Client) (holder : Nat)
  /-- Somebody else uses the server. -/
  | elsewhere (peer : σ)

section system
variable {σ : Type} [Peer σ] (resource : VersionedResource σ)

/-- The clients know the resource under its address, and streams read its feeds. -/
def Allowed : Action σ → Prop
  | .get client type _ =>
    client.site.singleUrl type.kind resource.identity.id = .ok resource.url
  | .openStream _ _ address _ => resource.isFeed address
  | .update client _ =>
    client.site.singleUrl resource.identity.kind resource.identity.id = .ok resource.url
  | .advance .. | .edit .. | .elsewhere _ => True

namespace State

/-- A holder has a new snapshot of the resource, if it is one of this resource. -/
def holding (state : State σ) (holder : Nat) (tracked : Tracked) (version : String) : State σ :=
  if tracked.identity? = some resource.identity then
    { state with
      instances := fun other =>
        if other = holder then some ⟨tracked, version⟩ else state.instances other
      recordings := ⟨holder, version⟩ :: state.recordings }
  else state

/-- The state after a read. -/
def afterGet (state : State σ) (holder : Nat) :
    Except Failure Tracked × Link σ → State σ
  | (.ok tracked, link) =>
    { state with link := link }.holding resource holder tracked
      (resource.version state.link.peer)
  | (.error _, link) => { state with link := link }

/-- The state after a step of a stream. -/
def afterStep (state : State σ) (stream holder : Nat) (reading : Stream) :
    Cursor.Progress Tracked × Cursor × Link σ → State σ
  | (.item tracked, cursor, link) =>
    ({ state with link := link }.streaming stream { reading with cursor := cursor }).holding
      resource holder tracked reading.served
  | (.fetched, cursor, link) =>
    { state with link := link }.streaming stream
      { reading with cursor := cursor, served := resource.version state.link.peer }
  | (_, cursor, link) =>
    { state with link := link }.streaming stream { reading with cursor := cursor }

/-- The state after an update; it is a new snapshot unless there was nothing to send. -/
def afterUpdate (state : State σ) (holder : Nat) (held : Instance) :
    Except Failure Tracked × Link σ → State σ
  | (.ok tracked, link) =>
    if held.tracked.changes.isEmpty then { state with link := link }
    else { state with link := link }.holding resource holder tracked (resource.version link.peer)
  | (.error _, link) => { state with link := link }

end State

/-- An instance with its fields written. -/
def Instance.edited (held : Instance) (cells : List Cell) : Instance :=
  { held with
    tracked := { held.tracked with entity := { held.tracked.entity with cells := cells } } }

/-- One action, run with the operations of the client. -/
def step (state : State σ) : Action σ → State σ
  | .get client type holder =>
    state.afterGet resource holder ((client.get type resource.identity.id).runOn state.link)
  | .openStream client type address stream =>
    state.streaming stream ⟨.start address, client.resolver, type, ""⟩
  | .advance stream holder =>
    match state.streams stream with
    | none => state
    | some reading =>
      state.afterStep resource stream holder reading
        (reading.cursor.step (.entity reading.resolver reading.type) state.link)
  | .edit holder cells =>
    { state with
      instances := fun other =>
        if other = holder then (state.instances other).map (·.edited cells)
        else state.instances other }
  | .update client holder =>
    match state.instances holder with
    | none => state
    | some held =>
      state.afterUpdate resource holder held ((client.update held.tracked).runOn state.link)
  | .elsewhere peer => { state with link := { state.link with peer := peer } }

/-- Actions in turn. -/
def run (state : State σ) (actions : List (Action σ)) : State σ :=
  actions.foldl (step resource) state

end system

/-! ### The invariant -/

section invariant
variable {σ : Type} [Peer σ] {resource : VersionedResource σ}

/-- What is left of a stream is of the version that was served, and it goes on to feeds of the
    resource. -/
structure Faithful (resource : VersionedResource σ) (reading : Stream) : Prop where
  pending : ∀ entry ∈ reading.cursor.pending, entry.key = some resource.identity.id →
    entry.version = some reading.served
  next : ∀ address, reading.cursor.next = some address → resource.isFeed address

/-- **The invariant**: the shared token, if one is held, is the version recorded last, and what an
    instance has seen is what it recorded last. -/
structure Consistent (resource : VersionedResource σ) (state : State σ) : Prop where
  token : ∀ token, state.link.versions.get? resource.identity = some token →
    state.recordings.head?.map (·.version) = some token
  known : ∀ holder held, state.instances holder = some held →
    held.tracked.identity? = some resource.identity
  seen : ∀ holder held, state.instances holder = some held →
    state.lastRecorded? holder = some held.seen
  streams : ∀ stream reading, state.streams stream = some reading → Faithful resource reading

theorem initial_consistent {link : Link σ}
    (hunknown : link.versions.get? resource.identity = none) :
    Consistent resource (State.initial link) where
  token := by
    intro token htoken
    rw [State.initial, hunknown] at htoken
    cases htoken
  known := by
    intro holder held hheld
    cases hheld
  seen := by
    intro holder held hheld
    cases hheld
  streams := by
    intro stream reading hreading
    cases hreading

/-- The peer and the versions may change as long as the token does not become another. -/
theorem Consistent.with_link {state : State σ} (h : Consistent resource state) (link : Link σ)
    (htoken : ∀ token, link.versions.get? resource.identity = some token →
      state.link.versions.get? resource.identity = some token) :
    Consistent resource { state with link := link } where
  token := fun token hget => h.token token (htoken token hget)
  known := h.known
  seen := h.seen
  streams := h.streams

theorem Consistent.streaming {state : State σ} (h : Consistent resource state) (stream : Nat)
    {reading : Stream} (hreading : Faithful resource reading) :
    Consistent resource (state.streaming stream reading) where
  token := h.token
  known := h.known
  seen := h.seen
  streams := by
    intro other found hfound
    by_cases hother : other = stream
    · have hsame : some reading = some found := by
        rw [← hfound, State.streaming]
        exact (if_pos hother).symm
      cases hsame
      exact hreading
    · have hold : state.streams other = some found := by
        rw [← hfound, State.streaming]
        exact (if_neg hother).symm
      exact h.streams other found hold

/-- Taking a snapshot keeps the invariant if the token that was remembered with it is the version
    of the snapshot, or if the snapshot is one of another resource. -/
theorem Consistent.holding {state : State σ} (h : Consistent resource state) {link : Link σ}
    (holder : Nat) {tracked : Tracked} {version : String}
    (hown : tracked.identity? = some resource.identity →
      ∀ token, link.versions.get? resource.identity = some token → token = version)
    (hother : tracked.identity? ≠ some resource.identity →
      ∀ token, link.versions.get? resource.identity = some token →
        state.link.versions.get? resource.identity = some token) :
    Consistent resource ({ state with link := link }.holding resource holder tracked version) := by
  unfold State.holding
  by_cases hidentity : tracked.identity? = some resource.identity
  · -- the version of the snapshot is now the one recorded last
    rw [if_pos hidentity]
    refine ⟨?_, ?_, ?_, h.streams⟩
    · intro token htoken
      rw [hown hidentity token htoken]
      rfl
    · intro other held hheld
      by_cases hsame : other = holder
      · simp only [hsame, if_true, Option.some.injEq] at hheld
        rw [← hheld]
        exact hidentity
      · simp only [hsame, if_false] at hheld
        exact h.known other held hheld
    · intro other held hheld
      unfold State.lastRecorded?
      by_cases hsame : other = holder
      · simp only [hsame, if_true, Option.some.injEq] at hheld
        rw [List.find?_cons_of_pos (by simp [hsame]), ← hheld]
        rfl
      · simp only [hsame, if_false] at hheld
        rw [List.find?_cons_of_neg (by simpa using Ne.symm hsame)]
        exact h.seen other held hheld
  · -- nothing is recorded for another resource
    rw [if_neg hidentity]
    exact h.with_link link (hother hidentity)

/-! ### One action keeps the invariant -/

theorem get_consistent {state : State σ} (h : Consistent resource state) {client : Client}
    {type : EntityType} (holder : Nat) (hallowed : Allowed resource (.get client type holder)) :
    Consistent resource (step resource state (.get client type holder)) := by
  unfold step
  simp only
  have hcases := client.get_cases type resource.identity.id state.link
  generalize (client.get type resource.identity.id).runOn state.link = result at hcases ⊢
  obtain ⟨outcome, link⟩ := result
  cases hcases with
  -- a read that fails leaves the versions as they are
  | unaddressed haddress => exact h.with_link _ fun _ hget => hget
  | failed haddress => exact h.with_link _ fun _ hget => hget
  | received haddress hanswer hsuccess hentry htracked =>
    have hurl := Except.ok.inj (haddress.symm.trans hallowed)
    subst hurl
    have hversion := resource.read_version hanswer hsuccess hentry
    apply h.holding holder
    · intro hidentity token hget
      exact Client.get?_rememberVersion_of_same hidentity hversion hget
    · intro hidentity token hget
      exact Client.get?_rememberVersion_of_other hidentity hget

/-- A stream on the page of an address that was just read. -/
theorem faithful_onPage {url : String} {link : Link σ} {page : Page} (reading : Stream)
    (hfeed : resource.isFeed url)
    (hpage : answeredPage url (Peer.answer (Request.read url) link.peer).1 = .ok page) :
    Faithful resource { reading with
      cursor := .onPage url page, served := resource.version link.peer } := by
  obtain ⟨hentries, hnext⟩ := resource.page_version hfeed hpage
  refine ⟨hentries, ?_⟩
  intro address haddress
  -- a page that links to itself is the last one
  by_cases hself : page.next = some url
  · simp only [Cursor.onPage, hself, if_true, reduceCtorEq] at haddress
  · simp only [Cursor.onPage, hself, if_false] at haddress
    exact hnext address haddress

theorem faithful_finished (reading : Stream) :
    Faithful resource { reading with cursor := .finished } where
  pending := by
    intro entry hentry
    cases hentry
  next := by
    intro address haddress
    cases haddress

theorem advance_consistent {state : State σ} (h : Consistent resource state)
    (stream holder : Nat) :
    Consistent resource (step resource state (.advance stream holder)) := by
  unfold step
  simp only
  cases hreading : state.streams stream with
  | none => exact h
  | some reading =>
    have hfaithful := h.streams stream reading hreading
    obtain ⟨⟨pending, next, ended⟩, resolver, type, served⟩ := reading
    cases ended with
    | true => exact h.streaming stream (faithful_finished _)
    | false =>
    cases pending with
    | nil =>
      cases next with
      | none => exact h.streaming stream (faithful_finished _)
      | some url =>
        simp only [Cursor.step_fetch]
        have hfeed := hfaithful.next url rfl
        cases hpage : answeredPage url (Peer.answer (Request.read url) state.link.peer).1 with
        | error failure =>
          have hsent := h.with_link (state.link.sending (Request.read url)) fun _ hget => hget
          exact hsent.streaming stream
            (faithful_finished ⟨⟨[], some url, false⟩, resolver, type, served⟩)
        | ok page =>
          have hsent := h.with_link (state.link.sending (Request.read url)) fun _ hget => hget
          exact hsent.streaming stream
            (faithful_onPage ⟨⟨[], some url, false⟩, resolver, type, served⟩ hfeed hpage)
    | cons entry rest =>
      -- the entry is converted; only now its version reaches the shared store
      have hrest : Faithful resource ⟨⟨rest, next, false⟩, resolver, type, served⟩ :=
        ⟨fun other hother => hfaithful.pending other (List.mem_cons_of_mem _ hother),
          hfaithful.next⟩
      simp only [Cursor.step_entry, Link.converting, Conversion.entity]
      cases htracked : materialize resolver type entry with
      | error failure =>
        simp only [State.afterStep, Run.fail, List.append_nil]
        exact h.streaming stream
          (faithful_finished ⟨⟨[], next, false⟩, resolver, type, served⟩)
      | ok tracked =>
        simp only [State.afterStep, Run.pure_outcome]
        apply Consistent.holding (h.streaming stream hrest) holder
        · intro hidentity token hget
          have hkey : entry.key = some resource.identity.id :=
            Client.key_of_identity htracked hidentity
          have hversion := hfaithful.pending entry List.mem_cons_self hkey
          exact Client.get?_rememberVersion_of_same hidentity hversion hget
        · intro hidentity token hget
          exact Client.get?_rememberVersion_of_other hidentity hget

theorem edit_consistent {state : State σ} (h : Consistent resource state) (holder : Nat)
    (cells : List Cell) : Consistent resource (step resource state (.edit holder cells)) := by
  -- writing fields changes neither the key nor what was seen
  have hbefore : ∀ {other held},
      (step resource state (.edit holder cells)).instances other = some held →
      ∃ before, state.instances other = some before ∧
        held.tracked.identity? = before.tracked.identity? ∧ held.seen = before.seen := by
    intro other held hheld
    by_cases hsame : other = holder
    · simp only [step, hsame, if_true, Option.map_eq_some_iff] at hheld
      obtain ⟨before, hbefore, hedited⟩ := hheld
      rw [← hedited, hsame]
      exact ⟨before, hbefore, rfl, rfl⟩
    · simp only [step, hsame, if_false] at hheld
      exact ⟨held, hheld, rfl, rfl⟩
  refine ⟨h.token, ?_, ?_, h.streams⟩
  · intro other held hheld
    obtain ⟨before, hstate, hidentity, -⟩ := hbefore hheld
    rw [hidentity]
    exact h.known other before hstate
  · intro other held hheld
    obtain ⟨before, hstate, -, hseen⟩ := hbefore hheld
    rw [hseen]
    exact h.seen other before hstate

/-- An accepted update named the current version, and the version that is remembered is the new
    one. -/
theorem update_accepted_version {state : State σ} {client : Client} {held : Instance}
    {identity : Identity} {url : String} {response : Response}
    (hknown : held.tracked.identity? = some resource.identity)
    (haddress : client.site.singleUrl resource.identity.kind resource.identity.id
      = .ok resource.url)
    (hupdate : client.HasUpdate held.tracked identity url)
    (hanswer : (Peer.answer (Client.updateOn state.link held.tracked identity url)
      state.link.peer).1 = .ok response)
    (hsuccess : response.isSuccess = true) :
    identity = resource.identity ∧
      (state.link.versions.get? resource.identity).getD "" = resource.version state.link.peer ∧
      (Client.answeredVersion response).or response.etag =
        some (resource.version (Peer.answer
          (Client.updateOn state.link held.tracked identity url) state.link.peer).2) := by
  have hidentity : identity = resource.identity :=
    Option.some.inj (hupdate.known.symm.trans hknown)
  have hurl : url = resource.url := by
    have h := hupdate.address
    rw [hidentity, haddress] at h
    exact (Except.ok.inj h).symm
  obtain ⟨hmatch, -, hnew⟩ := resource.update_version rfl hurl hanswer hsuccess
  refine ⟨hidentity, ?_, hnew⟩
  rw [← hidentity]
  exact Option.some.inj hmatch

theorem update_consistent {state : State σ} (h : Consistent resource state) {client : Client}
    (holder : Nat) (hallowed : Allowed resource (.update client holder)) :
    Consistent resource (step resource state (.update client holder)) := by
  unfold step
  simp only
  cases hheld : state.instances holder with
  | none => exact h
  | some held =>
    simp only
    have hknown := h.known holder held hheld
    have hcases := client.update_cases held.tracked state.link
    generalize (client.update held.tracked).runOn state.link = result at hcases ⊢
    obtain ⟨outcome, link⟩ := result
    cases hcases with
    -- a refused update does not touch the versions either
    | barred => exact h.with_link _ fun _ hget => hget
    | refused hupdate hanswer => exact h.with_link _ fun _ hget => hget
    | unchanged hchanges =>
      simp only [State.afterUpdate, hchanges, if_true]
      exact h.with_link _ fun _ hget => hget
    | accepted hupdate hanswer hsuccess =>
      obtain ⟨hidentity, -, hnew⟩ :=
        update_accepted_version hknown hallowed hupdate hanswer hsuccess
      simp only [State.afterUpdate, hupdate.changed, Bool.false_eq_true, if_false]
      refine h.holding holder ?_ (fun hother => absurd hknown hother)
      -- the version that is remembered is the one that came of the update
      intro _ token hget
      simp only [hnew, Option.elim_some, hidentity] at hget
      rw [hidentity]
      exact VersionStore.eq_of_get?_insert hget

/-- Every action keeps the invariant. -/
theorem step_consistent {state : State σ} (h : Consistent resource state) {action : Action σ}
    (hallowed : Allowed resource action) : Consistent resource (step resource state action) := by
  cases action with
  | get client type holder => exact get_consistent h holder hallowed
  | openStream client type address stream =>
    -- nothing is pending yet, and the first address is that of a feed
    refine h.streaming stream ⟨?_, ?_⟩
    · intro entry hentry
      cases hentry
    · intro next hnext
      rw [← Option.some.inj hnext]
      exact hallowed
  | advance stream holder => exact advance_consistent h stream holder
  | edit holder cells => exact edit_consistent h holder cells
  | update client holder => exact update_consistent h holder hallowed
  | elsewhere peer => exact h.with_link _ fun _ hget => hget

/-- So the invariant holds in every state that is reached. -/
theorem run_consistent {state : State σ} (h : Consistent resource state)
    {actions : List (Action σ)} (hallowed : ∀ action ∈ actions, Allowed resource action) :
    Consistent resource (run resource state actions) := by
  induction actions generalizing state with
  | nil => exact h
  | cons action rest ih =>
    have hfirst := step_consistent h (hallowed action List.mem_cons_self)
    exact ih hfirst fun other hother => hallowed other (List.mem_cons_of_mem _ hother)

/-! ### Accepted updates -/

/-- A client sends what was edited in an instance, and the server accepts it. -/
structure Accepts (resource : VersionedResource σ) (state : State σ) (client : Client)
    (holder : Nat) (held : Instance) (request : Request) : Prop where
  allowed : Allowed resource (.update client holder)
  holds : state.instances holder = some held
  sent : ((client.update held.tracked).runOn state.link).2.sent = state.link.sent ++ [request]
  accepted : ∃ tracked, ((client.update held.tracked).runOn state.link).1 = .ok tracked

/-- An accepted update names the token of the shared store, which is the current version. -/
theorem Accepts.token_eq_version {state : State σ} (h : Consistent resource state)
    {client : Client} {holder : Nat} {held : Instance} {request : Request}
    (haccepts : Accepts resource state client holder held request) :
    request.ifMatch = some (resource.version state.link.peer) ∧
      state.link.versions.get? resource.identity = some (resource.version state.link.peer) := by
  obtain ⟨hallowed, hheld, hsent, tracked, hok⟩ := haccepts
  have hcases := client.update_cases held.tracked state.link
  rw [hok] at hcases
  generalize ((client.update held.tracked).runOn state.link).2 = link at hcases hsent
  cases hcases with
  | unchanged hchanges =>
    -- nothing was sent
    have hlength := congrArg List.length hsent
    rw [List.length_append, List.length_singleton] at hlength
    omega
  | @accepted identity url response hupdate hanswer hsuccess =>
    have hrequest : Client.updateOn state.link held.tracked identity url = request := by
      have hlast := List.append_cancel_left hsent
      exact (List.cons.inj hlast).1
    obtain ⟨hidentity, hcurrent, -⟩ :=
      update_accepted_version (h.known holder held hheld) hallowed hupdate hanswer hsuccess
    refine ⟨?_, ?_⟩
    · rw [← hrequest, ← hcurrent, ← hidentity]
      rfl
    · cases htoken : state.link.versions.get? resource.identity with
      | none =>
        -- without a token the update would name the empty version
        rw [htoken] at hcurrent
        exact absurd hcurrent.symm (resource.version_ne_empty _)
      | some token =>
        rw [htoken] at hcurrent
        exact congrArg some hcurrent

/-- **Optimistic concurrency**: after any actions, an update that the server accepts names the
    current version, and this is the version recorded last by an instance of these clients.  If
    since its own last recording no other version was recorded, then the snapshot of the sending
    instance is of the current version. -/
theorem accepted_update_matches_last_recording {link : Link σ}
    (hunknown : link.versions.get? resource.identity = none) {actions : List (Action σ)}
    (hallowed : ∀ action ∈ actions, Allowed resource action)
    {state : State σ} (hstate : state = run resource (.initial link) actions)
    {client : Client} {holder : Nat} {held : Instance} {request : Request}
    (haccepts : Accepts resource state client holder held request) :
    request.ifMatch = some (resource.version state.link.peer) ∧
      state.recordings.head?.map (·.version) = some (resource.version state.link.peer) ∧
      ((∀ recording ∈ state.recordings.takeWhile fun recording => recording.holder ≠ holder,
          recording.version = held.seen) →
        held.seen = resource.version state.link.peer) := by
  have hconsistent : Consistent resource state := by
    rw [hstate]
    exact run_consistent (initial_consistent hunknown) hallowed
  obtain ⟨hmatch, htoken⟩ := haccepts.token_eq_version hconsistent
  have hlast := hconsistent.token _ htoken
  refine ⟨hmatch, hlast, ?_⟩
  intro hsince
  exact State.seen_eq_of_unrecorded (hconsistent.seen holder held haccepts.holds) hlast hsince

end invariant

/-! ### A server that counts changes -/

/-- A server with one contact, whose version is as long as the contact was changed often. -/
structure Counter where
  changes : Nat

namespace Counter

/-- The version of the contact. -/
def version (server : Counter) : String :=
  String.ofList (List.replicate (server.changes + 1) 'v')

/-- The address of the contact. -/
def url : String := "https://x/sdata/-/contacts('C1')"

/-- What a read gives, as text. -/
def bodyText : String :=
  "\x7b\"$key\":\"C1\",\"FirstName\":\"Tom\"\x7d"

/-- What a read gives. -/
@[irreducible] def body : Text.Bytes :=
  Text.asciiBytes bodyText

instance : Peer Counter where
  answer request server :=
    if request.url = url then
      match request.method with
      | .get => (.ok ⟨200, some server.version, body⟩, server)
      | .put =>
        if request.ifMatch = some server.version then
          (.ok ⟨200, some (version ⟨server.changes + 1⟩), []⟩, ⟨server.changes + 1⟩)
        else (.ok ⟨412, none, []⟩, server)
      | _ => (.ok ⟨405, none, []⟩, server)
    else (.ok ⟨404, none, []⟩, server)

/-- The only field of a contact. -/
def firstName : Field := .writable "FirstName" "first_name" (.plain .text)

/-- The type of contacts. -/
def contact : EntityType := ⟨"Contact", "Contact", [firstName]⟩

/-- A client that knows contacts. -/
def client : Client :=
  ⟨Settings.initial,
    Site.ofBase "https://x/sdata" (Resolver.ofCatalog [⟨"Contact", "contacts", contact⟩])⟩

/-- The contact as it is read. -/
def tom : Tracked :=
  Tracked.received ⟨contact, [⟨firstName, "Tom"⟩]⟩ (some "C1")

/-- The fields of a contact with a name. -/
def named (name : String) : List Cell :=
  [⟨firstName, name⟩]

theorem entry_of_body :
    Entry.decode body = .ok ⟨some "C1", none, none, [("FirstName", .text "Tom")]⟩ := by
  have htext : Json.ofText? bodyText
      = some (.object [("$key", .text "C1"), ("FirstName", .text "Tom")]) := by cbv
  unfold Entry.decode document body
  rw [Json.ofBytes?_asciiBytes (by decide), htext]
  rfl

theorem answeredVersion_empty (status : Nat) (etag : Option String) :
    Client.answeredVersion ⟨status, etag, []⟩ = none := by
  have h : Entry.decode [] = .error (.document .malformed) := by rfl
  unfold Client.answeredVersion
  rw [h]

theorem version_injective {a b : Counter} (h : a.version = b.version) : a.changes = b.changes := by
  have hlength := congrArg String.length h
  simp [version] at hlength
  exact hlength

/-- An update is accepted if it names the current version. -/
theorem answer_put {request : Request} (server : Counter) (hput : request.method = .put)
    (hurl : request.url = url) :
    Peer.answer request server =
      if request.ifMatch = some server.version then
        (.ok ⟨200, some (version ⟨server.changes + 1⟩), []⟩, ⟨server.changes + 1⟩)
      else (.ok ⟨412, none, []⟩, server) := by
  show (if request.url = url then _ else _) = _
  rw [if_pos hurl, hput]

/-- The contact, as a resource under a version. -/
def resource : VersionedResource Counter where
  identity := ⟨"Contact", "C1"⟩
  url := url
  isFeed _ := False
  version := version
  version_ne_empty := by
    intro server hempty
    have hlength := congrArg String.length hempty
    simp [version] at hlength
  read_version := by
    intro server response entry hanswer _ hentry
    have hresponse : ⟨200, some server.version, body⟩ = response := Except.ok.inj hanswer
    rw [← hresponse] at hentry ⊢
    rw [entry_of_body] at hentry
    rw [← Except.ok.inj hentry]
    rfl
  page_version := by
    intro address server page hfeed
    cases hfeed
  update_version := by
    intro request server response hput hurl hanswer hsuccess
    have hcase := answer_put server hput hurl
    by_cases hmatch : request.ifMatch = some server.version
    · rw [if_pos hmatch] at hcase
      rw [hcase] at hanswer ⊢
      refine ⟨hmatch, ?_, ?_⟩
      · intro hsame
        have hchanges : server.changes + 1 = server.changes := version_injective hsame
        omega
      · rw [← Except.ok.inj hanswer, answeredVersion_empty]
        rfl
    · rw [if_neg hmatch] at hcase
      rw [hcase] at hanswer
      rw [← Except.ok.inj hanswer] at hsuccess
      cases hsuccess

theorem resource_refusesOthers : resource.RefusesOthers := by
  intro request server hput hurl hother
  have hmatch : ¬ request.ifMatch = some server.version := hother
  rw [answer_put server hput hurl, if_neg hmatch]
  exact ⟨⟨412, none, []⟩, rfl, rfl⟩

/-! ### Reading and renaming the contact -/

/-- The contact is received as it is sent, and its version is remembered. -/
theorem get_contact (link : Link Counter) :
    (client.get contact "C1").runOn link =
      (.ok tom, { link.sending (Request.read url) with
        versions := link.versions.insert resource.identity link.peer.version }) := by
  have haddress : client.site.singleUrl contact.kind "C1" = .ok url := rfl
  have hanswer : (Peer.answer (Request.read url) link.peer).1
      = .ok ⟨200, some link.peer.version, body⟩ := rfl
  have htracked : materialize client.resolver contact
      ⟨some "C1", some link.peer.version, none, [("FirstName", .text "Tom")]⟩ = .ok tom := rfl
  exact Client.get_of_received haddress hanswer rfl entry_of_body htracked

/-- An instance that has read the contact and given it another name. -/
def renamed (name seen : String) : Instance :=
  ⟨{ tom with entity := ⟨contact, named name⟩ }, seen⟩

/-- Reading it makes a snapshot of the current version. -/
theorem step_get (state : State Counter) (holder : Nat) :
    step resource state (.get client contact holder) =
      State.holding resource { state with link := { state.link.sending (Request.read url) with
        versions := state.link.versions.insert resource.identity state.link.peer.version } }
        holder tom state.link.peer.version := by
  show State.afterGet _ _ _ ((client.get contact "C1").runOn state.link) = _
  rw [get_contact]
  rfl

theorem hasUpdate_renamed {name seen : String}
    (hchanged : (renamed name seen).tracked.changes.isEmpty = false) :
    client.HasUpdate (renamed name seen).tracked resource.identity url where
  allowed := by
    have hstate : (renamed name seen).tracked.state = .modified := by
      show (if _ then _ else _) = _
      rw [hchanged]
      rfl
    rw [hstate]
    intro h
    rcases h with h | h <;> cases h
  changed := hchanged
  known := rfl
  address := rfl

/-- If the store has the current version, the new name is accepted. -/
theorem update_renamed {link : Link Counter} {name seen : String}
    (hchanged : (renamed name seen).tracked.changes.isEmpty = false)
    (hcurrent : link.versions.get? resource.identity = some link.peer.version) :
    (client.update (renamed name seen).tracked).runOn link =
      (.ok ((renamed name seen).tracked.persist none),
        { versions := link.versions.insert resource.identity (version ⟨link.peer.changes + 1⟩)
          peer := ⟨link.peer.changes + 1⟩
          sent := link.sent
            ++ [Client.updateRequest (renamed name seen).tracked url link.peer.version]
          events := link.events }) := by
  have hupdate := hasUpdate_renamed hchanged
  have hrequest : Client.updateOn link (renamed name seen).tracked resource.identity url
      = Client.updateRequest (renamed name seen).tracked url link.peer.version := by
    unfold Client.updateOn
    rw [hcurrent]
    rfl
  have hanswer : Peer.answer
      (Client.updateRequest (renamed name seen).tracked url link.peer.version) link.peer =
        (.ok ⟨200, some (version ⟨link.peer.changes + 1⟩), []⟩,
          ⟨link.peer.changes + 1⟩) := by
    show (if some link.peer.version = some link.peer.version then _ else _) = _
    rw [if_pos rfl]
  have hfirst := congrArg Prod.fst hanswer
  rw [← hrequest] at hfirst
  rw [Client.update_of_accepted hupdate hfirst rfl, answeredVersion_empty, hrequest, Link.sending,
    hanswer]
  rfl

/-- And then there is a snapshot of the version that came of it. -/
theorem step_update {state : State Counter} {holder : Nat} {name seen : String}
    (hholds : state.instances holder = some (renamed name seen))
    (hchanged : (renamed name seen).tracked.changes.isEmpty = false)
    (hcurrent : state.link.versions.get? resource.identity = some state.link.peer.version) :
    step resource state (.update client holder) =
      State.holding resource
        { state with link := ((client.update (renamed name seen).tracked).runOn state.link).2 }
        holder ((renamed name seen).tracked.persist none)
        (version ⟨state.link.peer.changes + 1⟩) := by
  unfold step
  simp only [hholds]
  rw [update_renamed hchanged hcurrent]
  unfold State.afterUpdate
  simp only [hchanged, Bool.false_eq_true, if_false]
  rfl

theorem accepts_renamed {state : State Counter} {holder : Nat} {name seen : String}
    (hholds : state.instances holder = some (renamed name seen))
    (hchanged : (renamed name seen).tracked.changes.isEmpty = false)
    (hcurrent : state.link.versions.get? resource.identity = some state.link.peer.version) :
    Accepts resource state client holder (renamed name seen)
      (Client.updateRequest (renamed name seen).tracked url state.link.peer.version) where
  allowed := rfl
  holds := hholds
  sent := by rw [update_renamed hchanged hcurrent]
  accepted := by
    refine ⟨(renamed name seen).tracked.persist none, ?_⟩
    rw [update_renamed hchanged hcurrent]

/-- A link on which nothing has happened. -/
def fresh : Link Counter :=
  ⟨.empty none, ⟨0⟩, [], []⟩

/-! ### One holder, and two -/

/-- The contact is read and renamed. -/
def renameOnce : List (Action Counter) :=
  [.get client contact 0, .edit 0 (named "Ann")]

theorem renameOnce_allowed : ∀ action ∈ renameOnce, Allowed resource action := by
  simp only [renameOnce, List.forall_mem_cons, Allowed]
  exact ⟨rfl, trivial, List.forall_mem_nil _⟩

theorem accepts_after_one_rename :
    Accepts resource (run resource (.initial fresh) renameOnce) client 0
      (renamed "Ann" (version ⟨0⟩))
      (Client.updateRequest (renamed "Ann" (version ⟨0⟩)).tracked url (version ⟨0⟩)) := by
  have hrun : run resource (.initial fresh) renameOnce =
      step resource (step resource (.initial fresh) (.get client contact 0))
        (.edit 0 (named "Ann")) := rfl
  rw [hrun, step_get]
  exact accepts_renamed rfl rfl rfl

/-- Nobody else has read the contact, and so its snapshot is of the current version. -/
theorem renamed_contact_matches_last_recording :
    Accepts resource (run resource (.initial fresh) renameOnce) client 0
        (renamed "Ann" (version ⟨0⟩))
        (Client.updateRequest (renamed "Ann" (version ⟨0⟩)).tracked url (version ⟨0⟩)) ∧
      (run resource (.initial fresh) renameOnce).recordings.head?.map (·.version)
        = some (version (run resource (.initial fresh) renameOnce).link.peer) ∧
      version ⟨0⟩ = version (run resource (.initial fresh) renameOnce).link.peer := by
  obtain ⟨-, hlast, hseen⟩ :=
    accepted_update_matches_last_recording rfl renameOnce_allowed rfl accepts_after_one_rename
  refine ⟨accepts_after_one_rename, hlast, hseen ?_⟩
  intro recording hrecording
  have hrun : run resource (.initial fresh) renameOnce =
      step resource (step resource (.initial fresh) (.get client contact 0))
        (.edit 0 (named "Ann")) := rfl
  rw [hrun, step_get] at hrecording
  cases hrecording

/-- Two holders read the contact and rename it, and one of them has sent its name. -/
def overtaking : List (Action Counter) :=
  [.get client contact 0, .get client contact 1, .edit 1 (named "Ann"), .update client 1,
    .edit 0 (named "Eve")]

theorem overtaking_allowed : ∀ action ∈ overtaking, Allowed resource action := by
  simp only [overtaking, List.forall_mem_cons, Allowed]
  exact ⟨rfl, rfl, trivial, rfl, trivial, List.forall_mem_nil _⟩

/-- The version that came of the sent name is in the shared store, and so the other name is
    accepted, too. -/
theorem accepts_after_overtaking :
    (run resource (.initial fresh) overtaking).link.peer = ⟨1⟩ ∧
    Accepts resource (run resource (.initial fresh) overtaking) client 0
      (renamed "Eve" (version ⟨0⟩))
      (Client.updateRequest (renamed "Eve" (version ⟨0⟩)).tracked url (version ⟨1⟩)) := by
  have hrun : run resource (.initial fresh) overtaking =
      step resource (step resource (step resource (step resource (step resource (.initial fresh)
        (.get client contact 0)) (.get client contact 1)) (.edit 1 (named "Ann")))
        (.update client 1)) (.edit 0 (named "Eve")) := rfl
  rw [hrun, step_get, step_get, @step_update _ 1 "Ann" (version ⟨0⟩), update_renamed]
  · exact ⟨rfl, accepts_renamed rfl rfl rfl⟩
  -- the second holder has the contact under its new name, and the store has its version
  · rfl
  · rfl
  · rfl
  · rfl
  · rfl

/-- **A snapshot may be older than the version that an accepted update replaces**, although every
    update that names another version is refused. -/
theorem accepted_update_of_older_snapshot :
    ¬ ∀ {σ : Type} [Peer σ] {resource : VersionedResource σ} {link : Link σ},
      resource.RefusesOthers → link.versions.get? resource.identity = none →
      ∀ {actions : List (Action σ)}, (∀ action ∈ actions, Allowed resource action) →
      ∀ {state : State σ}, state = run resource (.initial link) actions →
      ∀ {client : Client} {holder : Nat} {held : Instance} {request : Request},
        Accepts resource state client holder held request →
        held.seen = resource.version state.link.peer := by
  intro hall
  obtain ⟨hpeer, haccepts⟩ := accepts_after_overtaking
  have hseen : version ⟨0⟩ = version (run resource (.initial fresh) overtaking).link.peer :=
    hall resource_refusesOthers rfl overtaking_allowed rfl haccepts
  rw [hpeer] at hseen
  have hchanges : 0 = 1 := version_injective hseen
  omega

end Counter
end ResourceFeed.SharedVersions
