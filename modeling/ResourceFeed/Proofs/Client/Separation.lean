import ResourceFeed.Proofs.Client.Desk
import ResourceFeed.Proofs.Client.SharedVersions

/-! # Two clients in one program

    Two clients of one program talk to different servers, in any order, and
    may work on one version store.  The store knows resources by kind and key
    only.  So a version that one client records is sent by the other one if
    both servers have a resource of that kind with that key.

    This is the only way in which one client can affect the other.  As long as
    one client notes nothing under an identity whose version the other one
    sends, the other one does the same as if it were alone
    (`left_eq_of_keptApart`).  And whatever happens, the requests can only
    differ in the version that they send.

    Runs are compared by a relation between two states of the program, with
    one lemma for a turn of either client.
-/

namespace ResourceFeed

/-- A program with two clients: the stores, and a desk for each client. -/
structure Process (σ τ : Type) where
  stores : Nat → VersionStore
  left : Desk σ
  right : Desk τ

/-- One of the two clients makes a move. -/
inductive Turn where
  | left (move : Move)
  | right (move : Move)

/-- The move, if it is one of the left client. -/
def Turn.left? : Turn → Option Move
  | .left move => some move
  | .right _ => none

namespace Process

variable {σ τ τ' : Type}

/-- Before the first turn. -/
def start (stores : Nat → VersionStore) (peer : σ) (other : τ) : Process σ τ :=
  ⟨stores, .start peer, .start other⟩

section system
variable [Peer σ] [Peer τ] (a b : Seat)

/-- The program after a turn. -/
def step (process : Process σ τ) : Turn → Process σ τ
  | .left move =>
    let result := process.left.actAt a process.stores move
    { process with stores := result.1, left := result.2 }
  | .right move =>
    let result := process.right.actAt b process.stores move
    { process with stores := result.1, right := result.2 }

/-- The program after turns. -/
def run (process : Process σ τ) (turns : List Turn) : Process σ τ :=
  turns.foldl (step a b) process

/-- What a turn of the right client notes in the store of the left one. -/
def rightNote? (process : Process σ τ) : Turn → Option Note
  | .left _ => none
  | .right move =>
    if move.place b = a.store then
      process.right.note? b.client (process.stores (move.place b)) move
    else none

/-- The identity whose version a turn of the left client sends. -/
def leftGuard? (process : Process σ τ) : Turn → Option Identity
  | .left move => process.left.guard? a.client move
  | .right _ => none

/-- What the right client notes in the store of the left one. -/
def rightNotes (process : Process σ τ) : List Turn → List Note
  | [] => []
  | turn :: rest =>
    (process.rightNote? a b turn).toList ++ (process.step a b turn).rightNotes rest

/-- The identities whose versions the left client sends. -/
def leftGuards (process : Process σ τ) : List Turn → List Identity
  | [] => []
  | turn :: rest =>
    (process.leftGuard? a turn).toList ++ (process.step a b turn).leftGuards rest

/-- The right client notes nothing under an identity whose version the left client sends. -/
def KeptApart (process : Process σ τ) (turns : List Turn) : Prop :=
  ∀ note ∈ process.rightNotes a b turns, note.identity ∉ process.leftGuards a b turns

end system

/-! ### Two runs side by side -/

/-- Two programs have the same left client, and its store has the same tokens under the identities
    that are watched. -/
structure Agree (a : Seat) (watched : Identity → Prop) (p : Process σ τ) (q : Process σ τ') :
    Prop where
  left : p.left = q.left
  unbounded : (p.stores a.store).capacity = none
  unbounded' : (q.stores a.store).capacity = none
  token : ∀ identity, watched identity →
    (p.stores a.store).get? identity = (q.stores a.store).get? identity

section turns
variable [Peer σ] [Peer τ] [Peer τ'] {a b b' : Seat} {watched : Identity → Prop}
  {p : Process σ τ} {q : Process σ τ'}

/-- The store of the left client after a move at another desk or its own. -/
theorem store_withStore {stores : Nat → VersionStore} {place : Nat} {note : Option Note} :
    withStore stores place ((stores place).noting note) a.store =
      (stores a.store).noting (if place = a.store then note else none) := by
  unfold withStore
  by_cases hplace : place = a.store
  · rw [if_pos hplace.symm, if_pos hplace, hplace]
  · rw [if_neg (Ne.symm hplace), if_neg hplace]
    rfl

theorem store_step_right (process : Process σ τ) (move : Move) :
    (process.step a b (.right move)).stores a.store =
      (process.stores a.store).noting (process.rightNote? a b (.right move)) := by
  show withStore process.stores _ (process.right.act b.client _ move).1 a.store = _
  rw [Desk.versions_act, store_withStore]
  rfl

theorem store_step_left (process : Process σ τ) (move : Move) :
    (process.step a b (.left move)).stores a.store =
      (process.stores a.store).noting (if move.place a = a.store then
        process.left.note? a.client (process.stores (move.place a)) move else none) := by
  show withStore process.stores _ (process.left.act a.client _ move).1 a.store = _
  rw [Desk.versions_act, store_withStore]

omit [Peer σ] [Peer τ] [Peer τ'] in
/-- The versions that a client sends are those of its own store. -/
theorem place_of_guard? {desk : Desk σ} {move : Move} {identity : Identity}
    (hguard : desk.guard? a.client move = some identity) : move.place a = a.store := by
  cases move with
  | perform operation holder => rfl
  | create | get | openFeed | advance | edit => cases hguard

omit [Peer τ] [Peer τ'] in
/-- The left client makes the same move in both programs. -/
theorem Agree.act_left (h : Agree a watched p q) {move : Move}
    (hwatched : ∀ identity, p.left.guard? a.client move = some identity → watched identity) :
    (p.left.act a.client (p.stores (move.place a)) move).2 =
        (q.left.act a.client (q.stores (move.place a)) move).2 ∧
      p.left.note? a.client (p.stores (move.place a)) move =
        q.left.note? a.client (q.stores (move.place a)) move := by
  rw [← h.left]
  apply Desk.act_congr
  intro identity hguard
  rw [place_of_guard? hguard]
  exact h.token identity (hwatched identity hguard)

/-- A turn of the left client in both programs. -/
theorem Agree.left_turn (h : Agree a watched p q) (b b' : Seat) {move : Move}
    (hwatched : ∀ identity, p.left.guard? a.client move = some identity → watched identity) :
    Agree a watched (p.step a b (.left move)) (q.step a b' (.left move)) where
  left := (h.act_left hwatched).1
  unbounded := by rw [store_step_left, VersionStore.capacity_noting, h.unbounded]
  unbounded' := by rw [store_step_left, VersionStore.capacity_noting, h.unbounded']
  token := by
    intro identity hidentity
    rw [store_step_left, store_step_left, (h.act_left hwatched).2]
    cases (if move.place a = a.store then
        q.left.note? a.client (q.stores (move.place a)) move else none) with
    | none => exact h.token identity hidentity
    | some note =>
      rw [VersionStore.get?_noting_some h.unbounded, VersionStore.get?_noting_some h.unbounded',
        h.token identity hidentity]

omit [Peer τ'] in
/-- A turn of the right client in one of them. -/
theorem Agree.right_turn (h : Agree a watched p q) {move : Move}
    (hunwatched : ∀ note, p.rightNote? a b (.right move) = some note → ¬ watched note.identity) :
    Agree a watched (p.step a b (.right move)) q where
  left := h.left
  unbounded := by rw [store_step_right, VersionStore.capacity_noting, h.unbounded]
  unbounded' := h.unbounded'
  token := by
    intro identity hwatched
    rw [store_step_right, VersionStore.get?_noting_of_other h.unbounded, h.token identity hwatched]
    intro note hnote hsame
    exact hunwatched note hnote (hsame ▸ hwatched)

/-- A run with the turns of both clients, and one with the turns of the left client alone. -/
theorem Agree.run (h : Agree a watched p q) (b' : Seat) {turns : List Turn}
    (hguards : ∀ identity ∈ p.leftGuards a b turns, watched identity)
    (hnotes : ∀ note ∈ p.rightNotes a b turns, ¬ watched note.identity) :
    Agree a watched (p.run a b turns)
        (q.run a b' ((turns.filterMap Turn.left?).map Turn.left)) ∧
      q.leftGuards a b' ((turns.filterMap Turn.left?).map Turn.left) = p.leftGuards a b turns := by
  -- the watched identities are those of the whole run, so that they stay the same in the induction
  induction turns generalizing p q with
  | nil => exact ⟨h, rfl⟩
  | cons turn rest ih =>
    rw [leftGuards] at hguards ⊢
    rw [rightNotes] at hnotes
    have hguardsRest : ∀ identity ∈ (p.step a b turn).leftGuards a b rest, watched identity :=
      fun identity hidentity => hguards identity (List.mem_append_right _ hidentity)
    have hnotesRest : ∀ note ∈ (p.step a b turn).rightNotes a b rest, ¬ watched note.identity :=
      fun note hnote => hnotes note (List.mem_append_right _ hnote)
    cases turn with
    | left move =>
      have hwatched : ∀ identity, p.left.guard? a.client move = some identity → watched identity :=
        fun identity hguard => hguards identity
          (List.mem_append_left _ (Option.mem_toList.mpr hguard))
      obtain ⟨hrun, hsame⟩ := ih (h.left_turn b b' hwatched) hguardsRest hnotesRest
      refine ⟨hrun, ?_⟩
      show (q.leftGuard? a (.left move)).toList ++ _ = _
      rw [hsame]
      unfold leftGuard?
      rw [h.left]
    | right move =>
      -- the other program stands still
      have hunwatched : ∀ note, p.rightNote? a b (.right move) = some note →
          ¬ watched note.identity :=
        fun note hnote => hnotes note (List.mem_append_left _ (Option.mem_toList.mpr hnote))
      exact ih (h.right_turn hunwatched) hguardsRest hnotesRest

/-- **A client that is kept apart does the same whatever the other one does.** -/
theorem left_eq_of_keptApart (hleft : p.left = q.left)
    (hstore : p.stores a.store = q.stores a.store)
    (hunbounded : (p.stores a.store).capacity = none) {turns turns' : List Turn}
    (hsame : turns.filterMap Turn.left? = turns'.filterMap Turn.left?)
    (hapart : p.KeptApart a b turns) (hapart' : q.KeptApart a b' turns') :
    (p.run a b turns).left = (q.run a b' turns').left := by
  have hunbounded' : (q.stores a.store).capacity = none := hstore ▸ hunbounded
  -- both are compared with the second program in which the left client is alone
  have hfirst : Agree a (· ∈ p.leftGuards a b turns) p q :=
    ⟨hleft, hunbounded, hunbounded', fun _ _ => by rw [hstore]⟩
  have hsecond : Agree a (· ∈ q.leftGuards a b' turns') q q :=
    ⟨rfl, hunbounded', hunbounded', fun _ _ => rfl⟩
  have hrun := (hfirst.run b' (fun _ hguard => hguard) hapart).1.left
  have hrun' := (hsecond.run b' (fun _ hguard => hguard) hapart').1.left
  rw [hrun, hrun', hsame]

/-! ### What the other client can change -/

/-- The right client changes tokens of the left one only by its notes. -/
theorem get?_of_right_moves {process : Process σ τ} {others : List Move} {identity : Identity}
    (hunbounded : (process.stores a.store).capacity = none)
    (hnotes : ∀ note ∈ process.rightNotes a b (others.map .right), note.identity ≠ identity) :
    ((process.run a b (others.map .right)).stores a.store).get? identity =
      (process.stores a.store).get? identity := by
  induction others generalizing process with
  | nil => rfl
  | cons move rest ih =>
    rw [List.map_cons, rightNotes] at hnotes
    have hunboundedRest : ((process.step a b (.right move)).stores a.store).capacity = none := by
      rw [store_step_right, VersionStore.capacity_noting, hunbounded]
    show ((((process.step a b (.right move)).run a b (rest.map .right)).stores a.store)).get?
      identity = _
    rw [ih hunboundedRest fun note hnote => hnotes note (List.mem_append_right _ hnote),
      store_step_right, VersionStore.get?_noting_of_other hunbounded]
    intro note hnote
    exact hnotes note (List.mem_append_left _ (Option.mem_toList.mpr hnote))

theorem left_of_right_moves (process : Process σ τ) (others : List Move) :
    (process.run a b (others.map .right)).left = process.left := by
  induction others generalizing process with
  | nil => rfl
  | cons move rest ih => exact ih (process.step a b (.right move))

/-- The requests that the left client sends with a move. -/
def leftRequests (a : Seat) (process : Process σ τ) (move : Move) : List Request :=
  process.left.requests a.client (process.stores (move.place a)) move

/-- Whatever the right client did, a move of the left one sends the same but for the version. -/
theorem leftRequests_unguarded (process : Process σ τ) (others : List Move) (move : Move) :
    ((process.run a b (others.map .right)).leftRequests a move).map Request.unguarded =
      (process.leftRequests a move).map Request.unguarded := by
  unfold leftRequests
  rw [left_of_right_moves, Desk.requests_eq, Desk.requests_eq, ← Option.toList_map,
    ← Option.toList_map, Desk.request?_unguarded]

/-- **What one client can do to another.**  Two clients of a program work on stores without a
    bound, on the common one if their settings do not say otherwise.

    - As long as one client notes nothing in the store of the other one under an identity whose
      version the other one sends, the other one sends the same requests whatever the first one
      does and whatever its server answers.
    - In any case it can change nothing about the next requests but the version that they send.
    - It drops or replaces no token but those of the identities that it makes notes on. -/
theorem requests_of_keptApart {a b b' : Seat} {p : Process σ τ} {q : Process σ τ'}
    (hleft : p.left = q.left) (hstore : p.stores a.store = q.stores a.store)
    (hunbounded : (p.stores a.store).capacity = none) :
    (∀ turns turns' : List Turn, turns.filterMap Turn.left? = turns'.filterMap Turn.left? →
      p.KeptApart a b turns → q.KeptApart a b' turns' →
      (p.run a b turns).left.sent = (q.run a b' turns').left.sent) ∧
    (∀ (others : List Move) (move : Move),
      ((p.run a b (others.map .right)).leftRequests a move).map Request.unguarded =
        (p.leftRequests a move).map Request.unguarded) ∧
    ∀ (others : List Move) (identity : Identity),
      (∀ note ∈ p.rightNotes a b (others.map .right), note.identity ≠ identity) →
      ((p.run a b (others.map .right)).stores a.store).get? identity =
        (p.stores a.store).get? identity := by
  refine ⟨?_, leftRequests_unguarded p, fun _ _ => get?_of_right_moves hunbounded⟩
  intro turns turns' hsame hapart hapart'
  rw [left_eq_of_keptApart hleft hstore hunbounded hsame hapart hapart']

end turns

/-! ### Two servers with the same kinds of resources -/

namespace Neighbours

open SharedVersions.Counter (contact firstName tom named body entry_of_body)

/-- A server that answers every request alike. -/
structure Uniform where
  response : Response

instance : Peer Uniform where
  answer _ server := (.ok server.response, server)

/-- A server that sends a resource with the key of the contact under a version. -/
def serving (version : String) : Uniform :=
  ⟨⟨200, some version, body⟩⟩

/-- Accounts, which have the same field as contacts. -/
def account : EntityType := ⟨"Account", "Account", [firstName]⟩

/-- Contacts and accounts. -/
def catalog : Catalog :=
  [⟨"Contact", "contacts", contact⟩, ⟨"Account", "accounts", account⟩]

/-- The settings of a client that is told nothing but where its server is. -/
def settingsAt (baseUrl : String) : Settings :=
  { Settings.initial with baseUrl := baseUrl }

/-- The client with these settings. -/
def clientAt (baseUrl : String) : Client :=
  ⟨settingsAt baseUrl, Site.ofBase (settingsAt baseUrl).trimmedBaseUrl (Resolver.ofCatalog catalog)⟩

/-- The seat with these settings; its store is the common one. -/
def seatAt (baseUrl : String) : Seat :=
  .ofSettings (clientAt baseUrl) 1

/-- The body of a server, as an entity of a type. -/
def read (type : EntityType) : Tracked :=
  Tracked.received ⟨type, [⟨firstName, "Tom"⟩]⟩ (some "C1")

/-- Reading the resource leads to it, and its version is noted under its kind. -/
theorem conclusion_of_read {type : EntityType} (htype : type = contact ∨ type = account)
    (baseUrl version : String) {link : Link Uniform} (hpeer : link.peer = serving version) :
    ((clientAt baseUrl).getPlan type "C1").conclusion link =
      .done (read type) (some (.recorded ⟨type.kind, "C1"⟩ version)) := by
  have hplan : ∃ url, (clientAt baseUrl).getPlan type "C1" =
      .send ((clientAt baseUrl).getTask type url) := by
    rcases htype with rfl | rfl
    · exact ⟨_, rfl⟩
    · exact ⟨_, rfl⟩
  have hentry : (clientAt baseUrl).concludeEntry type
      ⟨some "C1", some version, none, [("FirstName", .text "Tom")]⟩ =
        .done (read type) (some (.recorded ⟨type.kind, "C1"⟩ version)) := by
    rcases htype with rfl | rfl
    · rfl
    · rfl
  obtain ⟨url, hplan⟩ := hplan
  rw [hplan, Plan.conclusion, hpeer]
  show Conclusion.ofExcept (Entry.decode body) _ = _
  rw [entry_of_body]
  exact hentry

theorem note?_of_read {type : EntityType} (htype : type = contact ∨ type = account)
    (baseUrl version : String) (holder : Nat) (versions : VersionStore) {desk : Desk Uniform}
    (hpeer : desk.peer = serving version) :
    desk.note? (clientAt baseUrl) versions (.get type "C1" holder) =
      some (.recorded ⟨type.kind, "C1"⟩ version) := by
  have hlink : (desk.link versions).peer = serving version := hpeer
  rw [Desk.note?_get, conclusion_of_read htype baseUrl version hlink]
  rfl

/-- The seat of the left client. -/
def here : Seat :=
  seatAt "https://x/sdata"

/-- The seat of the right client. -/
def there : Seat :=
  seatAt "https://y/sdata"

/-- The left client at one server, and the right one at another. -/
def neighbours : Process Uniform Uniform :=
  .start (fun _ => .empty none) (serving "v") (serving "w")

/-- The contact with a new name. -/
def renamed : Tracked :=
  { tom with entity := ⟨contact, named "Ann"⟩ }

/-- A turn of the left client that reads the contact. -/
def getContact : Turn :=
  .left (.get contact "C1" 0)

/-- A turn of the left client that renames the contact. -/
def rename : Turn :=
  .left (.edit 0 (named "Ann"))

/-- A turn of the right client that reads the resource with the key of the contact. -/
def getOther (type : EntityType) : Turn :=
  .right (.get type "C1" 0)

/-- The first server was asked for the contact. -/
def known : Process Uniform Uniform :=
  neighbours.step here there getContact

theorem instance_known : known.left.instances 0 = some tom := by
  have hpeer : (neighbours.left.link (.empty none)).peer = serving "v" := rfl
  have houtcome := conclusion_of_read (.inl rfl) "https://x/sdata" "v" hpeer
  show (neighbours.left.afterGet 0 (((clientAt "https://x/sdata").get contact "C1").runOn
    (neighbours.left.link (.empty none)))).instances 0 = _
  rw [Client.runOn_get, Plan.runOn, houtcome]
  rfl

theorem left_rename (process : Process Uniform Uniform) (a b : Seat) :
    (process.step a b rename).left = process.left.editing 0 (named "Ann") := rfl

theorem left_getOther (process : Process Uniform Uniform) (a b : Seat) (type : EntityType) :
    (process.step a b (getOther type)).left = process.left := rfl

theorem instance_editing {desk : Desk Uniform} (hheld : desk.instances 0 = some tom) :
    (desk.editing 0 (named "Ann")).instances 0 = some renamed := by
  show (desk.instances 0).map _ = _
  rw [hheld]
  rfl

/-- The identity of the contact. -/
def contactIdentity : Identity :=
  ⟨"Contact", "C1"⟩

/-- A turn of the left client that sends the new name. -/
def sendName : Turn :=
  .left (.perform .update 0)

/-- The request that the new name is sent with. -/
def nameRequest (versions : VersionStore) : Request :=
  (Client.updateTask renamed contactIdentity "https://x/sdata/-/contacts('C1')").request versions

theorem sent_sendName {process : Process Uniform Uniform}
    (hheld : process.left.instances 0 = some renamed) :
    (process.step here there sendName).left.sent =
      process.left.sent ++ [nameRequest (process.stores 0)] := by
  have hrequest : process.left.request? (clientAt "https://x/sdata") (process.stores 0)
      (.perform .update 0) = some (nameRequest (process.stores 0)) := by
    show (process.left.instances 0).bind _ = _
    rw [hheld]
    rfl
  show (process.left.act (clientAt "https://x/sdata") (process.stores 0)
    (.perform .update 0)).2.sent = _
  rw [Desk.sent_act, hrequest]
  rfl

theorem store_known :
    known.stores 0 = (VersionStore.empty none).insert contactIdentity "v" := by
  show (neighbours.left.act (clientAt "https://x/sdata") (.empty none) (.get contact "C1" 0)).1 = _
  rw [Desk.versions_act, note?_of_read (.inl rfl) _ "v" _ _ rfl]
  rfl

theorem store_getOther {process : Process Uniform Uniform} {type : EntityType}
    (htype : type = contact ∨ type = account) (hpeer : process.right.peer = serving "w") :
    (process.step here there (getOther type)).stores 0 =
      (process.stores 0).insert ⟨type.kind, "C1"⟩ "w" := by
  show (process.right.act (clientAt "https://y/sdata") (process.stores 0) (.get type "C1" 0)).1 = _
  rw [Desk.versions_act, note?_of_read htype _ "w" _ _ hpeer]
  rfl

theorem store_rename (process : Process Uniform Uniform) :
    (process.step here there rename).stores 0 = process.stores 0 := rfl

/-- The request that the new name is sent with, if only the first server was asked before. -/
theorem sent_alone :
    (neighbours.run here there [getContact, rename, sendName]).left.sent =
      known.left.sent ++
        [nameRequest ((VersionStore.empty none).insert contactIdentity "v")] := by
  show ((known.step here there rename).step here there sendName).left.sent = _
  have hheld := instance_editing instance_known
  rw [sent_sendName (by rw [left_rename]; exact hheld), store_rename, store_known]
  rfl

/-- And if the second server was asked for the resource with the same key in between. -/
theorem sent_between {type : EntityType} (htype : type = contact ∨ type = account) :
    (neighbours.run here there [getContact, getOther type, rename, sendName]).left.sent =
      known.left.sent ++
        [nameRequest (((VersionStore.empty none).insert contactIdentity "v").insert
          ⟨type.kind, "C1"⟩ "w")] := by
  show (((known.step here there (getOther type)).step here there rename).step here there
    sendName).left.sent = _
  have hheld := instance_editing instance_known
  rw [sent_sendName (by rw [left_rename, left_getOther]; exact hheld), store_rename,
    store_getOther htype rfl, store_known]
  rfl

theorem rightNotes_account :
    neighbours.rightNotes here there [getContact, getOther account, rename, sendName] =
      [.recorded ⟨"Account", "C1"⟩ "w"] := by
  have hnote : known.rightNote? here there (getOther account) =
      some (.recorded ⟨"Account", "C1"⟩ "w") :=
    note?_of_read (.inr rfl) "https://y/sdata" "w" 0 _ rfl
  show [] ++ ((known.rightNote? here there (getOther account)).toList ++
    ([] ++ ([] ++ []))) = _
  rw [hnote]
  rfl

theorem leftGuards_account :
    neighbours.leftGuards here there [getContact, getOther account, rename, sendName] =
      [contactIdentity] := by
  have hguard : leftGuard? here
      ((known.step here there (getOther account)).step here there rename) sendName =
        some contactIdentity := by
    show ((known.left.editing 0 (named "Ann")).instances 0).bind _ = _
    rw [instance_editing instance_known]
    rfl
  show [] ++ ([] ++ ([] ++ ((leftGuard? here
    ((known.step here there (getOther account)).step here there rename) sendName).toList ++
      []))) = _
  rw [hguard]
  rfl

/-- A resource of another kind at the other server is kept apart, and so the new name is sent with
    the version that came with the contact. -/
theorem account_of_other_server_changes_nothing :
    (neighbours.run here there [getContact, getOther account, rename, sendName]).left.sent =
      (neighbours.run here there [getContact, rename, sendName]).left.sent := by
  have hapart :
      neighbours.KeptApart here there [getContact, getOther account, rename, sendName] := by
    unfold KeptApart
    rw [rightNotes_account, leftGuards_account]
    decide
  have halone : neighbours.KeptApart here there [getContact, rename, sendName] := by
    have hnotes : neighbours.rightNotes here there [getContact, rename, sendName] = [] := rfl
    unfold KeptApart
    rw [hnotes]
    exact List.forall_mem_nil _
  exact (requests_of_keptApart rfl rfl rfl).1 _ _ rfl hapart halone

/-- **The version of one server is sent to another.**  Two clients with default settings and
    different servers share the common store, and so the one sends the version that the other one
    received for a resource of the same kind with the same key. -/
theorem other_version_is_sent :
    ¬ ∀ {σ τ : Type} [Peer σ] [Peer τ] {baseUrl baseUrl' : String} {catalog : Catalog}
        {client other : Client} (free free' : Nat) (peer : σ) (peer' : τ)
        (turns turns' : List Turn),
        baseUrl ≠ baseUrl' →
        Client.ofSettings { Settings.initial with baseUrl := baseUrl } catalog = .ok client →
        Client.ofSettings { Settings.initial with baseUrl := baseUrl' } catalog = .ok other →
        turns.filterMap Turn.left? = turns'.filterMap Turn.left? →
        ((start (fun _ => .empty none) peer peer').run (.ofSettings client free)
            (.ofSettings other free') turns).left.sent =
          ((start (fun _ => .empty none) peer peer').run (.ofSettings client free)
            (.ofSettings other free') turns').left.sent := by
  intro hall
  have hurls : "https://x/sdata" ≠ "https://y/sdata" := by decide
  have hclient : Client.ofSettings (settingsAt "https://x/sdata") catalog =
      .ok (clientAt "https://x/sdata") := rfl
  have hother : Client.ofSettings (settingsAt "https://y/sdata") catalog =
      .ok (clientAt "https://y/sdata") := rfl
  have hsame :
      (neighbours.run here there [getContact, getOther contact, rename, sendName]).left.sent =
        (neighbours.run here there [getContact, rename, sendName]).left.sent :=
    hall 1 1 (serving "v") (serving "w") _ _ hurls hclient hother rfl
  rw [sent_between (.inl rfl), sent_alone] at hsame
  have hrequests := List.append_cancel_left hsame
  have hmatch := congrArg Request.ifMatch (List.singleton_inj.mp hrequests)
  exact absurd hmatch (by decide)

end Neighbours
end Process
end ResourceFeed
