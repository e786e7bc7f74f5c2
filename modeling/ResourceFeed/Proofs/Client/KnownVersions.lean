import ResourceFeed.Proofs.Client.Desk
import ResourceFeed.Proofs.Client.SharedVersions

/-! # The last known version

    A client with a store of its own, which has no bound, sends with every
    change the version that it knew last.  What it knows is followed by the
    *notes* of all its moves, newest first: a version is noted when a keyed
    entry is materialized and when a resource is created or changed, and
    dropped when a resource is deleted.  The notes are taken from the answers
    alone, so that the store can be held against them.

    The invariant is that the store has under every identity what was noted
    last, and one lemma about a move carries it (`Follows.after`).
-/

namespace ResourceFeed

/-- The token that the last note on an identity left, newest note first. -/
def lastToken? (notes : List Note) (identity : Identity) : Option String :=
  (notes.find? fun note => note.identity = identity).bind Note.token?

/-- The version that is known last under an identity; the empty text if there is none. -/
def lastKnown (notes : List Note) (identity : Identity) : String :=
  (lastToken? notes identity).getD ""

theorem lastToken?_cons (note : Note) (notes : List Note) (identity : Identity) :
    lastToken? (note :: notes) identity =
      if note.identity = identity then note.token? else lastToken? notes identity := by
  unfold lastToken?
  by_cases hsame : note.identity = identity
  · rw [List.find?_cons_of_pos (by simpa using hsame), if_pos hsame]
    rfl
  · rw [List.find?_cons_of_neg (by simpa using hsame), if_neg hsame]

/-- What has come of a client and the stores of its program. -/
structure History (σ : Type) where
  stores : Nat → VersionStore
  desk : Desk σ
  /-- The notes that were to be taken, newest first. -/
  notes : List Note

namespace History

variable {σ : Type}

/-- Before the first move. -/
def start (stores : Nat → VersionStore) (peer : σ) : History σ :=
  ⟨stores, .start peer, []⟩

variable [Peer σ]

/-- What a move notes. -/
def note? (seat : Seat) (history : History σ) (move : Move) : Option Note :=
  history.desk.note? seat.client (history.stores (move.place seat)) move

/-- The requests that a move sends. -/
def requests (seat : Seat) (history : History σ) (move : Move) : List Request :=
  history.desk.requests seat.client (history.stores (move.place seat)) move

/-- The history after a move. -/
def after (seat : Seat) (history : History σ) (move : Move) : History σ where
  stores := (history.desk.actAt seat history.stores move).1
  desk := (history.desk.actAt seat history.stores move).2
  notes := (history.note? seat move).toList ++ history.notes

/-- The history after moves in turn. -/
def run (seat : Seat) (history : History σ) (moves : List Move) : History σ :=
  moves.foldl (after seat) history

/-- **The invariant**: the store of the seat has what was noted last, under every identity. -/
structure Follows (seat : Seat) (history : History σ) : Prop where
  unbounded : (history.stores seat.store).capacity = none
  token : ∀ identity,
    (history.stores seat.store).get? identity = lastToken? history.notes identity

omit [Peer σ] in
theorem follows_start {seat : Seat} {stores : Nat → VersionStore}
    (hown : stores seat.store = .empty none) (peer : σ) : Follows seat (start stores peer) where
  unbounded := by
    show (stores seat.store).capacity = none
    rw [hown]
    rfl
  token := by
    intro identity
    show (stores seat.store).get? identity = none
    rw [hown]
    rfl

/-- Both users of the store of an assembled seat work on the same one. -/
theorem place_eq {seat : Seat} (hseat : seat.Assembled) (move : Move) :
    move.place seat = seat.store := by
  cases move with
  | perform operation holder => rfl
  | create | get | openFeed | advance | edit => exact hseat.readerStore_eq

theorem store_after {seat : Seat} (hseat : seat.Assembled) (history : History σ) (move : Move) :
    (history.after seat move).stores seat.store =
      (history.stores seat.store).noting (history.note? seat move) := by
  unfold after Desk.actAt note?
  rw [place_eq hseat move]
  simp only [withStore, if_true]
  exact Desk.versions_act move

/-- **One move keeps the invariant.** -/
theorem Follows.after {seat : Seat} (hseat : seat.Assembled) {history : History σ}
    (h : Follows seat history) (move : Move) : Follows seat (history.after seat move) where
  unbounded := by rw [store_after hseat, VersionStore.capacity_noting, h.unbounded]
  token := by
    intro identity
    rw [store_after hseat]
    show _ = lastToken? ((history.note? seat move).toList ++ history.notes) identity
    cases history.note? seat move with
    | none => exact h.token identity
    | some note =>
      rw [VersionStore.get?_noting_some h.unbounded, h.token]
      exact (lastToken?_cons note history.notes identity).symm

/-- So do moves in turn. -/
theorem Follows.run {seat : Seat} (hseat : seat.Assembled) {history : History σ}
    (h : Follows seat history) (moves : List Move) : Follows seat (history.run seat moves) := by
  induction moves generalizing history with
  | nil => exact h
  | cons move rest ih => exact ih (h.after hseat move)

/-- A change of a known resource is sent with the version in the store. -/
theorem ifMatch_of_mem_requests {seat : Seat} {history : History σ} {move : Move}
    {request : Request} (hsent : request ∈ history.requests seat move)
    (hchange : request.method = .put ∨ request.method = .delete) :
    ∃ operation holder tracked identity,
      move = .perform operation holder ∧
      history.desk.instances holder = some tracked ∧
      tracked.identity? = some identity ∧
      seat.client.site.singleUrl identity.kind identity.id = .ok request.url ∧
      request.ifMatch = some (((history.stores seat.store).get? identity).getD "") := by
  rw [requests, Desk.requests_eq, Option.mem_toList] at hsent
  have hread : request.method ≠ .get := by
    rcases hchange with hput | hdelete
    · rw [hput]
      nofun
    · rw [hdelete]
      nofun
  cases move with
  | create type holder => cases hsent
  | get type id holder => exact absurd (Client.method_of_getPlan hsent) hread
  | openFeed address type rows feed => cases hsent
  | advance feed holder =>
    obtain ⟨reading, -, hsent⟩ := Option.bind_eq_some_iff.mp hsent
    exact absurd (Reading.method_of_request? hsent) hread
  | edit holder cells => cases hsent
  | perform operation holder =>
    obtain ⟨tracked, hheld, hsent⟩ := Option.bind_eq_some_iff.mp hsent
    obtain ⟨task, hplan, rfl⟩ := Plan.eq_send_of_request? hsent
    cases Client.sends_of_plan hplan with
    | insert hoperation hnew haddress => rcases hchange with hput | hdelete <;> contradiction
    | @update _ identity url hoperation hpersisted hchanged hknown haddress =>
      exact ⟨operation, holder, tracked, identity, rfl, hheld, hknown, haddress, rfl⟩
    | @delete identity url hknown haddress =>
      exact ⟨.delete, holder, tracked, identity, rfl, hheld, hknown, haddress, rfl⟩

/-- An operation on an entity gives no cause to note anything under an identity: it fails, or it
    leads to another identity, or it deletes nothing and no answer gives a version. -/
def IsQuiet (seat : Seat) (history : History σ) (operation : Operation) (holder : Nat)
    (tracked : Tracked) (identity : Identity) : Prop :=
  let result := (seat.client.perform operation).runOn tracked
    (history.desk.link (history.stores seat.store))
  (∃ failure, result.1 = .error failure) ∨
  result.2.1.identity? ≠ some identity ∨
  ∀ request ∈ history.requests seat (.perform operation holder), request.method ≠ .delete ∧
    ∀ response, (Peer.answer request history.desk.peer).1 = .ok response →
      response.version? = none

/-- A quiet operation leaves the version that is known. -/
theorem lastKnown_of_isQuiet {seat : Seat} {history : History σ} {operation : Operation}
    {holder : Nat} {tracked : Tracked} {identity : Identity}
    (hheld : history.desk.instances holder = some tracked)
    (hquiet : history.IsQuiet seat operation holder tracked identity) :
    lastKnown (history.after seat (.perform operation holder)).notes identity =
      lastKnown history.notes identity := by
  show (lastToken? ((history.note? seat (.perform operation holder)).toList ++ history.notes)
    identity).getD "" = _
  cases hnote : history.note? seat (.perform operation holder) with
  | none => rfl
  | some note =>
    obtain ⟨hok, hidentity, request, hsent, hcause⟩ := Desk.eq_some_of_note?_perform hheld hnote
    have hother : note.identity ≠ identity := by
      intro hsame
      rw [hsame] at hidentity
      rcases hquiet with ⟨failure, hfailed⟩ | helse | hnone
      · exact nomatch hok.symm.trans hfailed
      · exact helse hidentity
      · obtain ⟨hkept, hnone⟩ := hnone request hsent
        rcases hcause with hdelete | ⟨response, hanswer, hversion⟩
        · exact hkept hdelete
        · rw [hnone response hanswer] at hversion
          cases hversion
    rw [Option.toList_some, List.singleton_append, lastToken?_cons, if_neg hother]
    rfl

/-- **If-Match is the last known version.**  Whatever the server answers and however the client
    was put together: after any moves, a change of a known resource is sent with the version that
    was noted last under its identity, which is empty if there is none; and an operation that
    fails, or is on another identity, or gets no version and deletes nothing, changes nothing
    about that version. -/
theorem ifMatch_is_last_known {seat : Seat} (hseat : seat.Assembled)
    {stores : Nat → VersionStore} (hown : stores seat.store = .empty none) (peer : σ)
    (moves : List Move) :
    let history := (start stores peer).run seat moves
    (∀ move, ∀ request ∈ history.requests seat move,
      request.method = .put ∨ request.method = .delete →
      ∃ operation holder tracked identity,
        move = .perform operation holder ∧
        history.desk.instances holder = some tracked ∧
        tracked.identity? = some identity ∧
        seat.client.site.singleUrl identity.kind identity.id = .ok request.url ∧
        request.ifMatch = some (lastKnown history.notes identity)) ∧
    ∀ operation holder tracked identity, history.desk.instances holder = some tracked →
      history.IsQuiet seat operation holder tracked identity →
      lastKnown (history.after seat (.perform operation holder)).notes identity =
        lastKnown history.notes identity := by
  intro history
  have hfollows : history.Follows seat := (follows_start hown peer).run hseat moves
  refine ⟨?_, fun _ _ _ _ => lastKnown_of_isQuiet⟩
  intro move request hsent hchange
  obtain ⟨operation, holder, tracked, identity, hmove, hheld, hknown, haddress, hmatch⟩ :=
    ifMatch_of_mem_requests hsent hchange
  refine ⟨operation, holder, tracked, identity, hmove, hheld, hknown, haddress, ?_⟩
  rw [hmatch, hfollows.token identity]
  rfl

end History

/-! ### A contact that is read and renamed -/

namespace SharedVersions.Counter

/-- The client with a store of its own. -/
def ownSeat : Seat :=
  (Seat.ofSettings client 1).withStore 1

/-- Reading the contact leads to it, and its version is noted. -/
theorem conclusion_get_contact (link : Link Counter) :
    (client.getPlan contact "C1").conclusion link =
      .done tom (some (.recorded resource.identity link.peer.version)) := by
  have hplan : client.getPlan contact "C1" = .send (client.getTask contact url) := rfl
  have hanswer : (Peer.answer (Request.read url) link.peer).1 =
      .ok ⟨200, some link.peer.version, body⟩ := rfl
  rw [hplan]
  show (client.getTask contact url).conclude (Peer.answer (Request.read url) link.peer).1 = _
  rw [hanswer]
  show Conclusion.ofExcept (Entry.decode body) _ = _
  rw [entry_of_body]
  rfl

/-- Nothing has happened, and no store has a token. -/
def freshHistory : History Counter :=
  .start (fun _ => .empty none) ⟨0⟩

/-- The contact was read and renamed. -/
def renamedHistory : History Counter :=
  freshHistory.run ownSeat [.get contact "C1" 0, .edit 0 (named "Ann")]

theorem instance_renamedHistory :
    renamedHistory.desk.instances 0 = some (renamed "Ann" (version ⟨0⟩)).tracked := by
  have hget : (freshHistory.after ownSeat (.get contact "C1" 0)).desk.instances 0 = some tom := by
    show (freshHistory.desk.afterGet 0
      ((client.get contact "C1").runOn (freshHistory.desk.link (.empty none)))).instances 0 = _
    rw [get_contact]
    rfl
  have hedit : renamedHistory.desk.instances 0 =
      ((freshHistory.after ownSeat (.get contact "C1" 0)).desk.instances 0).map fun tracked =>
        { tracked with entity := { tracked.entity with cells := named "Ann" } } := rfl
  rw [hedit, hget]
  rfl

theorem notes_renamedHistory :
    renamedHistory.notes = [.recorded resource.identity (version ⟨0⟩)] := by
  have hnotes : renamedHistory.notes =
      (freshHistory.desk.note? client (.empty none) (.get contact "C1" 0)).toList ++ [] := rfl
  rw [hnotes, Desk.note?_get, conclusion_get_contact]
  rfl

/-- The new name is sent with the version that was read. -/
theorem rename_sent_with_version_read :
    ∃ request ∈ renamedHistory.requests ownSeat (.perform .update 0),
      request.method = .put ∧ request.url = url ∧ request.ifMatch = some (version ⟨0⟩) := by
  have hassembled : ownSeat.Assembled := .withStore (.ofSettings client 1) 1
  have hown : freshHistory.stores ownSeat.store = .empty none := rfl
  obtain ⟨hmatch, -⟩ := History.ifMatch_is_last_known hassembled hown (⟨0⟩ : Counter)
    [.get contact "C1" 0, .edit 0 (named "Ann")]
  have hrequests : renamedHistory.requests ownSeat (.perform .update 0) =
      [(Client.updateTask (renamed "Ann" (version ⟨0⟩)).tracked resource.identity url).request
        (renamedHistory.stores 1)] := by
    unfold History.requests
    rw [Desk.requests_eq]
    show ((renamedHistory.desk.instances 0).bind _).toList = _
    rw [instance_renamedHistory]
    rfl
  have hsent : (Client.updateTask (renamed "Ann" (version ⟨0⟩)).tracked resource.identity
      url).request (renamedHistory.stores 1) ∈
        renamedHistory.requests ownSeat (.perform .update 0) := by
    rw [hrequests]
    exact List.mem_singleton_self _
  refine ⟨_, hsent, rfl, rfl, ?_⟩
  obtain ⟨_, _, tracked, identity, hmove, hheld, hknown, -, hversion⟩ :=
    hmatch (.perform .update 0) _ hsent (.inl rfl)
  cases hmove
  -- the entity that was renamed is the contact
  have hsame : tracked = (renamed "Ann" (version ⟨0⟩)).tracked :=
    Option.some.inj (hheld.symm.trans instance_renamedHistory)
  rw [hsame] at hknown
  cases hknown
  have hlast : lastKnown renamedHistory.notes ⟨"Contact", "C1"⟩ = version ⟨0⟩ := by
    rw [notes_renamedHistory]
    rfl
  rw [← hlast]
  exact hversion

end SharedVersions.Counter
end ResourceFeed
