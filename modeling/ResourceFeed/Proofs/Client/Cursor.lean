import ResourceFeed.Client.Stream

/-! # What a step of a cursor does

    A step of a cursor is one of four things: nothing, if the reading has
    ended; the conversion of the entry at the front; the request for the next
    page; or the finding that there is no further page.  Each has an equation
    below, and later proofs rewrite with these instead of opening `step`.
-/

namespace ResourceFeed

/-- The page in what a peer answers when an address is read. -/
def answeredPage (url : String) (answer : Except Failure Response) : Except Failure Page := do
  let response ← answer
  let response ← response.accepted
  Page.decode response.body url

theorem answeredPage_of_success {response : Response} (hsuccess : response.isSuccess = true)
    (url : String) : answeredPage url (.ok response) = Page.decode response.body url := by
  have haccepted : response.accepted = .ok response := if_pos hsuccess
  show (response.accepted >>= _) = _
  rw [haccepted]
  rfl

/-- The link after an entry was converted. -/
def Link.converting (convert : Conversion α) (entry : Entry) (link : Link σ) : Link σ :=
  { link with
    versions := (convert entry link.versions).2
    events := link.events ++ (convert entry link.versions).1.events }

namespace Cursor

open Exchange

variable {σ α : Type} [Peer σ]

theorem runOn_fetch (url : String) (link : Link σ) :
    (fetch url).runOn link =
      (answeredPage url (Peer.answer (Request.read url) link.peer).1,
        link.sending (Request.read url)) := by
  unfold fetch
  rw [runOn_bind, runOn_send]
  cases (Peer.answer (Request.read url) link.peer).1 with
  | error failure => rfl
  | ok response =>
    simp only
    rw [runOn_bind, runOn_ofExcept]
    cases haccepted : response.accepted with
    | error failure =>
      show _ = (response.accepted >>= _, _)
      rw [haccepted]
      rfl
    | ok accepted =>
      show (ofExcept _).runOn _ = (response.accepted >>= _, _)
      rw [runOn_ofExcept, haccepted]
      rfl

/-! ### The four kinds of steps -/

@[simp] theorem step_finished (convert : Conversion α) (link : Link σ) :
    finished.step convert link = (.ended, finished, link) := rfl

/-- A step converts the entry at the front. -/
theorem step_entry (convert : Conversion α) (entry : Entry) (rest : List Entry)
    (next : Option String) (link : Link σ) :
    step convert ⟨entry :: rest, next, false⟩ link =
      match (convert entry link.versions).1.outcome with
      | .ok value => (.item value, ⟨rest, next, false⟩, link.converting convert entry)
      | .error failure => (.failed failure, finished, link.converting convert entry) := by
  unfold step Link.converting
  rfl

/-- A step finds that there is no further page. -/
theorem step_exhausted (convert : Conversion α) (link : Link σ) :
    step convert ⟨[], none, false⟩ link = (.ended, finished, link) := rfl

/-- A step asks for the next page. -/
theorem step_fetch (convert : Conversion α) (url : String) (link : Link σ) :
    step convert ⟨[], some url, false⟩ link =
      match answeredPage url (Peer.answer (Request.read url) link.peer).1 with
      | .ok page => (.fetched, onPage url page, link.sending (Request.read url))
      | .error failure => (.failed failure, finished, link.sending (Request.read url)) := by
  have hfetch := runOn_fetch url link
  unfold step
  simp only [Bool.false_eq_true, if_false, hfetch]
  cases answeredPage url (Peer.answer (Request.read url) link.peer).1 with
  | ok page => rfl
  | error failure => rfl

end Cursor

end ResourceFeed
