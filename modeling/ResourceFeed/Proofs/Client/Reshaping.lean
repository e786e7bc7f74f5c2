import ResourceFeed.Client.Operations
import ResourceFeed.Proofs.Client.ReadPaths
import ResourceFeed.Proofs.Client.Streaming
import ResourceFeed.Proofs.Query.Building

/-! # The ways to read a projection

    A projection is read as entities, as the values of its selector for these
    entities, or as these values in a shape of the caller.  Each of the three is
    a stream of its own, over the same pages.

    A stream that does more with an entry reads *along* one that does less.
    Taking one item does the same to the link, but for what happens in the host
    program, and the cursor is at the same entry, unless the item cannot be read
    on: then the longer reading has ended.  So the longer one brings what is
    made of the items of the shorter one, up to the first failure of either, and
    up to there both send the same requests and remember the same versions.
-/

namespace ResourceFeed

/-- Two links agree but for what happened in the host program. -/
structure Link.SameTraffic (first second : Link σ) : Prop where
  versions : first.versions = second.versions
  peer : first.peer = second.peer
  sent : first.sent = second.sent

namespace Link.SameTraffic

variable {σ α β : Type} {first second : Link σ}

theorem converting (h : first.SameTraffic second) (convert : Conversion α) (next : α → Run β)
    (entry : Entry) :
    (first.converting (convert.thenRun next) entry).SameTraffic
      (second.converting convert entry) := by
  refine ⟨?_, h.peer, h.sent⟩
  show (convert entry first.versions).2 = (convert entry second.versions).2
  rw [h.versions]

theorem sending [Peer σ] (h : first.SameTraffic second) (request : Request) :
    (first.sending request).SameTraffic (second.sending request) := by
  refine ⟨h.versions, ?_, ?_⟩
  · show (Peer.answer request first.peer).2 = (Peer.answer request second.peer).2
    rw [h.peer]
  · show first.sent ++ [request] = second.sent ++ [request]
    rw [h.sent]

end Link.SameTraffic

namespace Cursor

/-! ### One poll -/

namespace Poll

variable {α β : Type}

/-- Makes something else of the item of a poll, which may fail. -/
def andThen (next : α → Except Failure β) : Poll α → Poll β
  | .item value =>
    match next value with
    | .ok result => .item result
    | .error failure => .failed failure
  | .failed failure => .failed failure
  | .ended => .ended
  | .undecided => .undecided

theorem andThen_of_ok {next : α → Except Failure β} {item : α} {result : β}
    (h : next item = .ok result) : (Poll.item item).andThen next = .item result := by
  rw [andThen, h]

theorem andThen_of_error {next : α → Except Failure β} {item : α} {failure : Failure}
    (h : next item = .error failure) : (Poll.item item).andThen next = .failed failure := by
  rw [andThen, h]

/-- Whether a poll failed. -/
def hasFailed : Poll α → Bool
  | .failed _ => true
  | _ => false

end Poll

section reading
variable {σ α β : Type} [Peer σ]

/-- A poll along another: it brings what is made of the item, and the traffic is the same.  The
    cursor is the same unless the poll fails. -/
structure PollsAlong (next : α → Except Failure β) (source : Poll α × Cursor × Link σ)
    (polled : Poll β × Cursor × Link σ) : Prop where
  outcome : polled.1 = source.1.andThen next
  cursor : polled.2.1 = if polled.1.hasFailed then finished else source.2.1
  traffic : polled.2.2.SameTraffic source.2.2

/-- A poll that does more with an entry goes along the poll that does less. -/
theorem pollsAlong_poll (convert : Conversion α) (next : α → Run β) (patience : Nat)
    (cursor : Cursor) {first second : Link σ} (h : first.SameTraffic second) :
    PollsAlong (fun item => (next item).outcome) (poll convert cursor second patience)
      (poll (convert.thenRun next) cursor first patience) := by
  -- on the patience: both polls spend one of it on the same page
  induction patience generalizing cursor first second with
  | zero => exact ⟨rfl, rfl, h⟩
  | succ patience ih =>
    obtain ⟨pending, address, ended⟩ := cursor
    cases ended with
    | true => exact ⟨rfl, rfl, h⟩
    | false =>
      unfold poll
      cases pending with
      | cons entry rest =>
        have hlink := h.converting convert next entry
        have houtcome : (convert.thenRun next entry first.versions).1.outcome =
            ((convert entry second.versions).1 >>= next).outcome := by
          rw [h.versions]
          rfl
        rw [step_entry, step_entry, houtcome, Run.outcome_bind]
        cases (convert entry second.versions).1.outcome with
        | error failure => exact ⟨rfl, rfl, hlink⟩
        | ok item =>
          -- the entry is read on, and this may fail where the shorter reading does not
          have hnext : (Except.ok item >>= fun item => (next item).outcome) =
              (next item).outcome := rfl
          rw [hnext]
          cases hitem : (next item).outcome with
          | ok value => exact ⟨(Poll.andThen_of_ok hitem).symm, rfl, hlink⟩
          | error failure => exact ⟨(Poll.andThen_of_error hitem).symm, rfl, hlink⟩
      | nil =>
        cases address with
        | none => exact ⟨rfl, rfl, h⟩
        | some url =>
          have hlink := h.sending (Request.read url)
          rw [step_fetch, step_fetch, h.peer]
          cases answeredPage url (Peer.answer (Request.read url) second.peer).1 with
          | ok page => exact ih _ hlink
          | error failure => exact ⟨rfl, rfl, hlink⟩

/-! ### Many polls -/

/-- Polls up to the first failure, and nothing but the end behind it. -/
def cutAtFailure : List (Poll α) → List (Poll α)
  | [] => []
  | outcome :: rest =>
    outcome :: if outcome.hasFailed then List.replicate rest.length .ended else cutAtFailure rest

/-- How many polls there are up to the first failure, itself included. -/
def reach : List (Poll α) → Nat
  | [] => 0
  | outcome :: rest => if outcome.hasFailed then 1 else reach rest + 1

/-- Reading along another stream: however often it is polled, the outcomes are what is made of those
    of the other one, cut at the first failure, and the traffic is that of the other one up to
    there. -/
structure ReadsAlong (next : α → Except Failure β) (source : Nat → List (Poll α) × Cursor × Link σ)
    (polled : Nat → List (Poll β) × Cursor × Link σ) : Prop where
  outcomes : ∀ count, (polled count).1 = cutAtFailure ((source count).1.map (Poll.andThen next))
  traffic : ∀ count, (polled count).2.2.SameTraffic (source (reach (polled count).1)).2.2

/-- Without patience nothing fails. -/
theorem patience_pos_of_hasFailed {convert : Conversion α} {cursor : Cursor} {link : Link σ}
    {patience : Nat} (h : (poll convert cursor link patience).1.hasFailed) : 0 < patience := by
  cases patience with
  | zero => cases h
  | succ patience => exact Nat.succ_pos patience

/-- A stream that does more with each entry reads along the stream that does less. -/
theorem readsAlong_polls (convert : Conversion α) (next : α → Run β) (patience : Nat)
    (cursor : Cursor) {first second : Link σ} (h : first.SameTraffic second) :
    ReadsAlong (fun item => (next item).outcome)
      (fun count => polls convert patience count cursor second)
      (fun count => polls (convert.thenRun next) patience count cursor first) := by
  suffices hboth : ∀ count,
      (polls (convert.thenRun next) patience count cursor first).1 = cutAtFailure
        ((polls convert patience count cursor second).1.map
          (Poll.andThen fun item => (next item).outcome)) ∧
      (polls (convert.thenRun next) patience count cursor first).2.2.SameTraffic
        (polls convert patience
          (reach (polls (convert.thenRun next) patience count cursor first).1) cursor second).2.2
    from ⟨fun count => (hboth count).1, fun count => (hboth count).2⟩
  intro count
  -- on the polls: as long as none has failed, both cursors are at the same entry
  induction count generalizing cursor first second with
  | zero => exact ⟨rfl, h⟩
  | succ count ih =>
    have hpoll := pollsAlong_poll convert next patience cursor h
    rw [polls_eq_cons, polls_eq_cons, List.map_cons, cutAtFailure, reach, ← hpoll.outcome,
      hpoll.cursor]
    cases hfailed : (poll (convert.thenRun next) cursor first patience).1.hasFailed with
    | true =>
      -- the reading has ended, and the other one is looked at after this poll
      simp only [if_true, polls_finished (patience_pos_of_hasFailed hfailed), List.length_map,
        length_polls]
      exact ⟨trivial, hpoll.traffic⟩
    | false =>
      obtain ⟨houtcomes, htraffic⟩ := ih (poll convert cursor second patience).2.1 hpoll.traffic
      simp only [Bool.false_eq_true, if_false]
      exact ⟨congrArg _ houtcomes, htraffic⟩

end reading

/-- What a number of polls of a feed bring, from its first page on. -/
def stream [Peer σ] (convert : Conversion α) (patience : Nat) (url : String) (link : Link σ) :
    Nat → List (Poll α) × Cursor × Link σ :=
  fun count => polls convert patience count (.start url) link

end Cursor

/-- To read on twice is to read on once with both. -/
theorem Conversion.thenRun_thenRun (convert : Conversion α) (next : α → Run β)
    (last : β → Run γ) :
    (convert.thenRun next).thenRun last = convert.thenRun fun item => next item >>= last := by
  funext entry versions
  exact congrArg (·, (convert entry versions).2) (bind_assoc _ _ _)

/-! ### Opened projections -/

namespace Client

open Cursor

variable (client : Client) (type : EntityType) (query : Projected)

theorem outcome_openValues :
    (client.openValues type query).outcome =
      (client.projectedTarget query).outcome.map fun target =>
        ⟨.start (client.pagedUrl target.1), .value client.resolver type target.2⟩ := by
  rw [openValues, Run.outcome_bind]
  cases (client.projectedTarget query).outcome <;> rfl

theorem outcome_openShapes (shape : Shape) :
    (client.openShapes type query shape).outcome =
      (client.projectedTarget query).outcome.map fun target =>
        ⟨.start (client.pagedUrl target.1), .shaped client.resolver type target.2 shape⟩ := by
  rw [openShapes, Run.outcome_bind]
  cases (client.projectedTarget query).outcome <;> rfl

variable {client query}

/-- The selector of a projection is the only one in its query, folded. -/
theorem exists_selector_of_projectedTarget {url : String} {selector : Expr}
    (h : (client.projectedTarget query).outcome = .ok (url, selector)) :
    ∃ written, query.chain.selectors = [written] ∧ written.simplify.outcome = .ok selector := by
  obtain ⟨target, htarget, h⟩ := Run.outcome_bind_eq_ok.mp h
  obtain ⟨folded, hfold, htarget⟩ := Run.outcome_bind_eq_ok.mp htarget
  cases Chain.eq_simplified_of_fold hfold
  obtain ⟨hsend, hprojector⟩ := Site.sendable_of_target htarget
  have hlength := Chain.length_selectors_le_one hsend.projectsLast
  rw [Chain.selectors_simplified] at hprojector hlength
  have hsubset := query.chain.selectors_subset_expressions
  cases hselectors : query.chain.selectors with
  | nil =>
    rw [hselectors] at hprojector
    rw [hprojector] at h
    cases h
  | cons written rest =>
    rw [hselectors] at hprojector hlength hsubset
    rw [hprojector] at h
    cases h
    refine ⟨written, ?_, Chain.simplify_of_fold hfold (hsubset List.mem_cons_self)⟩
    have hrest : rest = [] := by
      rw [← List.length_eq_zero_iff]
      simpa using hlength
    rw [hrest]

/-- **The ways to read a projection agree**: the feeds of the values of a projection and of the
    values in a shape are opened at the same address and with the same selector, which is the one in
    the query after folding, or they fail with the same failure.  In a shape, a value is what the
    shape reads from its JSON form, and it is malformed if the shape refuses this.

    Whatever the server answers, the values are what the selector makes of the records of the
    entities that are read at that address, and whatever the values are read as, the results are
    what this reading makes of the values: item by item, up to the first failure of either stream.
    Up to there all of them send the same requests and remember the same versions. -/
theorem readings_of_projection_agree (client : Client) (type : EntityType) (query : Projected) :
    ((client.openValues type query).outcome =
        (client.projectedTarget query).outcome.map fun target =>
          ⟨.start (client.pagedUrl target.1), .value client.resolver type target.2⟩) ∧
    (∀ shape, (client.openShapes type query shape).outcome =
        (client.projectedTarget query).outcome.map fun target =>
          ⟨.start (client.pagedUrl target.1),
            (Conversion.value client.resolver type target.2).thenRun fun value =>
              match shape.ofJson? value.toJson with
              | some read => pure read
              | none => Run.fail (.document .malformed)⟩) ∧
    ∀ url selector, (client.projectedTarget query).outcome = .ok (url, selector) →
      (∃ written, query.chain.selectors = [written] ∧ written.simplify.outcome = .ok selector) ∧
      ∀ {σ : Type} [Peer σ] (link : Link σ) (patience : Nat),
        let entities := stream (.entity client.resolver type) patience (client.pagedUrl url) link
        let values :=
          stream (.value client.resolver type selector) patience (client.pagedUrl url) link
        let select := fun tracked : Tracked =>
          selector.evaluate (some (.record tracked.entity.visibleFields))
        ReadsAlong select entities values ∧
        ∀ {γ : Type} (read : Value → Run γ),
          let results := stream ((Conversion.value client.resolver type selector).thenRun read)
            patience (client.pagedUrl url) link
          ReadsAlong (fun value => (read value).outcome) values results ∧
          ReadsAlong (fun tracked => select tracked >>= fun value => (read value).outcome)
            entities results := by
  refine ⟨outcome_openValues client type query, outcome_openShapes client type query, ?_⟩
  intro url selector htarget
  refine ⟨exists_selector_of_projectedTarget htarget, ?_⟩
  intro σ _ link patience entities values select
  have hsame : link.SameTraffic link := ⟨rfl, rfl, rfl⟩
  refine ⟨readsAlong_polls _ _ patience _ hsame, ?_⟩
  intro γ read results
  refine ⟨readsAlong_polls _ read patience _ hsame, ?_⟩
  -- both readings at once, behind the entity
  have hboth := readsAlong_polls (Conversion.entity client.resolver type)
    (fun tracked => selector.run (some (.record tracked.entity.visibleFields)) >>= read)
    patience (.start (client.pagedUrl url)) hsame
  rw [← Conversion.thenRun_thenRun] at hboth
  simp only [Run.outcome_bind] at hboth
  exact hboth

end Client

/-! ### First names in a shape -/

namespace Shelf

open SharedVersions.Counter (client contact tom)

/-- The first names of contacts. -/
def firstNames : Projected :=
  ⟨.project (.source "Contact") (.field "FirstName")⟩

/-- Where they are read. -/
def firstNamesUrl : String :=
  "https://x/sdata/-/contacts?select=FirstName"

/-- A digit, which no name is. -/
def digit : Shape :=
  .integer 0 9

/-- The first names, as they are streamed from the feed of two contacts. -/
def names : Nat → List (Cursor.Poll Value) × Cursor × Link Server :=
  Cursor.stream (.value client.resolver contact (.field "FirstName")) 2 firstNamesUrl
    (link (feed resource other))

/-- The first names as digits. -/
def digits : Nat → List (Cursor.Poll Value) × Cursor × Link Server :=
  Cursor.stream (.shaped client.resolver contact (.field "FirstName") digit) 2 firstNamesUrl
    (link (feed resource other))

theorem answeredPage_feed (url : String) :
    answeredPage url (Peer.answer (Request.read url) (link (feed resource other)).peer).1 =
      .ok ⟨[Entry.ofMembers resource, Entry.ofMembers other], none, none⟩ := by
  have hanswer : (Peer.answer (Request.read url) (link (feed resource other)).peer).1 =
      .ok ⟨200, some "h1", Text.toBytes (feed resource other).render⟩ := rfl
  rw [hanswer, answeredPage_of_success (by rfl)]
  rw [Page.decode, document_of_wellFormed (wellFormed_feed wellFormed_resource wellFormed_other)]
  rfl

/-- The other contact as it is read. -/
def ann : Tracked :=
  .received ⟨contact, SharedVersions.Counter.named "Ann"⟩ (some "C2")

/-- The feed brings both contacts. -/
theorem polls_contacts :
    (Cursor.stream (.entity client.resolver contact) 2 firstNamesUrl
      (link (feed resource other)) 2).1 = [.item tom, .item ann] := by
  rw [Cursor.stream, Cursor.polls_start (by decide) (answeredPage_feed _) rfl,
    Cursor.polls_eq_cons, Cursor.poll_pending (by decide)]
  rfl

/-- The first names are opened; the feed brings two of them, and neither is a digit: asked for as
    such, the first one fails, and the reading is at its end. -/
theorem first_names_are_no_digits :
    (client.openShapes contact firstNames digit).outcome = .ok
      ⟨.start firstNamesUrl, .shaped client.resolver contact (.field "FirstName") digit⟩ ∧
    (names 2).1 = [.item (.text "Tom"), .item (.text "Ann")] ∧
    (digits 2).1 = [.failed (.document .malformed), .ended] ∧
    (digits 2).2.2.SameTraffic (names 1).2.2 := by
  obtain ⟨-, hshapes, hread⟩ := Client.readings_of_projection_agree client contact firstNames
  have htarget : (client.projectedTarget firstNames).outcome =
      .ok (firstNamesUrl, .field "FirstName") := rfl
  obtain ⟨-, hstreams⟩ := hread _ _ htarget
  obtain ⟨hnames, hresults⟩ := hstreams (link (feed resource other)) 2
  have hdigits : Cursor.ReadsAlong (fun name => (Conversion.inShape digit name).outcome)
    names digits := (hresults (Conversion.inShape digit)).1
  have htwo : (names 2).1 = [.item (.text "Tom"), .item (.text "Ann")] := by
    refine (hnames.outcomes 2).trans ?_
    rw [show client.pagedUrl firstNamesUrl = firstNamesUrl from rfl, polls_contacts]
    rfl
  have hrefused : (digits 2).1 = [.failed (.document .malformed), .ended] := by
    rw [hdigits.outcomes 2, htwo]
    rfl
  have htraffic := hdigits.traffic 2
  rw [hrefused] at htraffic
  refine ⟨?_, htwo, hrefused, htraffic⟩
  rw [hshapes digit, htarget]
  rfl

end Shelf

end ResourceFeed
