import ResourceFeed.Proofs.Client.Cursor

/-! # A stream reads the chain of pages

    A cursor is a machine: a queue of entries, perhaps the address of another
    page, and a flag.  What it should bring is easier said of lists.  From an
    address on there is a chain of pages, each of which says where the next
    one is found; the entries of these pages in order are converted one after
    the other up to the first failure.  The outcomes of polls are the elements
    of this list, and then nothing but the end.

    The chain may be endless, so it is followed for a number of pages.  A
    beginning of the chain *settles* a number of polls if the chain ends
    there, if it has an entry for each poll, or if a conversion fails.

    - Polls that are settled are decided, given patience enough.
    - If polls are decided, some beginning of the chain settles them.
    - Decided polls bring the elements of the list, and their link is that
      after converting as many entries as there were polls and after asking
      for the pages that these polls *need*: a page is needed by a poll that
      comes after all entries of the pages before it.
-/

namespace ResourceFeed

/-! ### The chain of pages -/

/-- The address after a page, unless it is the one of the page itself. -/
def Page.after (page : Page) (url : String) : Option String :=
  if page.next = some url then none else page.next

/-- An address that was read, and what came of it. -/
structure Visit where
  url : String
  page : Except Failure Page

namespace Visit

/-- The request for the page. -/
def request (visit : Visit) : Request :=
  Request.read visit.url

/-- The entries that were found. -/
def entries (visit : Visit) : List Entry :=
  match visit.page with
  | .ok page => page.entries
  | .error _ => []

/-- The failure to get the page. -/
def failure? (visit : Visit) : Option Failure :=
  match visit.page with
  | .ok _ => none
  | .error failure => some failure

end Visit

/-- The beginning of a chain of pages. -/
structure PageChain where
  visits : List Visit
  /-- Where the chain goes on; nowhere after its last page or a failure. -/
  next : Option String

namespace PageChain

/-- The entries of all pages, in order. -/
def entries (chain : PageChain) : List Entry :=
  chain.visits.flatMap Visit.entries

/-- The failure to get a page, which is the last one then. -/
def failure? (chain : PageChain) : Option Failure :=
  chain.visits.findSome? Visit.failure?

/-- The chain with a page before it. -/
def cons (visit : Visit) (chain : PageChain) : PageChain :=
  { chain with visits := visit :: chain.visits }

/-- Follows the chain from an address on for a number of pages. -/
def follow [Peer σ] : Nat → Option String → σ → PageChain
  | _, none, _ => ⟨[], none⟩
  | 0, some url, _ => ⟨[], some url⟩
  | pages + 1, some url, peer =>
    match answeredPage url (Peer.answer (Request.read url) peer).1 with
    | .ok page =>
      (follow pages (page.after url) (Peer.answer (Request.read url) peer).2).cons ⟨url, .ok page⟩
    | .error failure => ⟨[⟨url, .error failure⟩], none⟩

/-- The pages that are asked for when a number of entries is wanted: each one for which the
    entries before it are fewer. -/
def needed : Nat → List Visit → List Visit
  | 0, _ => []
  | _, [] => []
  | wanted + 1, visit :: rest => visit :: needed (wanted + 1 - visit.entries.length) rest

end PageChain

/-! ### The conversion of entries -/

/-- What came of the conversion of entries in turn. -/
structure Converted (α : Type) where
  items : List α
  /-- The failure after which no further entry was converted. -/
  failure? : Option Failure
  versions : VersionStore
  events : List Event

/-- Converts entries in turn up to the first failure. -/
def convertAll (convert : Conversion α) : List Entry → VersionStore → Converted α
  | [], versions => ⟨[], none, versions, []⟩
  | entry :: rest, versions =>
    let (run, versions) := convert entry versions
    match run.outcome with
    | .ok value =>
      let later := convertAll convert rest versions
      { later with items := value :: later.items, events := run.events ++ later.events }
    | .error failure => ⟨[], some failure, versions, run.events⟩

namespace Converted

/-- The items, and then the first failure, if there is one: of the conversion or of the chain. -/
def deliveries (converted : Converted α) (chainFailure? : Option Failure) :
    List (Cursor.Poll α) :=
  converted.items.map .item ++ ((converted.failure?.or chainFailure?).map .failed).toList

/-- How many entries a number of polls wants; after a failed conversion no more are wanted. -/
def wanted (converted : Converted α) (polls : Nat) : Nat :=
  match converted.failure? with
  | none => polls
  | some _ => min polls (converted.items.length + 1)

end Converted

/-- The link after pages were asked for and entries were converted. -/
def Link.reading [Peer σ] (link : Link σ) (visits : List Visit) (converted : Converted α) :
    Link σ where
  versions := converted.versions
  peer := visits.foldl (fun peer visit => (Peer.answer visit.request peer).2) link.peer
  sent := link.sent ++ visits.map Visit.request
  events := link.events ++ converted.events

namespace Cursor

/-- Polls a number of times. -/
def polls [Peer σ] (convert : Conversion α) (patience : Nat) :
    Nat → Cursor → Link σ → List (Poll α) × Cursor × Link σ
  | 0, cursor, link => ([], cursor, link)
  | count + 1, cursor, link =>
    let (outcome, cursor, link) := poll convert cursor link patience
    let (outcomes, cursor, link) := polls convert patience count cursor link
    (outcome :: outcomes, cursor, link)

/-! ### What polls go through

    A derivation of `Polling` goes through the steps that polls of a cursor
    take: `left` is what is left of the patience of the first one.  All facts
    about polls below are inductions on such a derivation. -/

section polling
variable {σ α : Type} [Peer σ] {convert : Conversion α} {patience : Nat}

/-- The outcomes of a number of polls of a cursor that has not ended, and the link after them. -/
inductive Polling (convert : Conversion α) (patience : Nat) :
    Nat → Nat → List Entry → Option String → Link σ → List (Poll α) × Link σ → Prop where
  | done {left pending next link} :
      Polling convert patience left 0 pending next link ([], link)
  /-- A poll has no patience left. -/
  | undecided {count pending next link result} (hundecided : Poll.undecided ∈ result.1) :
      Polling convert patience 0 (count + 1) pending next link result
  /-- An entry is converted. -/
  | item {left count entry rest next link value later}
      (hvalue : (convert entry link.versions).1.outcome = .ok value)
      (hlater : Polling convert patience patience count rest next
        (link.converting convert entry) later) :
      Polling convert patience (left + 1) (count + 1) (entry :: rest) next link
        (.item value :: later.1, later.2)
  /-- An entry cannot be converted. -/
  | unconverted {left count entry rest next link failure}
      (hfailure : (convert entry link.versions).1.outcome = .error failure) :
      Polling convert patience (left + 1) (count + 1) (entry :: rest) next link
        (.failed failure :: List.replicate count .ended, link.converting convert entry)
  /-- There is no further page. -/
  | exhausted {left count link} :
      Polling convert patience (left + 1) (count + 1) [] none link
        (List.replicate (count + 1) .ended, link)
  /-- A page cannot be had. -/
  | missing {left count url link failure}
      (hfailure : answeredPage url (Peer.answer (Request.read url) link.peer).1 = .error failure) :
      Polling convert patience (left + 1) (count + 1) [] (some url) link
        (.failed failure :: List.replicate count .ended, link.sending (Request.read url))
  /-- A page is fetched. -/
  | fetched {left count url link page result}
      (hpage : answeredPage url (Peer.answer (Request.read url) link.peer).1 = .ok page)
      (hlater : Polling convert patience left (count + 1) page.entries (page.after url)
        (link.sending (Request.read url)) result) :
      Polling convert patience (left + 1) (count + 1) [] (some url) link result

/-- The first poll comes before the others. -/
theorem polls_eq_cons (convert : Conversion α) (patience count : Nat) (cursor : Cursor)
    (link : Link σ) :
    polls convert patience (count + 1) cursor link =
      ((poll convert cursor link patience).1 ::
          (polls convert patience count (poll convert cursor link patience).2.1
            (poll convert cursor link patience).2.2).1,
        (polls convert patience count (poll convert cursor link patience).2.1
          (poll convert cursor link patience).2.2).2) := rfl

theorem length_polls (convert : Conversion α) (patience count : Nat) (cursor : Cursor)
    (link : Link σ) : (polls convert patience count cursor link).1.length = count := by
  induction count generalizing cursor link with
  | zero => rfl
  | succ count ih => rw [polls_eq_cons, List.length_cons, ih]

/-- Nothing happens any more after the end. -/
theorem polls_finished (hpatience : 0 < patience) (count : Nat) (link : Link σ) :
    polls convert patience count finished link = (List.replicate count .ended, finished, link) := by
  obtain ⟨patience, rfl⟩ : ∃ n, patience = n + 1 := ⟨patience - 1, by omega⟩
  induction count with
  | zero => rfl
  | succ count ih =>
    have hpoll : poll convert finished link (patience + 1) = (.ended, finished, link) := by
      unfold poll
      rw [step_finished]
    rw [polls_eq_cons, hpoll, ih]
    rfl

/-- The first of some polls goes through the steps of `Polling` if the later ones do. -/
theorem polling_of_poll (count : Nat)
    (hlater : ∀ pending next (link : Link σ),
      Polling convert patience patience count pending next link
        ((polls convert patience count ⟨pending, next, false⟩ link).1,
          (polls convert patience count ⟨pending, next, false⟩ link).2.2))
    (left : Nat) (hleft : left ≤ patience) (pending : List Entry) (next : Option String)
    (link : Link σ) {outcome : Poll α} {cursor : Cursor} {after : Link σ}
    (hpoll : poll convert ⟨pending, next, false⟩ link left = (outcome, cursor, after)) :
    Polling convert patience left (count + 1) pending next link
      (outcome :: (polls convert patience count cursor after).1,
        (polls convert patience count cursor after).2.2) := by
  -- on the patience: a step that fetches a page spends one of it and polls on
  induction left generalizing pending next link with
  | zero =>
    cases hpoll
    exact .undecided List.mem_cons_self
  | succ left ih =>
    have hpatience : 0 < patience := by omega
    unfold poll at hpoll
    cases pending with
    | cons entry rest =>
      rw [step_entry] at hpoll
      cases houtcome : (convert entry link.versions).1.outcome with
      | ok value =>
        -- this poll is over, and the later ones have all their patience
        rw [houtcome] at hpoll
        cases hpoll
        exact .item houtcome (hlater rest next _)
      | error failure =>
        rw [houtcome] at hpoll
        cases hpoll
        rw [polls_finished hpatience]
        exact .unconverted houtcome
    | nil =>
      cases next with
      | none =>
        rw [step_exhausted] at hpoll
        cases hpoll
        rw [polls_finished hpatience]
        exact .exhausted
      | some url =>
        rw [step_fetch] at hpoll
        cases hpage : answeredPage url (Peer.answer (Request.read url) link.peer).1 with
        | ok page =>
          rw [hpage] at hpoll
          exact .fetched hpage (ih (by omega) _ _ _ hpoll)
        | error failure =>
          rw [hpage] at hpoll
          cases hpoll
          rw [polls_finished hpatience]
          exact .missing hpage

/-- Polls go through the steps of `Polling`. -/
theorem polling_of_polls (convert : Conversion α) (patience count : Nat) (pending : List Entry)
    (next : Option String) (link : Link σ) :
    Polling convert patience patience count pending next link
      ((polls convert patience count ⟨pending, next, false⟩ link).1,
        (polls convert patience count ⟨pending, next, false⟩ link).2.2) := by
  induction count generalizing pending next link with
  | zero => exact .done
  | succ count ih =>
    rw [polls_eq_cons]
    exact polling_of_poll count ih patience (Nat.le_refl patience) pending next link rfl

end polling

/-! ### Settled polls -/

section settled
variable {σ α : Type} [Peer σ] {convert : Conversion α} {patience : Nat}

/-- What the entries that are left and those of a chain are converted to. -/
def ahead (convert : Conversion α) (pending : List Entry) (chain : PageChain)
    (versions : VersionStore) : Converted α :=
  convertAll convert (pending ++ chain.entries) versions

/-- The entries that are left and the beginning of a chain say what a number of polls bring. -/
def Settled (convert : Conversion α) (count : Nat) (pending : List Entry) (chain : PageChain)
    (versions : VersionStore) : Prop :=
  chain.next = none ∨ count ≤ (pending ++ chain.entries).length ∨
    (ahead convert pending chain versions).failure? ≠ none

theorem follow_none (pages : Nat) (peer : σ) : PageChain.follow pages none peer = ⟨[], none⟩ := by
  cases pages with
  | zero => rfl
  | succ pages => rfl

theorem follow_ok {pages : Nat} {url : String} {peer : σ} {page : Page}
    (h : answeredPage url (Peer.answer (Request.read url) peer).1 = .ok page) :
    PageChain.follow (pages + 1) (some url) peer =
      (PageChain.follow pages (page.after url) (Peer.answer (Request.read url) peer).2).cons
        ⟨url, .ok page⟩ := by
  rw [PageChain.follow, h]

theorem follow_error {pages : Nat} {url : String} {peer : σ} {failure : Failure}
    (h : answeredPage url (Peer.answer (Request.read url) peer).1 = .error failure) :
    PageChain.follow (pages + 1) (some url) peer = ⟨[⟨url, .error failure⟩], none⟩ := by
  rw [PageChain.follow, h]

theorem convertAll_ok {entry : Entry} {versions : VersionStore} {value : α}
    (h : (convert entry versions).1.outcome = .ok value) (rest : List Entry) :
    convertAll convert (entry :: rest) versions =
      { convertAll convert rest (convert entry versions).2 with
        items := value :: (convertAll convert rest (convert entry versions).2).items
        events := (convert entry versions).1.events
          ++ (convertAll convert rest (convert entry versions).2).events } := by
  rw [convertAll]
  simp only [h]

theorem convertAll_error {entry : Entry} {versions : VersionStore} {failure : Failure}
    (h : (convert entry versions).1.outcome = .error failure) (rest : List Entry) :
    convertAll convert (entry :: rest) versions =
      ⟨[], some failure, (convert entry versions).2, (convert entry versions).1.events⟩ := by
  rw [convertAll]
  simp only [h]

/-- What is settled with an entry in front is settled for one poll less without it. -/
theorem settled_rest {count : Nat} {entry : Entry} {rest : List Entry} {chain : PageChain}
    {versions : VersionStore} {value : α}
    (hvalue : (convert entry versions).1.outcome = .ok value) :
    Settled convert (count + 1) (entry :: rest) chain versions ↔
      Settled convert count rest chain (convert entry versions).2 := by
  unfold Settled ahead
  rw [List.cons_append, convertAll_ok hvalue, List.length_cons, Nat.add_le_add_iff_right]

/-- If no page was followed, nothing is settled. -/
theorem not_settled_zero {count : Nat} {url : String} {peer : σ} {versions : VersionStore} :
    ¬ Settled convert (count + 1) [] (.follow 0 (some url) peer) versions := by
  intro hsettled
  rcases hsettled with hend | hlength | hfailure
  -- the chain goes on at the address, it has no entry yet, and none failed
  · cases hend
  · cases hlength
  · exact hfailure rfl

/-- A failure is an outcome, and so is the end. -/
theorem undecided_not_mem_failed (failure : Failure) (count : Nat) :
    (Poll.undecided : Poll α) ∉ .failed failure :: List.replicate count .ended := by
  intro hmem
  rcases List.mem_cons.mp hmem with hfirst | hmem
  · cases hfirst
  · cases List.eq_of_mem_replicate hmem

/-- A poll that is settled is decided before its patience is spent on pages. -/
theorem decided_of_settled {left count pages : Nat} {pending : List Entry}
    {next : Option String} {link : Link σ} {result : List (Poll α) × Link σ}
    (h : Polling convert patience left count pending next link result)
    (hsettled : Settled convert count pending (.follow pages next link.peer) link.versions)
    (hleft : pages < left) (hpatience : pages < patience) : Poll.undecided ∉ result.1 := by
  induction h generalizing pages with
  | done => exact List.not_mem_nil
  | undecided hundecided =>
    -- no patience was left, but some was promised
    omega
  | @item left count entry rest next link value later hvalue hlater ih =>
    have hrest : Settled convert count rest (.follow pages next link.peer)
        (convert entry link.versions).2 := (settled_rest hvalue).mp hsettled
    have hdecided := ih hrest hpatience hpatience
    intro hmem
    rcases List.mem_cons.mp hmem with hfirst | hmem
    · cases hfirst
    · exact hdecided hmem
  | unconverted hfailure => exact undecided_not_mem_failed _ _
  | exhausted =>
    intro hmem
    cases List.eq_of_mem_replicate hmem
  | missing hfailure => exact undecided_not_mem_failed _ _
  | @fetched left count url link page result hpage hlater ih =>
    -- one page less to follow, and one less of the patience
    cases pages with
    | zero => exact absurd hsettled not_settled_zero
    | succ pages =>
      rw [follow_ok hpage] at hsettled
      exact ih hsettled (by omega) (by omega)

/-- Decided polls are settled by the pages that they had patience for. -/
theorem settled_of_decided {left count pages : Nat} {pending : List Entry}
    {next : Option String} {link : Link σ} {result : List (Poll α) × Link σ}
    (h : Polling convert patience left count pending next link result)
    (hdecided : Poll.undecided ∉ result.1)
    (hpages : left + count * patience ≤ pages + patience) :
    Settled convert count pending (.follow pages next link.peer) link.versions := by
  induction h generalizing pages with
  | done => exact .inr (.inl (Nat.zero_le _))
  | undecided hundecided => exact absurd hundecided hdecided
  | @item left count entry rest next link value later hvalue hlater ih =>
    -- each of the later polls may fetch as many pages as it has patience
    have hlater : Poll.undecided ∉ later.1 := fun hmem => hdecided (List.mem_cons_of_mem _ hmem)
    have hrest : Settled convert count rest (.follow pages next link.peer)
        (convert entry link.versions).2 := ih hlater (by rw [Nat.succ_mul] at hpages; omega)
    exact (settled_rest hvalue).mpr hrest
  | unconverted hfailure =>
    -- the failure settles them, whatever the chain is
    refine .inr (.inr ?_)
    unfold ahead
    rw [List.cons_append, convertAll_error hfailure]
    exact Option.some_ne_none _
  | exhausted =>
    rw [follow_none]
    exact .inl rfl
  | missing hfailure =>
    cases pages with
    | zero => rw [Nat.succ_mul] at hpages; omega
    | succ pages =>
      rw [follow_error hfailure]
      exact .inl rfl
  | @fetched left count url link page result hpage hlater ih =>
    cases pages with
    | zero => rw [Nat.succ_mul] at hpages; omega
    | succ pages =>
      rw [follow_ok hpage]
      exact ih hdecided (by omega)

end settled

/-! ### What polls bring -/

section outcomes
variable {σ α : Type} [Peer σ] {convert : Conversion α} {patience : Nat}

/-- What a number of polls bring, said of the entries that are left and the beginning of a chain:
    the elements of the list and then the end, after as many conversions as there were polls and
    the requests that these need. -/
structure ReadsAs (convert : Conversion α) (count : Nat) (pending : List Entry)
    (chain : PageChain) (link : Link σ) (result : List (Poll α) × Link σ) : Prop where
  outcomes :
    let deliveries := (ahead convert pending chain link.versions).deliveries chain.failure?
    result.1 = deliveries.take count ++ List.replicate (count - deliveries.length) .ended
  link :
    let wanted := (ahead convert pending chain link.versions).wanted count
    result.2 = link.reading (PageChain.needed (wanted - pending.length) chain.visits)
      (convertAll convert ((pending ++ chain.entries).take count) link.versions)

theorem needed_cons {wanted : Nat} (hwanted : 0 < wanted) (visit : Visit) (rest : List Visit) :
    PageChain.needed wanted (visit :: rest) =
      visit :: PageChain.needed (wanted - visit.entries.length) rest := by
  obtain ⟨wanted, rfl⟩ : ∃ n, wanted = n + 1 := ⟨wanted - 1, by omega⟩
  rfl

theorem needed_zero (visits : List Visit) : PageChain.needed 0 visits = [] := by
  rw [PageChain.needed]

theorem needed_nil (wanted : Nat) : PageChain.needed wanted [] = [] := by
  cases wanted with
  | zero => rfl
  | succ wanted => rfl

/-- All pages are needed if more entries are wanted than there are. -/
theorem needed_eq_self {visits : List Visit} {wanted : Nat}
    (h : (visits.flatMap Visit.entries).length < wanted) :
    PageChain.needed wanted visits = visits := by
  induction visits generalizing wanted with
  | nil => exact needed_nil wanted
  | cons visit rest ih =>
    rw [List.flatMap_cons, List.length_append] at h
    rw [needed_cons (by omega), ih (by omega)]

/-- If every entry can be converted, all of them are. -/
theorem convertAll_of_ok {item : Entry → α} {entries : List Entry}
    (h : ∀ entry ∈ entries, ∀ versions, (convert entry versions).1.outcome = .ok (item entry))
    (versions : VersionStore) :
    (convertAll convert entries versions).items = entries.map item ∧
      (convertAll convert entries versions).failure? = none := by
  induction entries generalizing versions with
  | nil => exact ⟨rfl, rfl⟩
  | cons entry rest ih =>
    obtain ⟨hitems, hfailure⟩ := ih (fun other hother => h other (List.mem_cons_of_mem _ hother))
      (convert entry versions).2
    rw [convertAll_ok (h entry List.mem_cons_self versions)]
    exact ⟨by rw [hitems, List.map_cons], hfailure⟩

/-- Nothing is asked for where nothing is wanted. -/
theorem reading_nil (link : Link σ) :
    link.reading [] (⟨[], none, link.versions, []⟩ : Converted α) = link := by
  unfold Link.reading
  simp only [List.map_nil, List.append_nil, List.foldl_nil]

/-- The conversion of the entry at the front comes first. -/
theorem reading_converting (link : Link σ) (entry : Entry) (visits : List Visit)
    (later : Converted α) (items : List β) :
    (link.converting convert entry).reading visits later =
      link.reading visits (⟨items, later.failure?, later.versions,
        (convert entry link.versions).1.events ++ later.events⟩ : Converted β) := by
  unfold Link.reading Link.converting
  simp only [List.append_assoc]

/-- So does the request for the page at the front. -/
theorem reading_sending (link : Link σ) (visit : Visit) (visits : List Visit)
    (converted : Converted α) :
    (link.sending visit.request).reading visits converted =
      link.reading (visit :: visits) converted := by
  unfold Link.reading Link.sending
  simp only [List.map_cons, List.foldl_cons, List.append_assoc, List.singleton_append]

theorem wanted_pos (converted : Converted α) (count : Nat) : 0 < converted.wanted (count + 1) := by
  unfold Converted.wanted
  split <;> omega

/-- Converting the entry at the front and reading on. -/
theorem readsAs_item {count : Nat} {entry : Entry} {rest : List Entry} {chain : PageChain}
    {link : Link σ} {value : α} {later : List (Poll α) × Link σ}
    (hvalue : (convert entry link.versions).1.outcome = .ok value)
    (h : ReadsAs convert count rest chain (link.converting convert entry) later) :
    ReadsAs convert (count + 1) (entry :: rest) chain link (.item value :: later.1, later.2) := by
  have hahead : ahead convert (entry :: rest) chain link.versions = _ :=
    convertAll_ok hvalue (rest ++ chain.entries)
  refine ⟨?_, ?_⟩
  · have houtcomes := h.outcomes
    simp only at houtcomes ⊢
    rw [hahead, houtcomes]
    simp only [Converted.deliveries, List.map_cons, List.cons_append, List.take_succ_cons,
      List.length_cons, Nat.add_sub_add_right]
    rfl
  · have hlink := h.link
    simp only at hlink ⊢
    -- one entry more is wanted, also if a later one cannot be converted
    have hwanted : (ahead convert (entry :: rest) chain link.versions).wanted (count + 1) =
        (ahead convert rest chain (convert entry link.versions).2).wanted count + 1 := by
      rw [hahead]
      unfold Converted.wanted ahead
      simp only [List.length_cons]
      split
      · rfl
      · exact Nat.add_min_add_right _ _ 1
    -- the entry that was wanted is the one at the front, and so the same pages are needed
    rw [hlink, hwanted, List.length_cons, Nat.add_sub_add_right, List.cons_append,
      List.take_succ_cons, convertAll_ok hvalue]
    exact reading_converting link entry _ _ _

/-- Without polls there is nothing. -/
theorem readsAs_done (pending : List Entry) (chain : PageChain) (link : Link σ) :
    ReadsAs convert 0 pending chain link ([], link) := by
  refine ⟨?_, ?_⟩
  · simp only [List.take_zero, Nat.zero_sub, List.replicate_zero, List.append_nil]
  · have hwanted : (ahead convert pending chain link.versions).wanted 0 = 0 := by
      unfold Converted.wanted
      split
      · rfl
      · exact Nat.zero_min _
    simp only [hwanted, Nat.zero_sub, List.take_zero, needed_zero]
    exact (reading_nil link).symm

/-- A failed conversion is the last outcome but the end. -/
theorem readsAs_unconverted {count : Nat} {entry : Entry} {rest : List Entry} {link : Link σ}
    {failure : Failure} (chain : PageChain)
    (hfailure : (convert entry link.versions).1.outcome = .error failure) :
    ReadsAs convert (count + 1) (entry :: rest) chain link
      (.failed failure :: List.replicate count .ended, link.converting convert entry) := by
  have hahead : ahead convert (entry :: rest) chain link.versions = _ :=
    convertAll_error hfailure (rest ++ chain.entries)
  refine ⟨?_, ?_⟩
  · simp only [hahead, Converted.deliveries, List.map_nil, List.nil_append, Option.some_or,
      Option.map_some, Option.toList_some, List.take_succ_cons, List.take_nil,
      List.length_singleton, Nat.add_sub_cancel, List.singleton_append]
  · -- only this entry is wanted, and it was there already: no page is needed
    have hnone : min (count + 1) (0 + 1) - (rest.length + 1) = 0 := by omega
    simp only [hahead, Converted.wanted, List.length_nil, List.length_cons, hnone,
      List.cons_append, List.take_succ_cons, convertAll_error hfailure]
    unfold Link.reading Link.converting
    simp only [needed_zero, List.foldl_nil, List.map_nil, List.append_nil]

/-- After the last page there is only the end. -/
theorem readsAs_exhausted (count : Nat) (link : Link σ) :
    ReadsAs convert count [] ⟨[], none⟩ link (List.replicate count .ended, link) := by
  refine ⟨?_, ?_⟩
  · show List.replicate count Poll.ended
      = List.take count [] ++ List.replicate (count - 0) Poll.ended
    rw [List.take_nil, List.nil_append, Nat.sub_zero]
  · have hentries : ([] ++ PageChain.entries ⟨[], none⟩ : List Entry).take count = [] :=
      List.take_nil
    simp only [hentries, needed_nil]
    exact (reading_nil link).symm

/-- A page that cannot be had is the last outcome but the end. -/
theorem readsAs_missing (count : Nat) (url : String) (failure : Failure) (link : Link σ) :
    ReadsAs convert (count + 1) [] ⟨[⟨url, .error failure⟩], none⟩ link
      (.failed failure :: List.replicate count .ended, link.sending (Request.read url)) := by
  refine ⟨?_, ?_⟩
  · show _ = List.take (count + 1) [Poll.failed failure] ++ List.replicate (count + 1 - 1) .ended
    rw [List.take_succ_cons, List.take_nil, Nat.add_sub_cancel, List.singleton_append]
  · have hentries : ([] ++ PageChain.entries ⟨[⟨url, .error failure⟩], none⟩ : List Entry).take
        (count + 1) = [] := rfl
    simp only [hentries]
    have hwanted : (ahead convert [] ⟨[⟨url, .error failure⟩], none⟩ link.versions).wanted
        (count + 1) = count + 1 := rfl
    rw [hwanted, List.length_nil, Nat.sub_zero, needed_cons (Nat.succ_pos count), needed_nil,
      ← reading_sending link ⟨url, .error failure⟩]
    exact (reading_nil _).symm

/-- A page at the front is asked for, and its entries are then left. -/
theorem readsAs_fetched {count : Nat} {url : String} {page : Page} {chain : PageChain}
    {link : Link σ} {result : List (Poll α) × Link σ}
    (h : ReadsAs convert (count + 1) page.entries chain (link.sending (Request.read url)) result) :
    ReadsAs convert (count + 1) [] (chain.cons ⟨url, .ok page⟩) link result := by
  refine ⟨h.outcomes, ?_⟩
  have hlink := h.link
  simp only at hlink ⊢
  have hvisits : PageChain.needed
      ((ahead convert [] (chain.cons ⟨url, .ok page⟩) link.versions).wanted (count + 1) - 0)
        (⟨url, .ok page⟩ :: chain.visits) = _ :=
    needed_cons (wanted_pos _ count) _ _
  show _ = link.reading (PageChain.needed _ (⟨url, .ok page⟩ :: chain.visits)) _
  rw [List.length_nil, hvisits, ← reading_sending link ⟨url, .ok page⟩, hlink]
  rfl

/-- Polls that are settled and decided bring what the chain says. -/
theorem readsAs_of_polling {left count pages : Nat} {pending : List Entry}
    {next : Option String} {link : Link σ} {result : List (Poll α) × Link σ}
    (h : Polling convert patience left count pending next link result)
    (hsettled : Settled convert count pending (.follow pages next link.peer) link.versions)
    (hdecided : Poll.undecided ∉ result.1) :
    ReadsAs convert count pending (.follow pages next link.peer) link result := by
  induction h generalizing pages with
  | @done left pending next link => exact readsAs_done pending _ link
  | undecided hundecided => exact absurd hundecided hdecided
  | @item left count entry rest next link value later hvalue hlater ih =>
    have hrest : Settled convert count rest (.follow pages next link.peer)
        (convert entry link.versions).2 := (settled_rest hvalue).mp hsettled
    exact readsAs_item hvalue (ih hrest fun hmem => hdecided (List.mem_cons_of_mem _ hmem))
  | @unconverted left count entry rest next link failure hfailure =>
    exact readsAs_unconverted _ hfailure
  | @exhausted left count link =>
    rw [follow_none]
    exact readsAs_exhausted (count + 1) link
  | @missing left count url link failure hfailure =>
    cases pages with
    | zero => exact absurd hsettled not_settled_zero
    | succ pages =>
      rw [follow_error hfailure]
      exact readsAs_missing count url failure link
  | @fetched left count url link page result hpage hlater ih =>
    cases pages with
    | zero => exact absurd hsettled not_settled_zero
    | succ pages =>
      rw [follow_ok hpage] at hsettled ⊢
      exact readsAs_fetched (ih hsettled hdecided)

/-- If the chain ends, no page is missing and every entry can be converted, then more polls than
    there are entries bring all items and the end, and every page is asked for. -/
theorem polls_read_all {item : Entry → α} {visits : List Visit} {pages count : Nat}
    {url : String} {link : Link σ}
    (hchain : PageChain.follow pages (some url) link.peer = ⟨visits, none⟩)
    (hfailure : visits.findSome? Visit.failure? = none)
    (hconvert : ∀ entry ∈ visits.flatMap Visit.entries, ∀ versions,
      (convert entry versions).1.outcome = .ok (item entry))
    (hcount : (visits.flatMap Visit.entries).length < count) (hpatience : pages < patience) :
    (polls convert patience count (.start url) link).1 =
      (visits.flatMap Visit.entries).map (fun entry => .item (item entry)) ++
        List.replicate (count - (visits.flatMap Visit.entries).length) .ended ∧
    (polls convert patience count (.start url) link).2.2.sent =
      link.sent ++ visits.map Visit.request := by
  obtain ⟨hitems, hconverted⟩ := convertAll_of_ok hconvert link.versions
  -- the chain ends after these pages, and so they settle any number of polls
  have hpolling := polling_of_polls convert patience count [] (some url) link
  have hsettled : Settled convert count [] (.follow pages (some url) link.peer)
      link.versions := by
    rw [hchain]
    exact .inl rfl
  have hdecided := decided_of_settled hpolling hsettled hpatience hpatience
  obtain ⟨houtcomes, hlink⟩ := readsAs_of_polling hpolling hsettled hdecided
  rw [hchain] at houtcomes hlink
  have hahead : ahead convert [] ⟨visits, none⟩ link.versions =
      convertAll convert (visits.flatMap Visit.entries) link.versions := rfl
  have hdeliveries : (convertAll convert (visits.flatMap Visit.entries)
      link.versions).deliveries (PageChain.failure? ⟨visits, none⟩) =
        (visits.flatMap Visit.entries).map fun entry => .item (item entry) := by
    unfold Converted.deliveries PageChain.failure?
    rw [hitems, hconverted, hfailure, List.map_map]
    exact List.append_nil _
  have hwanted : (convertAll convert (visits.flatMap Visit.entries)
      link.versions).wanted count = count := by
    unfold Converted.wanted
    rw [hconverted]
  refine ⟨?_, ?_⟩
  · simp only [hahead, hdeliveries] at houtcomes
    have hall : ((visits.flatMap Visit.entries).map fun entry =>
        Poll.item (item entry)).length ≤ count := by
      rw [List.length_map]
      exact Nat.le_of_lt hcount
    rw [List.take_of_length_le hall, List.length_map] at houtcomes
    exact houtcomes
  · simp only [hahead, hwanted, List.length_nil, Nat.sub_zero] at hlink
    rw [needed_eq_self hcount] at hlink
    exact congrArg Link.sent hlink

/-- **A stream is a lazy reading of the chain of pages that ends once**: a number of polls from an
    address on is decided if and only if, given patience, some beginning of the chain settles it.
    What it brings then is that many elements of the list of items and the first failure, and after
    these the end.  In the link there are the conversions of that many entries, and the requests
    for the pages that they need. -/
theorem polls_read_page_chain (convert : Conversion α) (patience count : Nat) (url : String)
    (link : Link σ) :
    (.undecided ∉ (polls convert patience count (.start url) link).1 →
      ∃ pages, Settled convert count [] (.follow pages (some url) link.peer) link.versions) ∧
    ∀ pages, Settled convert count [] (.follow pages (some url) link.peer) link.versions →
      (pages < patience → .undecided ∉ (polls convert patience count (.start url) link).1) ∧
      (.undecided ∉ (polls convert patience count (.start url) link).1 →
        let chain := PageChain.follow pages (some url) link.peer
        let converted := convertAll convert chain.entries link.versions
        let deliveries := converted.deliveries chain.failure?
        (polls convert patience count (.start url) link).1 =
          deliveries.take count ++ List.replicate (count - deliveries.length) .ended ∧
        (polls convert patience count (.start url) link).2.2 =
          link.reading (PageChain.needed (converted.wanted count) chain.visits)
            (convertAll convert (chain.entries.take count) link.versions)) := by
  have h := polling_of_polls convert patience count [] (some url) link
  refine ⟨?_, ?_⟩
  · intro hdecided
    -- no poll fetches more pages than it has patience
    exact ⟨patience + count * patience, settled_of_decided h hdecided (by omega)⟩
  · intro pages hsettled
    refine ⟨?_, ?_⟩
    · intro hpages
      exact decided_of_settled h hsettled hpages hpages
    · intro hdecided
      have hreads := readsAs_of_polling h hsettled hdecided
      exact ⟨hreads.outcomes, hreads.link⟩

end outcomes

end Cursor

end ResourceFeed
