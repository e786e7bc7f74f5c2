import ResourceFeed.Proofs.Client.Plans
import ResourceFeed.Proofs.Client.SharedVersions
import ResourceFeed.Proofs.Client.Streaming
import ResourceFeed.Proofs.Feed.Codec

/-! # All ways of reading a resource agree

    A resource is read on its own, as the first one of a feed, or somewhere on
    a page that is streamed.  Each of these ways cuts the entry out of the
    document by itself, and takes it in by itself.  But the entry is the same,
    and what comes of it depends on the entry alone: so does the outcome, and
    so does what is noted in the version store if the entry has a version.

    A resource that is read on its own, or first of a feed, may get its
    version from a header.  That does not change what it is materialized as,
    and a version of its own goes before the one in the header.
-/

namespace ResourceFeed

variable {σ : Type}

/-! ### What comes of an entry -/

section entry
variable {type : EntityType} {entry : Entry}

/-- What comes of an entry is what it is materialized as. -/
theorem Client.outcome_concludeEntry (client : Client) :
    (client.concludeEntry type entry).outcome = materialize client.resolver type entry := by
  unfold concludeEntry Conclusion.ofExcept
  cases materialize client.resolver type entry with
  | error failure => rfl
  | ok tracked => rfl

theorem Client.note?_concludeEntry (client : Client) :
    (client.concludeEntry type entry).note? = entryNote? client.resolver type entry := by
  unfold concludeEntry entryNote? Conclusion.ofExcept
  cases materialize client.resolver type entry with
  | error failure => rfl
  | ok tracked => rfl

/-- A version that is there already is not replaced. -/
theorem Entry.withVersion_of_isSome (hversion : entry.version.isSome = true)
    (header : Option String) : { entry with version := entry.version.or header } = entry := by
  obtain ⟨version, hversion⟩ := Option.isSome_iff_exists.mp hversion
  rw [hversion]
  cases entry
  cases hversion
  rfl

end entry

/-! ### Reading one resource -/

/-- The first resource of a feed is the one that is read, and any other object is a resource. -/
def Json.HoldsFirst (resource : Members Json) : Json → Prop
  | .object members =>
    members = resource ∨
      ∃ rest, Members.get? "$resources" members = some (.array (.object resource :: rest))
  | _ => False

section single
variable [Peer σ] {client : Client} {type : EntityType} {id url : String} {link : Link σ}
  {response : Response} {entry : Entry} {resource : Members Json}

/-- A successful answer is read as the entry in it. -/
theorem Client.runOn_get_of_entry (haddress : client.site.singleUrl type.kind id = .ok url)
    (hanswer : (Peer.answer (Request.read url) link.peer).1 = .ok response)
    (hsuccess : response.isSuccess = true) (hentry : Entry.decode response.body = .ok entry) :
    (client.get type id).runOn link = (link.sending (Request.read url)).concluding
      (client.concludeEntry type { entry with version := entry.version.or response.etag }) := by
  have haccepted : response.accepted = .ok response := by
    rw [Response.accepted, if_pos hsuccess]
  have hconclusion : (client.getTask type url).conclude
      (Peer.answer (Request.read url) link.peer).1 =
        client.concludeEntry type { entry with version := entry.version.or response.etag } := by
    rw [hanswer]
    simp only [getTask, Conclusion.ofExcept, haccepted, hentry]
  rw [client.runOn_get, getPlan, haddress, ← hconclusion]
  rfl

/-- What comes of reading one resource is what comes of its entry. -/
theorem Client.get_of_entry (haddress : client.site.singleUrl type.kind id = .ok url)
    (hanswer : (Peer.answer (Request.read url) link.peer).1 = .ok response)
    (hsuccess : response.isSuccess = true) (hentry : Entry.decode response.body = .ok entry) :
    ((client.get type id).runOn link).1 = materialize client.resolver type entry ∧
      (entry.version.isSome = true → ((client.get type id).runOn link).2.versions =
        link.versions.noting (entryNote? client.resolver type entry)) := by
  rw [runOn_get_of_entry haddress hanswer hsuccess hentry]
  refine ⟨client.outcome_concludeEntry, ?_⟩
  intro hversion
  rw [Entry.withVersion_of_isSome hversion]
  exact congrArg (VersionStore.noting link.versions) client.note?_concludeEntry

/-- The entry is the same, whether the body is the resource or a feed with it. -/
theorem Entry.decode_of_holdsFirst (hresources : Members.get? "$resources" resource = none)
    {json : Json} (hholds : json.HoldsFirst resource) {body : Text.Bytes}
    (hbody : document body = .ok json) :
    Entry.decode body = .ok (Entry.ofMembers resource) := by
  cases json with
  | object members =>
    rw [decode_of_object hbody]
    rcases hholds with rfl | ⟨rest, hfeed⟩
    · rw [hresources]
      rfl
    · rw [hfeed]
      rfl
  | _ => cases hholds

end single

/-! ### Streaming a page -/

namespace Cursor

variable {α : Type} [Peer σ] {convert : Conversion α} {patience : Nat}

/-- What a poll brings for an outcome. -/
def Poll.ofExcept : Except Failure α → Poll α
  | .ok value => .item value
  | .error failure => .failed failure

/-- A poll of a cursor with a pending entry converts it. -/
theorem poll_pending (hpatience : 0 < patience) (entry : Entry) (rest : List Entry)
    (next : Option String) (link : Link σ) :
    poll convert ⟨entry :: rest, next, false⟩ link patience =
      (Poll.ofExcept (convert entry link.versions).1.outcome,
        match (convert entry link.versions).1.outcome with
        | .ok _ => ⟨rest, next, false⟩
        | .error _ => finished,
        link.converting convert entry) := by
  obtain ⟨patience, rfl⟩ : ∃ n, patience = n + 1 := ⟨patience - 1, by omega⟩
  unfold poll
  rw [step_entry]
  cases (convert entry link.versions).1.outcome with
  | ok value => rfl
  | error failure => rfl

/-- One more poll comes after the others. -/
theorem polls_succ (count : Nat) (cursor : Cursor) (link : Link σ) :
    let before := polls convert patience count cursor link
    polls convert patience (count + 1) cursor link =
      (before.1 ++ [(poll convert before.2.1 before.2.2 patience).1],
        (poll convert before.2.1 before.2.2 patience).2) := by
  induction count generalizing cursor link with
  | zero => rfl
  | succ count ih =>
    have hfirst := fun later => polls_eq_cons convert patience later cursor link
    rw [hfirst, hfirst, ih]
    rfl

/-- The entries at the front of a page are polled one after the other if they can be converted. -/
theorem polls_front (hpatience : 0 < patience) {front : List Entry}
    (hfront : ∀ entry ∈ front, ∀ versions, ∃ value,
      (convert entry versions).1.outcome = .ok value)
    (rest : List Entry) (next : Option String) (link : Link σ) :
    ∃ (items : List α) (left : Link σ), items.length = front.length ∧
      polls convert patience front.length ⟨front ++ rest, next, false⟩ link =
        (items.map .item, ⟨rest, next, false⟩, left) := by
  induction front generalizing link with
  | nil => exact ⟨[], link, rfl, rfl⟩
  | cons entry others ih =>
    obtain ⟨hentry, hothers⟩ := List.forall_mem_cons.mp hfront
    obtain ⟨value, hvalue⟩ := hentry link.versions
    obtain ⟨items, left, hitems, hlater⟩ := ih hothers (link.converting convert entry)
    refine ⟨value :: items, left, congrArg (· + 1) hitems, ?_⟩
    rw [List.length_cons, polls_eq_cons, List.cons_append, poll_pending hpatience, hvalue]
    simp only
    rw [hlater]
    rfl

/-- Polls from before a page with entries fetch the page, and go on as polls on the page. -/
theorem polls_start (hpatience : 1 < patience) {url : String} {page : Page} {link : Link σ}
    (hpage : answeredPage url (Peer.answer (Request.read url) link.peer).1 = .ok page)
    {first : Entry} {rest : List Entry} (hentries : page.entries = first :: rest) (count : Nat) :
    polls convert patience (count + 1) (.start url) link =
      polls convert patience (count + 1) ⟨first :: rest, page.after url, false⟩
        (link.sending (Request.read url)) := by
  obtain ⟨less, rfl⟩ : ∃ n, patience = n + 1 := ⟨patience - 1, by omega⟩
  have hpoll : poll convert (.start url) link (less + 1) =
      poll convert ⟨first :: rest, page.after url, false⟩ (link.sending (Request.read url))
        (less + 1) := by
    have hcursor : onPage url page = ⟨first :: rest, page.after url, false⟩ := by
      rw [onPage, hentries]
      rfl
    -- one step is spent on the page, and one that is left is enough for the entry
    rw [poll, start, step_fetch, hpage]
    simp only
    rw [hcursor, poll_pending (by omega), poll_pending (by omega)]
  rw [polls_eq_cons, hpoll]
  rfl

/-- An entry of a page is polled after those before it, and what comes of it is what it is
    materialized as. -/
theorem polls_to_entry (hpatience : 1 < patience) {resolver : Resolver} {type : EntityType}
    {url : String} {page : Page} {link : Link σ}
    (hpage : answeredPage url (Peer.answer (Request.read url) link.peer).1 = .ok page)
    {place : Nat} {entry : Entry} (hentry : page.entries[place]? = some entry)
    (hfront : ∀ earlier ∈ page.entries.take place,
      ∃ tracked, materialize resolver type earlier = .ok tracked) :
    ∃ items : List Tracked, items.length = place ∧
      (polls (.entity resolver type) patience (place + 1) (.start url) link).1 =
        items.map .item ++ [Poll.ofExcept (materialize resolver type entry)] ∧
      (polls (.entity resolver type) patience (place + 1) (.start url) link).2.2.versions =
        (polls (.entity resolver type) patience place (.start url) link).2.2.versions.noting
          (entryNote? resolver type entry) := by
  obtain ⟨hplace, hget⟩ := List.getElem?_eq_some_iff.mp hentry
  obtain ⟨back, hsplit⟩ : ∃ back, page.entries = page.entries.take place ++ entry :: back := by
    refine ⟨page.entries.drop (place + 1), ?_⟩
    rw [← hget, ← List.drop_eq_getElem_cons hplace, List.take_append_drop]
  have hlength : (page.entries.take place).length = place := by
    rw [List.length_take]
    omega
  obtain ⟨first, rest, hentries⟩ : ∃ first rest, page.entries = first :: rest :=
    List.exists_cons_of_ne_nil fun hempty => by simp [hempty] at hplace
  have hconverted : ∀ earlier ∈ page.entries.take place, ∀ versions, ∃ tracked,
      (Conversion.entity resolver type earlier versions).1.outcome = .ok tracked := by
    intro earlier hmem versions
    obtain ⟨tracked, htracked⟩ := hfront earlier hmem
    exact ⟨tracked, by rw [Conversion.entity_fst, htracked]; rfl⟩
  have hpositive : 0 < patience := by omega
  obtain ⟨items, left, hcount, hitems⟩ := polls_front hpositive hconverted (entry :: back)
    (page.after url) (link.sending (Request.read url))
  rw [hlength, ← hsplit, hentries] at hitems
  rw [hlength] at hcount
  have houtcome : (Conversion.entity resolver type entry left.versions).1.outcome =
      materialize resolver type entry := by
    rw [Conversion.entity_fst]
    rfl
  have hall : polls (.entity resolver type) patience (place + 1) (.start url) link =
      (items.map .item ++ [(poll (.entity resolver type) ⟨entry :: back, page.after url, false⟩
          left patience).1],
        (poll (.entity resolver type) ⟨entry :: back, page.after url, false⟩ left patience).2) := by
    rw [polls_start hpatience hpage hentries, polls_succ, hitems]
  -- before the first entry nothing has happened to the versions yet
  have hversions : (polls (.entity resolver type) patience place (.start url) link).2.2.versions =
      left.versions := by
    cases place with
    | zero =>
      have hleft : link.sending (Request.read url) = left :=
        congrArg (fun result => result.2.2) hitems
      rw [← hleft]
      rfl
    | succ place => rw [polls_start hpatience hpage hentries, hitems]
  rw [poll_pending hpositive, houtcome] at hall
  refine ⟨items, hcount, ?_, ?_⟩
  · rw [hall]
  · rw [hall, hversions]
    exact Conversion.entity_snd resolver type entry left.versions

end Cursor

/-! ### Entries of a page -/

/-- Reading a list gives something for each of its elements, in order. -/
theorem getElem?_of_mapM {α β : Type} {f : α → Except Failure β} {items : List α}
    {read : List β} (hread : items.mapM f = .ok read) {place : Nat} {item : α}
    (hitem : items[place]? = some item) : ∃ value, f item = .ok value ∧ read[place]? = some value := by
  induction items generalizing place read with
  | nil => cases hitem
  | cons first rest ih =>
    rw [List.mapM_cons] at hread
    obtain ⟨value, hvalue, hread⟩ := bind_eq_ok.mp hread
    obtain ⟨values, hvalues, hread⟩ := bind_eq_ok.mp hread
    cases hread
    cases place with
    | zero =>
      cases hitem
      exact ⟨value, hvalue, rfl⟩
    | succ place => exact ih hvalues hitem

/-- A resource of a page is an entry at the same place. -/
theorem getElem?_entries {body : Text.Bytes} {url : String} {page : Page} {members : Members Json}
    {items : List Json} (hdecode : Page.decode body url = .ok page)
    (hbody : document body = .ok (.object members))
    (hitems : Members.get? "$resources" members = some (.array items)) {place : Nat}
    {resource : Members Json} (hplace : items[place]? = some (.object resource)) :
    page.entries[place]? = some (Entry.ofMembers resource) := by
  have hentries : Page.entriesOfMembers members = items.mapM entryOfJson := by
    rw [Page.entriesOfMembers, hitems]
  rw [Page.decode, hbody] at hdecode
  obtain ⟨entries, hread, hpage⟩ := bind_eq_ok.mp (show (Page.entriesOfMembers members >>= _) = _
    from hdecode)
  cases hpage
  rw [hentries] at hread
  obtain ⟨entry, hentry, hget⟩ := getElem?_of_mapM hread hplace
  cases hentry
  exact hget

/-! ### Main statement -/

/-- The resource has a version of its own. -/
def HasVersion (resource : Members Json) : Prop :=
  ∃ raw, Members.get? "$etag" resource = some raw ∧ raw.isNull = false

theorem isSome_version {resource : Members Json} (hversion : HasVersion resource) :
    (Entry.ofMembers resource).version.isSome = true := by
  obtain ⟨raw, hraw, hnull⟩ := hversion
  show ((Members.get? "$etag" resource).bind Entry.scalarText?).isSome = true
  rw [hraw]
  cases raw with
  | null => cases hnull
  | _ => rfl

/-- **All ways of reading a resource agree.**  Take an object that is a resource and no feed.

    It may be read with a successful answer whose body is the object itself, or a feed whose first
    resource it is.  It may be read from a page that can be decoded and has it at any place, after
    entries that can be materialized.  The outcome is the same each time: the same failure, or the
    same entity with the same key and the same snapshot.

    Reading it from a page always has the same effect on the version store.  Reading it in the
    other two ways has this effect, too, if it has a version of its own, whatever version the header
    of the answer gives. -/
theorem read_paths_agree [Peer σ] (client : Client) (type : EntityType) {resource : Members Json}
    (hresources : Members.get? "$resources" resource = none) :
    let outcome := materialize client.resolver type (Entry.ofMembers resource)
    let noted (versions : VersionStore) : VersionStore :=
      versions.noting (entryNote? client.resolver type (Entry.ofMembers resource))
    (∀ (id url : String) (link : Link σ) (response : Response) (json : Json),
      client.site.singleUrl type.kind id = .ok url →
      (Peer.answer (Request.read url) link.peer).1 = .ok response → response.isSuccess = true →
      document response.body = .ok json → json.HoldsFirst resource →
        ((client.get type id).runOn link).1 = outcome ∧
        (HasVersion resource →
          ((client.get type id).runOn link).2.versions = noted link.versions)) ∧
    ∀ (url : String) (link : Link σ) (response : Response) (members : Members Json)
      (items : List Json) (page : Page) (place patience : Nat),
      (Peer.answer (Request.read url) link.peer).1 = .ok response → response.isSuccess = true →
      document response.body = .ok (.object members) →
      Members.get? "$resources" members = some (.array items) →
      Page.decode response.body url = .ok page → items[place]? = some (.object resource) →
      (∀ earlier ∈ page.entries.take place,
        ∃ tracked, materialize client.resolver type earlier = .ok tracked) →
      1 < patience →
        let polls := Cursor.polls (.entity client.resolver type) patience
        (∃ earlier : List Tracked, earlier.length = place ∧
          (polls (place + 1) (.start url) link).1 =
            earlier.map .item ++ [Cursor.Poll.ofExcept outcome]) ∧
        (polls (place + 1) (.start url) link).2.2.versions =
          noted (polls place (.start url) link).2.2.versions := by
  intro outcome noted
  refine ⟨?_, ?_⟩
  · intro id url link response json haddress hanswer hsuccess hbody hholds
    have hentry := Entry.decode_of_holdsFirst hresources hholds hbody
    obtain ⟨houtcome, hversions⟩ := Client.get_of_entry haddress hanswer hsuccess hentry
    exact ⟨houtcome, fun hversion => hversions (isSome_version hversion)⟩
  · intro url link response members items page place patience hanswer hsuccess hbody hitems
      hdecode hplace hfront hpatience
    have hpage : answeredPage url (Peer.answer (Request.read url) link.peer).1 = .ok page := by
      rw [hanswer, answeredPage_of_success hsuccess]
      exact hdecode
    obtain ⟨earlier, hlength, houtcomes, hversions⟩ :=
      Cursor.polls_to_entry hpatience hpage (getElem?_entries hdecode hbody hitems hplace) hfront
    exact ⟨⟨earlier, hlength, houtcomes⟩, hversions⟩

namespace Shelf

open SharedVersions.Counter (client contact tom)

/-- A server that answers every request with one document, under a version that nobody needs. -/
structure Server where
  document : Json

instance : Peer Server where
  answer _ server := (.ok ⟨200, some "h1", Text.toBytes server.document.render⟩, server)

/-- A link on which nothing has happened. -/
def link (document : Json) : Link Server :=
  ⟨.empty none, ⟨document⟩, [], []⟩

/-- The contact as a resource. -/
def resource : Members Json :=
  [("$etag", .text "v9"), ("$key", .text "C1"), ("FirstName", .text "Tom")]

/-- Another contact, which has no version. -/
def other : Members Json :=
  [("$key", .text "C2"), ("FirstName", .text "Ann")]

/-- A feed of two contacts. -/
def feed (first second : Members Json) : Json :=
  .object [("$resources", .array [.object first, .object second])]

theorem get?_resources (items : Json) :
    Members.get? "$resources" [("$resources", items)] = some items := by
  rw [Members.get?, if_pos rfl]

theorem materialize_resource :
    materialize client.resolver contact (Entry.ofMembers resource) = .ok tom := rfl

theorem note_resource :
    entryNote? client.resolver contact (Entry.ofMembers resource) =
      some (.recorded ⟨"Contact", "C1"⟩ "v9") := by
  rw [entryNote?, materialize_resource]
  rfl

theorem wellFormed_resource (depth : Nat) :
    (Json.object resource).WellFormed Json.FloatReadsBack (depth + 1) := by
  have hordered : Members.Ordered resource := by
    unfold Members.Ordered resource
    decide
  exact ⟨hordered, trivial, trivial, trivial, trivial⟩

theorem wellFormed_other (depth : Nat) :
    (Json.object other).WellFormed Json.FloatReadsBack (depth + 1) := by
  have hordered : Members.Ordered other := by
    unfold Members.Ordered other
    decide
  exact ⟨hordered, trivial, trivial, trivial⟩

theorem wellFormed_feed {first second : Members Json}
    (hfirst : ∀ depth, (Json.object first).WellFormed Json.FloatReadsBack (depth + 1))
    (hsecond : ∀ depth, (Json.object second).WellFormed Json.FloatReadsBack (depth + 1)) :
    (feed first second).WellFormed Json.FloatReadsBack Json.depthLimit :=
  ⟨List.pairwise_singleton _ _, ⟨⟨hfirst 124, hsecond 124, trivial⟩, trivial⟩⟩

/-- The contact is read by itself. -/
def read (document : Json) : Except Failure Tracked × Link Server :=
  (client.get contact "C1").runOn (link document)

/-- Contacts are streamed. -/
def streamed (document : Json) (count : Nat) : List (Cursor.Poll Tracked) × Cursor × Link Server :=
  Cursor.polls (.entity client.resolver contact) 2 count (.start "https://x/sdata/-/contacts")
    (link document)

/-- The contact is the same read by itself, from a feed, and from a page behind another one, and so
    is its version in the store. -/
theorem contact_is_read_everywhere :
    ((read (.object resource)).1 = .ok tom ∧
      (read (.object resource)).2.versions =
        (VersionStore.empty none).insert ⟨"Contact", "C1"⟩ "v9") ∧
    ((read (feed resource other)).1 = .ok tom ∧
      (read (feed resource other)).2.versions =
        (VersionStore.empty none).insert ⟨"Contact", "C1"⟩ "v9") ∧
    (∃ earlier : List Tracked, earlier.length = 1 ∧
      (streamed (feed other resource) 2).1 = earlier.map .item ++ [.item tom]) ∧
    (streamed (feed other resource) 2).2.2.versions =
      (streamed (feed other resource) 1).2.2.versions.insert ⟨"Contact", "C1"⟩ "v9" := by
  have hresources : Members.get? "$resources" resource = none := rfl
  obtain ⟨hsingle, hpage⟩ := @read_paths_agree Server _ client contact _ hresources
  have hversion : HasVersion resource := ⟨.text "v9", rfl, rfl⟩
  have haddress : client.site.singleUrl contact.kind "C1" =
      .ok "https://x/sdata/-/contacts('C1')" := rfl
  have hanswer (url : String) (document : Json) :
      (Peer.answer (Request.read url) (link document).peer).1 =
        .ok ⟨200, some "h1", Text.toBytes document.render⟩ := rfl
  have hread (document : Json)
      (hdocument : ResourceFeed.document (Text.toBytes document.render) = .ok document)
      (hholds : document.HoldsFirst resource) :
      (read document).1 = .ok tom ∧ (read document).2.versions =
        (VersionStore.empty none).insert ⟨"Contact", "C1"⟩ "v9" := by
    obtain ⟨houtcome, hversions⟩ :=
      hsingle "C1" _ (link document) _ document haddress (hanswer _ document) rfl hdocument hholds
    rw [read, houtcome, hversions hversion, note_resource]
    exact ⟨materialize_resource, rfl⟩
  have halone := document_of_wellFormed (wellFormed_resource 126)
  have hfirst := document_of_wellFormed (wellFormed_feed wellFormed_resource wellFormed_other)
  have hsecond := document_of_wellFormed (wellFormed_feed wellFormed_other wellFormed_resource)
  have hdecode : Page.decode (Text.toBytes (feed other resource).render)
      "https://x/sdata/-/contacts" =
        .ok ⟨[Entry.ofMembers other, Entry.ofMembers resource], none, none⟩ := by
    rw [Page.decode, hsecond]
    rfl
  have hother : ∀ earlier ∈ [Entry.ofMembers other],
      ∃ tracked, materialize client.resolver contact earlier = .ok tracked :=
    List.forall_mem_singleton.mpr ⟨_, rfl⟩
  obtain ⟨hpolls, hversions⟩ := hpage _ (link (feed other resource)) _ _ _ _ 1 2
    (hanswer "https://x/sdata/-/contacts" _) rfl hsecond (get?_resources _) hdecode rfl hother
    (by decide)
  rw [materialize_resource] at hpolls
  rw [note_resource] at hversions
  exact ⟨hread _ halone (.inl rfl), hread _ hfirst (.inr ⟨_, get?_resources _⟩), hpolls, hversions⟩

end Shelf

end ResourceFeed
