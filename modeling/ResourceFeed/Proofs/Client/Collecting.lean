import Mathlib.Data.List.Nodup
import Mathlib.Data.List.Perm.Subperm
import Mathlib.Logic.Relation
import ResourceFeed.Proofs.Client.Streaming
import ResourceFeed.Proofs.Feed.Continuation

/-! # When reading a feed to its end comes to an end

    A server that always answers an address with the same page gives every
    address at most one that it leads to.  From an address on the chain of
    pages either comes to an end or comes back to where it was.  A cursor
    keeps no account of the pages it has seen: it only takes a page that names
    itself as the last one.

    So a feed of finitely many pages is read to its end, with each page asked
    for at most once, unless the chain comes back.  If it does, reading goes on
    for ever.
-/

namespace ResourceFeed

open Relation (ReflTransGen TransGen)

namespace PageChain

/-! ### Servers that do not change -/

/-- Whether a server always answers an address with the same page or failure. -/
def Steady (σ : Type) [Peer σ] (pages : String → Except Failure Page) : Prop :=
  ∀ url (peer : σ), answeredPage url (Peer.answer (Request.read url) peer).1 = pages url

/-- Whether the page at an address is followed by the one at another address. -/
def Leads (pages : String → Except Failure Page) (url next : String) : Prop :=
  ∃ page, pages url = .ok page ∧ page.after url = some next

/-- Whether the chain from an address on comes to some address again. -/
def ComesBack (pages : String → Except Failure Page) (url : String) : Prop :=
  ∃ again, ReflTransGen (Leads pages) url again ∧ TransGen (Leads pages) again again

theorem ComesBack.of_leads {pages : String → Except Failure Page} {url next : String}
    (hleads : Leads pages url next) (hback : ComesBack pages next) : ComesBack pages url := by
  obtain ⟨again, hreach, hcycle⟩ := hback
  exact ⟨again, .head hleads hreach, hcycle⟩

/-- The beginning of the chain from an address on, for a number of pages at most. -/
inductive Route (pages : String → Except Failure Page) : Nat → String → PageChain → Prop where
  | start {url} : Route pages 0 url ⟨[], some url⟩
  /-- There is no page at the address. -/
  | missing {count url failure} (hpage : pages url = .error failure) :
      Route pages (count + 1) url ⟨[⟨url, .error failure⟩], none⟩
  /-- The page at the address leads nowhere. -/
  | last {count url page} (hpage : pages url = .ok page) (hafter : page.after url = none) :
      Route pages (count + 1) url ⟨[⟨url, .ok page⟩], none⟩
  /-- It leads to another address. -/
  | onward {count url page next chain} (hpage : pages url = .ok page)
      (hafter : page.after url = some next) (hrest : Route pages count next chain) :
      Route pages (count + 1) url (chain.cons ⟨url, .ok page⟩)

/-- From a steady server every beginning of the chain is such a route. -/
theorem route_follow {σ : Type} [Peer σ] {pages : String → Except Failure Page}
    (hsteady : Steady σ pages) (count : Nat) (url : String) (peer : σ) :
    Route pages count url (follow count (some url) peer) := by
  induction count generalizing url peer with
  | zero => exact .start
  | succ count ih =>
    cases hpage : pages url with
    | error failure =>
      rw [Cursor.follow_error ((hsteady url peer).trans hpage)]
      exact .missing hpage
    | ok page =>
      rw [Cursor.follow_ok ((hsteady url peer).trans hpage)]
      cases hafter : page.after url with
      | none =>
        rw [Cursor.follow_none]
        exact .last hpage hafter
      | some next => exact .onward hpage hafter (ih next _)

namespace Route

variable {pages : String → Except Failure Page} {count : Nat} {url : String} {chain : PageChain}

/-- A route visits what its first address leads to, and finds the pages that are there. -/
theorem reach_of_mem (hroute : Route pages count url chain) {visit : Visit}
    (hvisit : visit ∈ chain.visits) :
    ReflTransGen (Leads pages) url visit.url ∧ visit.page = pages visit.url := by
  induction hroute with
  | start => cases hvisit
  | missing hpage =>
    obtain rfl := List.mem_singleton.mp hvisit
    exact ⟨.refl, hpage.symm⟩
  | last hpage hafter =>
    obtain rfl := List.mem_singleton.mp hvisit
    exact ⟨.refl, hpage.symm⟩
  | onward hpage hafter hrest ih =>
    rcases List.mem_cons.mp hvisit with rfl | hvisit
    · exact ⟨.refl, hpage.symm⟩
    · obtain ⟨hreach, hfound⟩ := ih hvisit
      exact ⟨.head ⟨_, hpage, hafter⟩ hreach, hfound⟩

/-- A route that does not come back visits no address twice. -/
theorem nodup (hroute : Route pages count url chain) (hends : ¬ ComesBack pages url) :
    (chain.visits.map Visit.url).Nodup := by
  induction hroute with
  | start => exact List.nodup_nil
  | missing hpage => exact List.nodup_singleton _
  | last hpage hafter => exact List.nodup_singleton _
  | @onward count url page next chain hpage hafter hrest ih =>
    have hleads : Leads pages url next := ⟨page, hpage, hafter⟩
    have hlater : ¬ ComesBack pages next := by
      intro hback
      exact hends (hback.of_leads hleads)
    refine List.nodup_cons.mpr ⟨?_, ih hlater⟩
    -- a later visit to this address would close a cycle
    intro hagain
    obtain ⟨visit, hvisit, hsame⟩ := List.mem_map.mp hagain
    have hreach := (hrest.reach_of_mem hvisit).1
    rw [hsame] at hreach
    exact hends ⟨url, .refl, .head' hleads hreach⟩

/-- A route that goes on has found a page at each address. -/
theorem all_found (hroute : Route pages count url chain) (hnext : chain.next ≠ none) :
    chain.visits.length = count ∧ ∀ visit ∈ chain.visits, ∃ page, pages visit.url = .ok page := by
  induction hroute with
  | start => exact ⟨rfl, List.forall_mem_nil _⟩
  | missing hpage => exact absurd rfl hnext
  | last hpage hafter => exact absurd rfl hnext
  | onward hpage hafter hrest ih =>
    obtain ⟨hlength, hfound⟩ := ih hnext
    exact ⟨congrArg (· + 1) hlength, List.forall_mem_cons.mpr ⟨⟨_, hpage⟩, hfound⟩⟩

/-- A route through finitely many pages that does not come back ends. -/
theorem ends {served : List String} (hserved : ∀ url page, pages url = .ok page → url ∈ served)
    (hends : ¬ ComesBack pages url) (hroute : Route pages (served.length + 1) url chain) :
    chain.next = none := by
  by_contra hnext
  obtain ⟨hlength, hfound⟩ := hroute.all_found hnext
  have hsubset : chain.visits.map Visit.url ⊆ served := by
    intro address haddress
    obtain ⟨visit, hvisit, rfl⟩ := List.mem_map.mp haddress
    obtain ⟨page, hpage⟩ := hfound visit hvisit
    exact hserved _ page hpage
  -- it would have visited more addresses than there are
  have hle := (List.subperm_of_subset (hroute.nodup hends) hsubset).length_le
  rw [List.length_map, hlength] at hle
  omega

end Route

/-! ### Chains that come back -/

/-- Whether the chain from an address on ends after a number of pages at most. -/
def EndsIn (pages : String → Except Failure Page) (count : Nat) (url : String) : Prop :=
  ∃ chain, Route pages count url chain ∧ chain.next = none

section endless
variable {pages : String → Except Failure Page} {count : Nat} {url : String}

theorem EndsIn.of_leads {next : String} (hends : EndsIn pages count url)
    (hleads : Leads pages url next) : ∃ fewer < count, EndsIn pages fewer next := by
  obtain ⟨chain, hroute, hnone⟩ := hends
  obtain ⟨page, hpage, hafter⟩ := hleads
  cases hroute with
  | start => cases hnone
  | missing hmissing =>
    rw [hpage] at hmissing
    cases hmissing
  | last hfound hlast =>
    rw [hpage] at hfound
    cases hfound
    rw [hafter] at hlast
    cases hlast
  | @onward fewer _ _ _ rest hfound honward hrest =>
    rw [hpage] at hfound
    cases hfound
    rw [hafter] at honward
    cases honward
    exact ⟨fewer, Nat.lt_succ_self fewer, rest, hrest, hnone⟩

theorem EndsIn.of_transGen {later : String} (hends : EndsIn pages count url)
    (hleads : TransGen (Leads pages) url later) : ∃ fewer < count, EndsIn pages fewer later := by
  induction hleads with
  | single hleads => exact hends.of_leads hleads
  | tail _ hleads ih =>
    obtain ⟨fewer, hfewer, hends⟩ := ih
    obtain ⟨fewest, hfewest, hends⟩ := hends.of_leads hleads
    exact ⟨fewest, Nat.lt_trans hfewest hfewer, hends⟩

/-- A chain does not end from an address that it comes back to: it would end in fewer pages and
    fewer again. -/
theorem not_endsIn_of_cycle (hcycle : TransGen (Leads pages) url url) (count : Nat) :
    ¬ EndsIn pages count url := by
  induction count using Nat.strongRecOn with
  | ind count ih =>
    intro hends
    obtain ⟨fewer, hfewer, hends⟩ := hends.of_transGen hcycle
    exact ih fewer hfewer hends

/-- A chain that comes back goes on. -/
theorem Route.goes_on {chain : PageChain} (hroute : Route pages count url chain)
    (hback : ComesBack pages url) : chain.next ≠ none := by
  intro hnone
  have hends : EndsIn pages count url := ⟨chain, hroute, hnone⟩
  obtain ⟨again, hreach, hcycle⟩ := hback
  rcases Relation.reflTransGen_iff_eq_or_transGen.mp hreach with rfl | hleads
  · exact not_endsIn_of_cycle hcycle count hends
  · obtain ⟨fewer, -, hends⟩ := hends.of_transGen hleads
    exact not_endsIn_of_cycle hcycle fewer hends

end endless

end PageChain

namespace Cursor

/-! ### What is collected -/

section collecting
variable {σ α : Type} [Peer σ] {convert : Conversion α}

/-- What was collected along the beginning of a chain, from the entries that were left. -/
structure Gathers (convert : Conversion α) (pending : List Entry) (chain : PageChain)
    (link : Link σ) (result : Collected α × Link σ) : Prop where
  /-- The pages of the chain were asked for, each one once. -/
  sent : result.2.sent = link.sent ++ chain.visits.map Visit.request
  begins : result.1.items <+: (ahead convert pending chain link.versions).items
  /-- If it is decided, all of it was converted or could not be. -/
  decided : result.1.undecided = false →
    result.1.items = (ahead convert pending chain link.versions).items ∧
      result.1.failure = (ahead convert pending chain link.versions).failure?.or chain.failure? ∧
      (chain.next = none ∨ (ahead convert pending chain link.versions).failure? ≠ none)

theorem visits_follow_zero (next : Option String) (peer : σ) :
    (PageChain.follow 0 next peer).visits = [] := by
  cases next with
  | none => rfl
  | some url => rfl

theorem gathers_impatient (pending : List Entry) (next : Option String) (link : Link σ) :
    Gathers convert pending (.follow 0 next link.peer) link
      (collect convert ⟨pending, next, false⟩ link none 0) := by
  refine ⟨?_, List.nil_prefix, nofun⟩
  rw [visits_follow_zero]
  exact (List.append_nil _).symm

section entries
variable {entry : Entry} {rest : List Entry} {next : Option String} {link : Link σ}

theorem collect_item {value : α} (hvalue : (convert entry link.versions).1.outcome = .ok value)
    (patience : Nat) :
    collect convert ⟨entry :: rest, next, false⟩ link none (patience + 1) =
      let later := collect convert ⟨rest, next, false⟩ (link.converting convert entry) none patience
      ({ later.1 with items := value :: later.1.items }, later.2) := by
  rw [collect, step_entry, hvalue]
  rfl

theorem collect_unconverted {failure : Failure}
    (hfailure : (convert entry link.versions).1.outcome = .error failure) (patience : Nat) :
    collect convert ⟨entry :: rest, next, false⟩ link none (patience + 1) =
      (⟨[], some failure, false⟩, link.converting convert entry) := by
  rw [collect, step_entry, hfailure]
  rfl

omit [Peer σ] in
/-- An item goes before what is collected later. -/
theorem Gathers.item {chain : PageChain} {value : α} {later : Collected α × Link σ}
    (hlater : Gathers convert rest chain (link.converting convert entry) later)
    (hvalue : (convert entry link.versions).1.outcome = .ok value) :
    Gathers convert (entry :: rest) chain link
      ({ later.1 with items := value :: later.1.items }, later.2) := by
  have hahead : ahead convert (entry :: rest) chain link.versions =
      { ahead convert rest chain (convert entry link.versions).2 with
        items := value :: (ahead convert rest chain (convert entry link.versions).2).items
        events := (convert entry link.versions).1.events ++
          (ahead convert rest chain (convert entry link.versions).2).events } :=
    convertAll_ok hvalue _
  refine ⟨hlater.sent, ?_, ?_⟩
  · rw [hahead]
    exact List.cons_prefix_cons.mpr ⟨rfl, hlater.begins⟩
  · intro hdecided
    obtain ⟨hitems, hfailure, hstop⟩ := hlater.decided hdecided
    rw [hahead]
    exact ⟨congrArg (value :: ·) hitems, hfailure, hstop⟩

/-- A failed conversion is the last one. -/
theorem gathers_unconverted {failure : Failure}
    (hfailure : (convert entry link.versions).1.outcome = .error failure) :
    Gathers convert (entry :: rest) (.follow 0 next link.peer) link
      (⟨[], some failure, false⟩, link.converting convert entry) := by
  have hahead : ahead convert (entry :: rest) (.follow 0 next link.peer) link.versions =
      ⟨[], some failure, (convert entry link.versions).2, (convert entry link.versions).1.events⟩ :=
    convertAll_error hfailure _
  refine ⟨?_, List.nil_prefix, fun _ => ?_⟩
  · rw [visits_follow_zero]
    exact (List.append_nil _).symm
  · rw [hahead]
    exact ⟨rfl, rfl, .inr (Option.some_ne_none failure)⟩

end entries

section pages
variable {url : String} {link : Link σ}

theorem collect_exhausted (patience : Nat) :
    collect convert ⟨[], none, false⟩ link none (patience + 1) = (⟨[], none, false⟩, link) := rfl

theorem collect_fetched {page : Page}
    (hpage : answeredPage url (Peer.answer (Request.read url) link.peer).1 = .ok page)
    (patience : Nat) :
    collect convert ⟨[], some url, false⟩ link none (patience + 1) =
      collect convert ⟨page.entries, page.after url, false⟩ (link.sending (Request.read url)) none
        patience := by
  rw [collect, step_fetch, hpage]
  rfl

theorem collect_missing {failure : Failure}
    (hfailure : answeredPage url (Peer.answer (Request.read url) link.peer).1 = .error failure)
    (patience : Nat) :
    collect convert ⟨[], some url, false⟩ link none (patience + 1) =
      (⟨[], some failure, false⟩, link.sending (Request.read url)) := by
  rw [collect, step_fetch, hfailure]
  rfl

theorem gathers_exhausted :
    Gathers convert [] (.follow 0 none link.peer) link (⟨[], none, false⟩, link) :=
  ⟨(List.append_nil _).symm, List.nil_prefix, fun _ => ⟨rfl, rfl, .inl rfl⟩⟩

/-- A page goes before the rest of the chain. -/
theorem Gathers.fetched {count : Nat} {page : Page} {later : Collected α × Link σ}
    (hlater : Gathers convert page.entries
      (.follow count (page.after url) (link.sending (Request.read url)).peer)
      (link.sending (Request.read url)) later)
    (hpage : answeredPage url (Peer.answer (Request.read url) link.peer).1 = .ok page) :
    Gathers convert [] (.follow (count + 1) (some url) link.peer) link later := by
  rw [follow_ok hpage]
  -- the entries of the page are the first ones of the chain
  refine ⟨?_, hlater.begins, hlater.decided⟩
  rw [hlater.sent]
  exact List.append_assoc _ _ _

theorem gathers_missing {failure : Failure}
    (hfailure : answeredPage url (Peer.answer (Request.read url) link.peer).1 = .error failure) :
    Gathers convert [] (.follow 1 (some url) link.peer) link
      (⟨[], some failure, false⟩, link.sending (Request.read url)) := by
  rw [follow_error hfailure]
  exact ⟨rfl, List.nil_prefix, fun _ => ⟨rfl, rfl, .inl rfl⟩⟩

end pages

/-- Collecting goes along a beginning of the chain. -/
theorem exists_gathers (convert : Conversion α) (patience : Nat) (pending : List Entry)
    (next : Option String) (link : Link σ) :
    ∃ count, Gathers convert pending (.follow count next link.peer) link
      (collect convert ⟨pending, next, false⟩ link none patience) := by
  -- on the patience: each step takes an entry, asks for a page or is the last one
  induction patience generalizing pending next link with
  | zero => exact ⟨0, gathers_impatient pending next link⟩
  | succ patience ih =>
    cases pending with
    | cons entry rest =>
      cases houtcome : (convert entry link.versions).1.outcome with
      | ok value =>
        rw [collect_item houtcome]
        obtain ⟨count, hlater⟩ := ih rest next (link.converting convert entry)
        exact ⟨count, hlater.item houtcome⟩
      | error failure =>
        rw [collect_unconverted houtcome]
        exact ⟨0, gathers_unconverted houtcome⟩
    | nil =>
      cases next with
      | none =>
        rw [collect_exhausted]
        exact ⟨0, gathers_exhausted⟩
      | some url =>
        cases hpage : answeredPage url (Peer.answer (Request.read url) link.peer).1 with
        | ok page =>
          rw [collect_fetched hpage]
          obtain ⟨count, hlater⟩ := ih page.entries (page.after url) _
          exact ⟨count + 1, hlater.fetched hpage⟩
        | error failure =>
          rw [collect_missing hpage]
          exact ⟨1, gathers_missing hpage⟩

/-- A step for each page and each entry, and one more, are enough if the chain ends. -/
theorem decided_of_follow_ends {count patience : Nat} {pending : List Entry} {next : Option String}
    {link : Link σ} (hend : (PageChain.follow count next link.peer).next = none)
    (hpatience : count + (pending ++ (PageChain.follow count next link.peer).entries).length <
      patience) :
    (collect convert ⟨pending, next, false⟩ link none patience).1.undecided = false := by
  induction patience generalizing count pending next link with
  | zero => omega
  | succ patience ih =>
    cases pending with
    | cons entry rest =>
      cases houtcome : (convert entry link.versions).1.outcome with
      | ok value =>
        rw [collect_item houtcome]
        rw [List.cons_append, List.length_cons] at hpatience
        have hrest : (PageChain.follow count next (link.converting convert entry).peer).next = none :=
          hend
        exact ih hrest (Nat.lt_of_succ_lt_succ hpatience)
      | error failure => rw [collect_unconverted houtcome]
    | nil =>
      cases next with
      | none => rw [collect_exhausted]
      | some url =>
        cases count with
        | zero => cases hend
        | succ count =>
          cases hpage : answeredPage url (Peer.answer (Request.read url) link.peer).1 with
          | ok page =>
            rw [follow_ok hpage] at hend hpatience
            rw [collect_fetched hpage]
            -- the entries of the page are the first ones of the chain
            have hless : count + 1 + (page.entries ++ (PageChain.follow count (page.after url)
                (link.sending (Request.read url)).peer).entries).length < patience + 1 := hpatience
            exact ih hend (by omega)
          | error failure => rw [collect_missing hpage]

theorem failure?_convertAll_of_ok
    (hconvert : ∀ entry versions, ∃ value, (convert entry versions).1.outcome = .ok value)
    (entries : List Entry) (versions : VersionStore) :
    (convertAll convert entries versions).failure? = none := by
  induction entries generalizing versions with
  | nil => rfl
  | cons entry rest ih =>
    obtain ⟨value, hvalue⟩ := hconvert entry versions
    rw [convertAll_ok hvalue]
    exact ih _

/-- Collecting a chain that comes back is never decided, if every entry can be converted. -/
theorem undecided_of_comesBack {pages : String → Except Failure Page}
    (hsteady : PageChain.Steady σ pages) {url : String} (hback : PageChain.ComesBack pages url)
    (hconvert : ∀ entry versions, ∃ value, (convert entry versions).1.outcome = .ok value)
    (link : Link σ) (patience : Nat) :
    (collect convert (.start url) link none patience).1.undecided = true := by
  obtain ⟨count, hgathers⟩ := exists_gathers convert patience [] (some url) link
  cases hundecided : (collect convert (.start url) link none patience).1.undecided with
  | true => rfl
  | false =>
    -- neither has the chain ended nor was there a failure
    obtain ⟨-, -, hend | hfailure⟩ := hgathers.decided hundecided
    · exact absurd hend ((PageChain.route_follow hsteady count url link.peer).goes_on hback)
    · exact absurd (failure?_convertAll_of_ok hconvert _ _) hfailure

/-- **When collecting ends.**  Let a server always answer an address with the same page, and let it
    have finitely many pages.  If the chain from an address on does not come back, collecting it
    ends.  It asks for no address twice, and what it delivers are the items of the entries of the
    pages that it asked for, each page taken once, up to the first failure.  But if the chain comes
    back and every entry can be converted, collecting does not end. -/
theorem collecting_ends_unless_comes_back {pages : String → Except Failure Page}
    (hsteady : PageChain.Steady σ pages) {served : List String}
    (hserved : ∀ url page, pages url = .ok page → url ∈ served) (convert : Conversion α)
    (url : String) (link : Link σ) :
    (¬ PageChain.ComesBack pages url →
      (∃ bound, ∀ patience, bound < patience →
        (collect convert (.start url) link none patience).1.undecided = false) ∧
      ∀ patience, ∃ visits : List Visit,
        let result := collect convert (.start url) link none patience
        let expected := convertAll convert (visits.flatMap Visit.entries) link.versions
        result.2.sent = link.sent ++ visits.map Visit.request ∧
          (visits.map Visit.url).Nodup ∧
          (∀ visit ∈ visits, visit.page = pages visit.url) ∧
          result.1.items <+: expected.items ∧
          (result.1.undecided = false →
            result.1.items = expected.items ∧
              result.1.failure = expected.failure?.or (visits.findSome? Visit.failure?))) ∧
    (PageChain.ComesBack pages url →
      (∀ entry versions, ∃ value, (convert entry versions).1.outcome = .ok value) →
      ∀ patience, (collect convert (.start url) link none patience).1.undecided = true) := by
  constructor
  · intro hends
    constructor
    · let chain := PageChain.follow (served.length + 1) (some url) link.peer
      refine ⟨served.length + 1 + ([] ++ chain.entries).length, ?_⟩
      intro patience hpatience
      have hroute := PageChain.route_follow hsteady (served.length + 1) url link.peer
      exact decided_of_follow_ends (hroute.ends hserved hends) hpatience
    · intro patience
      obtain ⟨count, hgathers⟩ := exists_gathers convert patience [] (some url) link
      have hroute := PageChain.route_follow hsteady count url link.peer
      refine ⟨(PageChain.follow count (some url) link.peer).visits, hgathers.sent,
        hroute.nodup hends, ?_, hgathers.begins, ?_⟩
      · intro visit hvisit
        exact (hroute.reach_of_mem hvisit).2
      · intro hdecided
        obtain ⟨hitems, hfailure, -⟩ := hgathers.decided hdecided
        exact ⟨hitems, hfailure⟩
  · intro hback hconvert patience
    exact undecided_of_comesBack hsteady hback hconvert link patience

end collecting

/-! ### A line of two pages, and a ring of two -/

/-- A server with two pages, of which the second may lead back to the first. -/
structure Linked (ring : Bool) where

namespace Linked

/-- The address of the first page. -/
def first : String := "https://x/sdata/-/contacts"

/-- The address of the second page. -/
def second : String := "https://x/sdata/-/contacts?startIndex=2"

/-- The first page. -/
def firstText : String :=
  "\x7b\"$next\":\"https://x/sdata/-/contacts?startIndex=2\","
    ++ "\"$resources\":[\x7b\"$key\":\"C1\"\x7d]\x7d"

/-- The second page of a line. -/
def lastText : String := "\x7b\"$resources\":[\x7b\"$key\":\"C2\"\x7d]\x7d"

/-- The second page of a ring. -/
def backText : String :=
  "\x7b\"$next\":\"https://x/sdata/-/contacts\",\"$resources\":[\x7b\"$key\":\"C2\"\x7d]\x7d"

/-- The answer for an address. -/
def answer (ring : Bool) (url : String) : Response :=
  if url = first then ⟨200, none, Text.asciiBytes firstText⟩
  else if url = second then
    ⟨200, none, Text.asciiBytes (if ring then backText else lastText)⟩
  else ⟨404, none, []⟩

instance (ring : Bool) : Peer (Linked ring) where
  answer request server := (.ok (answer ring request.url), server)

/-- The page for an address. -/
def pages (ring : Bool) (url : String) : Except Failure Page :=
  answeredPage url (.ok (answer ring url))

/-- A link on which nothing has happened. -/
def link (ring : Bool) : Link (Linked ring) :=
  ⟨.empty none, ⟨⟩, [], []⟩

/-- Only the key of an entry is of interest. -/
def keyOf : Conversion (Option String) :=
  fun entry versions => (pure entry.key, versions)

/-- A page with one resource. -/
def pageOf (key : String) (next : Option String) : Page :=
  ⟨[Entry.ofMembers [("$key", .text key)]], next, none⟩

theorem steady (ring : Bool) : PageChain.Steady (Linked ring) (pages ring) := fun _ _ => rfl

theorem served {ring : Bool} {url : String} {page : Page} (hpage : pages ring url = .ok page) :
    url ∈ [first, second] := by
  unfold pages answer at hpage
  by_cases hfirst : url = first
  · rw [hfirst]
    exact List.mem_cons_self
  by_cases hsecond : url = second
  · rw [hsecond]
    exact List.mem_cons_of_mem _ List.mem_cons_self
  · -- there is nothing at any other address
    rw [if_neg hfirst, if_neg hsecond] at hpage
    cases hpage

set_option maxRecDepth 4000 in
theorem pages_first (ring : Bool) : pages ring first = .ok (pageOf "C1" (some second)) := by
  have hdocument : document (Text.asciiBytes firstText) = .ok (.object
      [("$next", .text second), ("$resources", .array [.object [("$key", .text "C1")]])]) :=
    Page.document_of_text (by decide) (by cbv)
  unfold pages answer
  rw [if_pos rfl, answeredPage_of_success (by rfl), Page.decode_eq hdocument]
  rfl

set_option maxRecDepth 4000 in
theorem pages_second_of_ring : pages true second = .ok (pageOf "C2" (some first)) := by
  have hdocument : document (Text.asciiBytes backText) = .ok (.object
      [("$next", .text first), ("$resources", .array [.object [("$key", .text "C2")]])]) :=
    Page.document_of_text (by decide) (by cbv)
  unfold pages answer
  rw [if_neg (by decide), if_pos rfl, if_pos rfl, answeredPage_of_success (by rfl),
    Page.decode_eq hdocument]
  rfl

theorem pages_second_of_line : pages false second = .ok (pageOf "C2" none) := by
  have hdocument : document (Text.asciiBytes lastText) = .ok (.object
      [("$resources", .array [.object [("$key", .text "C2")]])]) :=
    Page.document_of_text (by decide) (by cbv)
  unfold pages answer
  rw [if_neg (by decide), if_pos rfl, if_neg (by decide), answeredPage_of_success (by rfl),
    Page.decode_eq hdocument]
  rfl

theorem first_leads (ring : Bool) : PageChain.Leads (pages ring) first second :=
  ⟨_, pages_first ring, by decide⟩

/-- The second page of a line leads nowhere. -/
theorem eq_of_leads {url next : String} (hleads : PageChain.Leads (pages false) url next) :
    url = first ∧ next = second := by
  obtain ⟨page, hpage, hafter⟩ := hleads
  rcases List.mem_cons.mp (served hpage) with rfl | hmem
  · rw [pages_first] at hpage
    cases hpage
    exact ⟨rfl, (Option.some.inj hafter).symm⟩
  · obtain rfl := List.mem_singleton.mp hmem
    rw [pages_second_of_line] at hpage
    cases hpage
    cases hafter

theorem not_comesBack : ¬ PageChain.ComesBack (pages false) first := by
  rintro ⟨again, -, hcycle⟩
  -- the first link of a cycle leaves the first page, and the last one enters the second
  obtain ⟨next, hfirst, -⟩ := Relation.TransGen.head'_iff.mp hcycle
  obtain ⟨last, -, hsecond⟩ := Relation.TransGen.tail'_iff.mp hcycle
  have hsame : first = second := (eq_of_leads hfirst).1.symm.trans (eq_of_leads hsecond).2
  exact absurd hsame (by decide)

theorem comesBack : PageChain.ComesBack (pages true) first :=
  ⟨first, .refl, .tail (.single (first_leads true)) ⟨_, pages_second_of_ring, by decide⟩⟩

/-- A line is collected to its end, and no page of it is asked for twice. -/
theorem line_is_collected :
    (∃ bound, ∀ patience, bound < patience →
      (collect keyOf (.start first) (link false) none patience).1.undecided = false) ∧
    ∀ patience, ((collect keyOf (.start first) (link false) none patience).2.sent.map
      Request.url).Nodup := by
  obtain ⟨hline, -⟩ := collecting_ends_unless_comes_back (steady false)
    (fun url page => served) keyOf first (link false)
  obtain ⟨hends, hvisits⟩ := hline not_comesBack
  refine ⟨hends, ?_⟩
  intro patience
  obtain ⟨visits, hsent, hnodup, -⟩ := hvisits patience
  have hurls : (visits.map Visit.request).map Request.url = visits.map Visit.url := by
    rw [List.map_map]
    rfl
  rw [hsent, link, List.nil_append, hurls]
  exact hnodup

/-- A page with a resource and a link takes two steps. -/
theorem collect_pageOf {url next key : String}
    (hpage : pages true url = .ok (pageOf key (some next))) (hother : next ≠ url)
    (link : Link (Linked true)) (patience : Nat) :
    ∃ after : Link (Linked true), after.sent = link.sent ++ [Request.read url] ∧
      collect keyOf ⟨[], some url, false⟩ link none (patience + 2) =
        let later := collect keyOf ⟨[], some next, false⟩ after none patience
        ({ later.1 with items := some key :: later.1.items }, later.2) := by
  have hafter : (pageOf key (some next)).after url = some next :=
    if_neg fun hsame => hother (Option.some.inj hsame)
  have hanswer : answeredPage url (Peer.answer (Request.read url) link.peer).1 =
      .ok (pageOf key (some next)) := hpage
  refine ⟨(link.sending (Request.read url)).converting keyOf
    (Entry.ofMembers [("$key", .text key)]), rfl, ?_⟩
  rw [collect_fetched hanswer, hafter]
  exact collect_item rfl patience

/-- A ring is collected for ever, although there are two pages only, which never change. -/
theorem ring_is_collected_for_ever :
    PageChain.Steady (Linked true) (pages true) ∧
      (∀ url page, pages true url = .ok page → url ∈ [first, second]) ∧
      (∀ patience, (collect keyOf (.start first) (link true) none patience).1.undecided = true) ∧
      (collect keyOf (.start first) (link true) none 6).1.items =
        [some "C1", some "C2", some "C1"] ∧
      (collect keyOf (.start first) (link true) none 6).2.sent =
        [Request.read first, Request.read second, Request.read first] := by
  refine ⟨steady true, fun url page => served, ?_, ?_⟩
  · exact undecided_of_comesBack (steady true) comesBack (fun entry versions => ⟨_, rfl⟩) _
  · obtain ⟨one, hone, hstart⟩ := collect_pageOf (pages_first true) (by decide) (link true) 4
    obtain ⟨two, htwo, hback⟩ := collect_pageOf pages_second_of_ring (by decide) one 2
    obtain ⟨three, hthree, hagain⟩ := collect_pageOf (pages_first true) (by decide) two 0
    have hcollected : collect keyOf (.start first) (link true) none 6 =
        (⟨[some "C1", some "C2", some "C1"], none, true⟩, three) := by
      rw [start, hstart, hback, hagain]
      rfl
    rw [hcollected]
    refine ⟨rfl, ?_⟩
    rw [hthree, htwo, hone]
    rfl

end Linked

end Cursor

end ResourceFeed
