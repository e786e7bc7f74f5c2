import Mathlib
import ResourceFeed.Client.Operations
import ResourceFeed.Proofs.Client.Streaming
import ResourceFeed.Proofs.Feed.Continuation
import ResourceFeed.Proofs.Query.Spelling

/-! # A paged read delivers a feed once

    A server that sends its resources in pages, and says of each page where it
    starts, how many resources fit on it and how many there are, does not link
    its pages.  The client derives the address of the next page: the same
    clauses, and behind them the position that the next page starts from.

    For such a server the stream of a query yields every resource once and in
    order.  The pages that it asks for start at `1`, `1 + p`, `1 + 2 * p` and
    so on, and none is asked for that would start behind the last resource.
-/

namespace ResourceFeed

/-! ### A server with pages -/

/-- The address asks for resources from a position on; from the first if it does not say. -/
def Address.AsksFrom (address : String) (start : Nat) : Prop :=
  let asked := (parameters address.toList).filter (hasName "startIndex".toList)
  (asked = [] ∧ start = 1) ∨ asked = [("startIndex=" ++ toString start).toList]

/-- The resources on the page from a position on. -/
def onPageFrom (resources : List (Members Json)) (perPage start : Nat) : List (Members Json) :=
  (resources.drop (start - 1)).take perPage

/-- The members of a page of resources from a position on. -/
structure IsPage (resources : List (Members Json)) (perPage start : Nat)
    (members : Members Json) : Prop where
  noNext : Members.get? "$next" members = none
  totalResults : Members.get? "$totalResults" members = some (.integer resources.length)
  startIndex : Members.get? "$startIndex" members = some (.integer start)
  itemsPerPage : Members.get? "$itemsPerPage" members = some (.integer perPage)
  items : Members.get? "$resources" members =
    some (.array ((onPageFrom resources perPage start).map .object))

/-- The peer sends the resources in pages, whatever else an address asks for. -/
def ServesPages (σ : Type) [Peer σ] (resources : List (Members Json)) (perPage : Nat) : Prop :=
  ∀ address start (peer : σ), Address.AsksFrom address start →
    1 ≤ start → start ≤ max 1 resources.length →
    ∃ response members, (Peer.answer (Request.read address) peer).1 = .ok response ∧
      response.isSuccess = true ∧ Json.ofBytes? response.body = some (.object members) ∧
      IsPage resources perPage start members

section pages
variable {resources : List (Members Json)} {perPage : Nat}

/-- The page of resources from a position on as a client has it that fetched it from an address. -/
def pageFrom (resources : List (Members Json)) (perPage start : Nat) (address : String) : Page where
  entries := (onPageFrom resources perPage start).map Entry.ofMembers
  next :=
    if start + perPage ≤ resources.length then
      some (Address.setParameter address "startIndex" (toString (start + perPage)))
    else none
  totalResults := some resources.length

/-- A number of 64 bits is read from JSON. -/
theorem uint64?_integer {n : Nat} (hn : n < limitUInt64) : Json.uint64? (.integer n) = some n := by
  unfold Json.uint64?
  simp only
  rw [if_pos ⟨by omega, by omega⟩, Int.toNat_natCast]

theorem given?_of_get? {members : Members Json} {name : String} {n : Nat} (hn : n < limitUInt64)
    (h : Members.get? name members = some (.integer n)) : Page.given? members name = some n := by
  unfold Page.given?
  rw [h, Option.bind_some, uint64?_integer hn]

/-- The next page starts behind this one, if the total goes that far. -/
theorem nextStart?_of_isPage {members : Members Json} {start : Nat}
    (hpage : IsPage resources perPage start members)
    (hword : resources.length + perPage < limitUInt64) (hstart : 1 ≤ start)
    (hreach : start ≤ max 1 resources.length) {returned : Nat}
    (hreturned : returned = 0 ↔ resources.length = 0) :
    (Page.nextStart? members returned).map UInt64.toNat =
      if start + perPage ≤ resources.length then some (start + perPage) else none := by
  rw [Page.nextStart?_eq]
  by_cases hempty : returned = 0
  · -- an empty page is only sent for an empty feed, and nothing follows it
    have hnone : ¬ start + perPage ≤ resources.length := by
      have := hreturned.mp hempty
      omega
    rw [if_pos hempty, if_neg hnone]
  · have hlength : resources.length ≠ 0 := fun h => hempty (hreturned.mpr h)
    have htotal := given?_of_get? (by omega) hpage.totalResults
    have hposition : Page.position members = start := by
      rw [Page.position, given?_of_get? (by omega) hpage.startIndex, Option.getD_some]
    have hroom : Page.room members returned = perPage := by
      rw [Page.room, given?_of_get? (by omega) hpage.itemsPerPage, Option.getD_some]
    -- the sum fits into 64 bits
    have hbehind : Page.behind members returned = start + perPage := by
      rw [Page.behind, hposition, hroom, Nat.mod_eq_of_lt (by omega)]
    rw [if_neg hempty, htotal, Option.bind_some, hbehind]

/-- The entries of a page. -/
theorem entriesOfMembers_of_isPage {members : Members Json} {start : Nat}
    (hpage : IsPage resources perPage start members) :
    Page.entriesOfMembers members =
      .ok ((onPageFrom resources perPage start).map Entry.ofMembers) := by
  unfold Page.entriesOfMembers
  rw [hpage.items]
  simp only
  induction onPageFrom resources perPage start with
  | nil => rfl
  | cons resource rest ih =>
    rw [List.map_cons, List.mapM_cons, ih]
    rfl

/-- A page of the server as the client has it. -/
theorem answeredPage_of_servesPages {σ : Type} [Peer σ] (hserves : ServesPages σ resources perPage)
    (hword : resources.length + perPage < limitUInt64) (hperPage : 1 ≤ perPage) {address : String}
    {start : Nat} (hasks : Address.AsksFrom address start) (hstart : 1 ≤ start)
    (hreach : start ≤ max 1 resources.length) (peer : σ) :
    answeredPage address (Peer.answer (Request.read address) peer).1 =
      .ok (pageFrom resources perPage start address) := by
  obtain ⟨response, members, hanswer, hsuccess, hbody, hpage⟩ :=
    hserves address start peer hasks hstart hreach
  have hentries := entriesOfMembers_of_isPage hpage
  -- positions up to the last resource have a resource on their page
  have hreturned : ((onPageFrom resources perPage start).map Entry.ofMembers).length = 0 ↔
      resources.length = 0 := by
    rw [List.length_map, onPageFrom, List.length_take, List.length_drop]
    omega
  have hnext : Page.nextLink? members
      ((onPageFrom resources perPage start).map Entry.ofMembers).length address =
        (pageFrom resources perPage start address).next := by
    have hunlinked : (Members.get? "$next" members).bind Json.text? = none := by
      rw [hpage.noNext, Option.bind_none]
    rw [Page.nextLink?_eq hunlinked, nextStart?_of_isPage hpage hword hstart hreach hreturned,
      pageFrom]
    split
    · rfl
    · rfl
  have hdocument : document response.body = .ok (.object members) := by
    unfold document
    rw [hbody]
  have hdecode : Page.decode response.body address =
      .ok (pageFrom resources perPage start address) := by
    rw [Page.decode_eq hdocument, hentries, Except.map, hnext,
      given?_of_get? (by omega) hpage.totalResults]
    rfl
  rw [hanswer, answeredPage_of_success hsuccess]
  exact hdecode

end pages

/-! ### The addresses of the pages -/

/-- The address of a page, counted from zero, as it follows from the address of the first one. -/
def pageAddress (first : String) (perPage index : Nat) : String :=
  if index = 0 then first
  else Address.addClause first ("startIndex=" ++ toString (1 + index * perPage))

theorem isSolid_position (start : Nat) :
    Address.IsSolid ("startIndex=" ++ toString start).toList := by
  exact isSolid_append (by decide) (by decide) (unbroken_nat start)

theorem hasName_position (start : Nat) :
    Address.hasName "startIndex".toList ("startIndex=" ++ toString start).toList = true := by
  rw [String.toList_append]
  rfl

/-- The clauses behind an address, the position of a page excepted. -/
structure IsFirst (address : String) (clauses : List String) : Prop where
  noMark : '?' ∉ address.toList
  solid : ∀ clause ∈ clauses, Address.IsSolid clause.toList
  unpaged : ∀ clause ∈ clauses, Address.hasName "startIndex".toList clause.toList = false

namespace IsFirst

variable {address : String} {clauses : List String}

/-- The clauses behind the address of a page. -/
def pageClauses (clauses : List String) (perPage index : Nat) : List String :=
  if index = 0 then clauses else clauses ++ ["startIndex=" ++ toString (1 + index * perPage)]

theorem pageAddress_eq (h : IsFirst address clauses) (perPage index : Nat) :
    pageAddress (appendClauses address clauses) perPage index =
      appendClauses address (pageClauses clauses perPage index) := by
  unfold pageAddress pageClauses
  by_cases hfirst : index = 0
  · rw [if_pos hfirst, if_pos hfirst]
  · rw [if_neg hfirst, if_neg hfirst, Address.addClause_appendClauses h.noMark]

theorem isSolid_pageClauses (h : IsFirst address clauses) (perPage index : Nat) :
    ∀ clause ∈ pageClauses clauses perPage index, Address.IsSolid clause.toList := by
  unfold pageClauses
  by_cases hfirst : index = 0
  · rw [if_pos hfirst]
    exact h.solid
  · rw [if_neg hfirst]
    exact List.forall_mem_append.mpr
      ⟨h.solid, List.forall_mem_singleton.mpr (isSolid_position _)⟩

/-- Without the position the clauses of every page are those of the first one. -/
theorem filter_pageClauses (h : IsFirst address clauses) (perPage index : Nat) :
    (pageClauses clauses perPage index).filter
      (fun clause => !Address.hasName "startIndex".toList clause.toList) = clauses := by
  have hclauses := Address.filter_unnamed h.unpaged
  unfold pageClauses
  by_cases hfirst : index = 0
  · rw [if_pos hfirst, hclauses]
  · rw [if_neg hfirst, List.filter_append, hclauses, List.filter_cons_of_neg, List.filter_nil,
      List.append_nil]
    rw [hasName_position]
    decide

/-- The address of a page asks for the resources from its position on. -/
theorem asksFrom_pageAddress (h : IsFirst address clauses) (perPage index : Nat) :
    Address.AsksFrom (pageAddress (appendClauses address clauses) perPage index)
      (1 + index * perPage) := by
  have hnone : (clauses.map String.toList).filter (Address.hasName "startIndex".toList) = [] := by
    rw [List.filter_eq_nil_iff]
    intro clause hclause
    obtain ⟨text, htext, rfl⟩ := List.mem_map.mp hclause
    rw [h.unpaged text htext]
    decide
  unfold Address.AsksFrom
  rw [h.pageAddress_eq, Address.toList_appendClauses, Address.parameters_withClauses h.noMark
    (List.forall_mem_map.mpr (h.isSolid_pageClauses perPage index))]
  unfold pageClauses
  by_cases hfirst : index = 0
  · rw [if_pos hfirst]
    exact .inl ⟨hnone, by rw [hfirst, Nat.zero_mul]⟩
  · rw [if_neg hfirst, List.map_append, List.filter_append, hnone, List.nil_append,
      List.map_singleton, List.filter_cons_of_pos (hasName_position _)]
    exact .inr rfl

/-- The address that a client derives from a page is the one of the page after it. -/
theorem setParameter_pageAddress (h : IsFirst address clauses) (perPage index : Nat) :
    Address.setParameter (pageAddress (appendClauses address clauses) perPage index) "startIndex"
        (toString (1 + index * perPage + perPage)) =
      pageAddress (appendClauses address clauses) perPage (index + 1) := by
  have hposition : 1 + index * perPage + perPage = 1 + (index + 1) * perPage := by
    rw [Nat.succ_mul]
    omega
  -- the position of this page is dropped, and that of the next one comes behind the clauses
  rw [h.pageAddress_eq, h.pageAddress_eq, Address.setParameter_appendClauses h.noMark
    (h.isSolid_pageClauses perPage index), h.filter_pageClauses, hposition]
  rfl

/-- No page has the address of the page before it. -/
theorem pageAddress_succ_ne (h : IsFirst address clauses) {perPage : Nat} (hperPage : 1 ≤ perPage)
    (index : Nat) :
    pageAddress (appendClauses address clauses) perPage (index + 1) ≠
      pageAddress (appendClauses address clauses) perPage index := by
  intro hsame
  rw [h.pageAddress_eq, h.pageAddress_eq] at hsame
  have hclauses := Address.appendClauses_injective h.noMark (h.isSolid_pageClauses perPage _)
    (h.isSolid_pageClauses perPage _) hsame
  unfold pageClauses at hclauses
  rw [if_neg (Nat.succ_ne_zero index)] at hclauses
  by_cases hfirst : index = 0
  · -- the second page has a clause more than the first one
    rw [if_pos hfirst] at hclauses
    have hlength := congrArg List.length hclauses
    rw [List.length_append, List.length_singleton] at hlength
    omega
  · -- all later pages differ in their positions
    rw [if_neg hfirst] at hclauses
    have hposition := (List.cons.inj (List.append_cancel_left hclauses)).1
    rw [← String.toList_inj, String.toList_append, String.toList_append] at hposition
    have hnumber := number_injective (String.toList_inj.mp (List.append_cancel_left hposition))
    rw [Nat.succ_mul] at hnumber
    omega

end IsFirst

/-! ### The chain of the pages -/

section chain
variable {σ : Type} [Peer σ] {resources : List (Members Json)} {perPage : Nat}

/-- What comes of reading a page. -/
def pageVisit (resources : List (Members Json)) (perPage : Nat) (first : String) (index : Nat) :
    Visit where
  url := pageAddress first perPage index
  page := .ok (pageFrom resources perPage (1 + index * perPage) (pageAddress first perPage index))

/-- The pages follow each other up to the one on which the last resource is. -/
theorem follow_pages {address : String} {clauses : List String} (h : IsFirst address clauses)
    (hserves : ServesPages σ resources perPage)
    (hword : resources.length + perPage < limitUInt64) (hperPage : 1 ≤ perPage) {pages : Nat}
    (hlast : resources.length ≤ pages * perPage)
    (hbefore : ∀ index, 0 < index → index < pages → index * perPage < resources.length)
    (count index : Nat) (hcount : 0 < count) (hpages : index + count = pages) (peer : σ) :
    PageChain.follow count (some (pageAddress (appendClauses address clauses) perPage index)) peer =
      ⟨(List.range' index count).map
        (pageVisit resources perPage (appendClauses address clauses)), none⟩ := by
  -- on the pages that are left: the chain is followed to the end
  induction count generalizing index peer with
  | zero => omega
  | succ count ih =>
    have hreach : 1 + index * perPage ≤ max 1 resources.length := by
      by_cases hfirst : index = 0
      · rw [hfirst, Nat.zero_mul]
        omega
      · have hinside := hbefore index (by omega) (by omega)
        omega
    have hpage := answeredPage_of_servesPages hserves hword hperPage
      (h.asksFrom_pageAddress perPage index) (by omega) hreach peer
    rw [Cursor.follow_ok hpage, List.range'_succ, List.map_cons]
    have hnext : 1 + index * perPage + perPage = 1 + (index + 1) * perPage := by
      rw [Nat.succ_mul]
      omega
    cases count with
    | zero =>
      -- the next page would start behind the last resource
      have hend : ¬ 1 + index * perPage + perPage ≤ resources.length := by
        rw [hnext, hpages]
        omega
      have hafter : (pageFrom resources perPage (1 + index * perPage)
          (pageAddress (appendClauses address clauses) perPage index)).after
          (pageAddress (appendClauses address clauses) perPage index) = none := by
        unfold Page.after pageFrom
        simp only [if_neg hend, reduceCtorEq, if_false]
      rw [hafter, Cursor.follow_none]
      rfl
    | succ count =>
      have hinside : 1 + index * perPage + perPage ≤ resources.length := by
        have := hbefore (index + 1) (by omega) (by omega)
        omega
      have hafter : (pageFrom resources perPage (1 + index * perPage)
          (pageAddress (appendClauses address clauses) perPage index)).after
          (pageAddress (appendClauses address clauses) perPage index) =
            some (pageAddress (appendClauses address clauses) perPage (index + 1)) := by
        -- no page links to itself, and so the client goes on
        unfold Page.after pageFrom
        simp only [if_pos hinside, h.setParameter_pageAddress]
        rw [if_neg]
        intro hself
        exact h.pageAddress_succ_ne hperPage index (Option.some.inj hself)
      rw [hafter, ih (index + 1) (by omega) (by omega)]
      rfl

/-- The pages hold the resources in order, each of them once. -/
theorem flatMap_onPageFrom (resources : List (Members Json)) (perPage pages : Nat) :
    (List.range pages).flatMap (fun index => onPageFrom resources perPage (1 + index * perPage)) =
      resources.take (pages * perPage) := by
  induction pages with
  | zero => rw [Nat.zero_mul, List.take_zero, List.range_zero, List.flatMap_nil]
  | succ pages ih =>
    rw [List.range_succ, List.flatMap_append, ih, Nat.succ_mul, List.take_add,
      List.flatMap_singleton, onPageFrom, Nat.add_sub_cancel_left]

theorem entries_pageVisits (first : String) {pages : Nat}
    (hlast : resources.length ≤ pages * perPage) :
    ((List.range pages).map (pageVisit resources perPage first)).flatMap Visit.entries =
      resources.map Entry.ofMembers := by
  have hpages := flatMap_onPageFrom resources perPage pages
  rw [List.take_of_length_le hlast] at hpages
  have hall := congrArg (List.map Entry.ofMembers) hpages
  rw [List.map_flatMap] at hall
  rw [List.flatMap_map, ← hall]
  rfl

theorem failure?_pageVisits (resources : List (Members Json)) (perPage : Nat) (first : String)
    (indices : List Nat) :
    (indices.map (pageVisit resources perPage first)).findSome? Visit.failure? = none := by
  rw [List.findSome?_eq_none_iff]
  intro visit hvisit
  obtain ⟨index, -, rfl⟩ := List.mem_map.mp hvisit
  rfl

end chain

/-! ### The delivery -/

/-- The address of the first page: a page size is asked for behind the clauses. -/
def firstAddress (query : String) (pageSize : Option Nat) : String :=
  match pageSize with
  | none => query
  | some count => Address.addClause query ("count=" ++ toString count)

/-- The number of pages that hold a number of resources; an empty feed has one, too. -/
def pageCount (resources perPage : Nat) : Nat :=
  max 1 ((resources + perPage - 1) / perPage)

theorem le_pageCount_mul {perPage : Nat} (hperPage : 1 ≤ perPage) (resources : Nat) :
    resources ≤ pageCount resources perPage * perPage := by
  have hdiv := Nat.div_add_mod (resources + perPage - 1) perPage
  have hmod := Nat.mod_lt (resources + perPage - 1) hperPage
  have hmax : (resources + perPage - 1) / perPage * perPage ≤
      pageCount resources perPage * perPage := Nat.mul_le_mul_right _ (Nat.le_max_right _ _)
  rw [Nat.mul_comm] at hdiv
  omega

theorem mul_lt_of_lt_pageCount {resources perPage index : Nat} (hpositive : 0 < index)
    (hindex : index < pageCount resources perPage) (hperPage : 1 ≤ perPage) :
    index * perPage < resources := by
  have hlt : index < (resources + perPage - 1) / perPage := by
    unfold pageCount at hindex
    omega
  have hmul := (Nat.le_div_iff_mul_le hperPage).mp hlt
  rw [Nat.succ_mul] at hmul
  omega

/-- The address of the first page is the target with its clauses and perhaps a page size. -/
theorem isFirst_of_target {site : Site} {chain : Chain} {target : Target}
    (htarget : site.target chain = .ok target) (hbase : '?' ∉ site.baseUrl.toList)
    (hpath : ∀ path, site.resolver.pathOf chain.kind = .ok path → '?' ∉ path.toList)
    (htexts : ∀ text ∈ chain.spelledTexts, Unbroken text) (pageSize : Option Nat) :
    ∃ address clauses, IsFirst address clauses ∧
      Client.withPageSize pageSize target.url = appendClauses address clauses ∧
      firstAddress target.url pageSize = appendClauses address clauses := by
  obtain ⟨path, clauses, hkind, hurl, hclauses⟩ := target_eq_appendClauses htarget htexts
  have haddress : '?' ∉ (site.baseUrl ++ "/-/" ++ path).toList := by
    rw [String.toList_append, String.toList_append, List.mem_append, List.mem_append, not_or,
      not_or]
    exact ⟨⟨hbase, by decide⟩, hpath path hkind⟩
  have hsolid : ∀ clause ∈ clauses, Address.IsSolid clause.toList :=
    fun clause hclause => (hclauses clause hclause).isSolid
  have hunpaged : ∀ clause ∈ clauses,
      Address.hasName "startIndex".toList clause.toList = false :=
    fun clause hclause => (hclauses clause hclause).not_hasName (by simp)
  cases pageSize with
  | none => exact ⟨_, clauses, ⟨haddress, hsolid, hunpaged⟩, hurl, hurl⟩
  | some count =>
    have hunsized : ∀ clause ∈ clauses, Address.hasName "count".toList clause.toList = false :=
      fun clause hclause => (hclauses clause hclause).not_hasName (by simp)
    have hkept := Address.filter_unnamed hunsized
    refine ⟨_, clauses ++ ["count=" ++ toString count], ⟨haddress, ?_, ?_⟩, ?_, ?_⟩
    · have hsize : Address.IsSolid ("count=" ++ toString count).toList :=
        isSolid_append (by decide) (by decide) (unbroken_nat count)
      exact List.forall_mem_append.mpr ⟨hsolid, List.forall_mem_singleton.mpr hsize⟩
    · have hsize : Address.hasName "startIndex".toList ("count=" ++ toString count).toList
          = false := by
        rw [String.toList_append]
        rfl
      exact List.forall_mem_append.mpr ⟨hunpaged, List.forall_mem_singleton.mpr hsize⟩
    · show Address.setParameter target.url "count" (toString count) = _
      rw [hurl, Address.setParameter_appendClauses haddress hsolid, hkept]
      rfl
    · show Address.addClause target.url ("count=" ++ toString count) = _
      rw [hurl, Address.addClause_appendClauses haddress]

/-- **A paged read delivers a feed once**: from a server that sends its resources in pages the
    stream of a query yields all of them in order and then ends.  It asks for one page after the
    other, and every address is that of the query with its clauses unchanged and, behind them, the
    page size and the position of the page. -/
theorem paged_read_delivers_once {σ α : Type} [Peer σ] {site : Site} {chain : Chain}
    {target : Target} (htarget : site.target chain = .ok target)
    (hbase : '?' ∉ site.baseUrl.toList)
    (hpath : ∀ path, site.resolver.pathOf chain.kind = .ok path → '?' ∉ path.toList)
    (htexts : ∀ text ∈ chain.spelledTexts, '&' ∉ text.toList)
    {resources : List (Members Json)} {perPage : Nat} (hperPage : 1 ≤ perPage)
    (hword : resources.length + perPage < 2 ^ 64) (hserves : ServesPages σ resources perPage)
    {convert : Conversion α} {item : Entry → α}
    (hconvert : ∀ entry ∈ resources.map Entry.ofMembers, ∀ versions,
      (convert entry versions).1.outcome = .ok (item entry))
    (pageSize : Option Nat) (link : Link σ) {count patience : Nat}
    (hcount : resources.length < count)
    (hpatience : pageCount resources.length perPage < patience) :
    (Cursor.polls convert patience count
        (.start (Client.withPageSize pageSize target.url)) link).1 =
      resources.map (fun members => .item (item (Entry.ofMembers members))) ++
        List.replicate (count - resources.length) .ended ∧
    (Cursor.polls convert patience count
        (.start (Client.withPageSize pageSize target.url)) link).2.2.sent =
      link.sent ++ (List.range (pageCount resources.length perPage)).map fun index =>
        Request.read (pageAddress (firstAddress target.url pageSize) perPage index) := by
  obtain ⟨address, clauses, hfirst, hsize, haddress⟩ :=
    isFirst_of_target htarget hbase hpath htexts pageSize
  rw [hsize, haddress]
  have hlast := le_pageCount_mul hperPage resources.length
  have hchain := follow_pages hfirst hserves hword hperPage hlast
    (fun index hpositive hindex => mul_lt_of_lt_pageCount hpositive hindex hperPage)
    (pageCount resources.length perPage) 0 (Nat.lt_of_lt_of_le Nat.one_pos (Nat.le_max_left _ _))
    (Nat.zero_add _) link.peer
  have hurl : pageAddress (appendClauses address clauses) perPage 0 =
      appendClauses address clauses := rfl
  rw [hurl, ← List.range_eq_range'] at hchain
  -- these pages hold every resource, and none of them is missing
  have hentries := entries_pageVisits (appendClauses address clauses) hlast
  have hfailure := failure?_pageVisits resources perPage (appendClauses address clauses)
    (List.range (pageCount resources.length perPage))
  rw [← hentries] at hconvert
  have hlength : (((List.range (pageCount resources.length perPage)).map
      (pageVisit resources perPage (appendClauses address clauses))).flatMap
        Visit.entries).length = resources.length := by
    rw [hentries, List.length_map]
  obtain ⟨houtcomes, hsent⟩ :=
    Cursor.polls_read_all hchain hfailure hconvert (hlength ▸ hcount) hpatience
  refine ⟨?_, ?_⟩
  · rw [hlength, hentries, List.map_map] at houtcomes
    exact houtcomes
  · rw [List.map_map] at hsent
    exact hsent

/-! ### A server with two pages -/

/-- A server with two contacts, of which one fits on a page. -/
inductive Pair where
  | open

namespace Pair

/-- The contacts as they are sent. -/
def contacts : List (Members Json) :=
  [[("$key", .text "C1")], [("$key", .text "C2")]]

/-- The text of the first page. -/
def firstPage : String :=
  "\x7b\"$itemsPerPage\":1,\"$resources\":[\x7b\"$key\":\"C1\"\x7d],"
    ++ "\"$startIndex\":1,\"$totalResults\":2\x7d"

/-- The text of the second page. -/
def secondPage : String :=
  "\x7b\"$itemsPerPage\":1,\"$resources\":[\x7b\"$key\":\"C2\"\x7d],"
    ++ "\"$startIndex\":2,\"$totalResults\":2\x7d"

/-- The members of a page. -/
def members (start : Nat) (key : String) : Members Json :=
  [("$itemsPerPage", .integer 1), ("$resources", .array [.object [("$key", .text key)]]),
    ("$startIndex", .integer start), ("$totalResults", .integer 2)]

/-- The position that an address asks for, as it is written there. -/
def asked (address : String) : List (List Char) :=
  (Address.parameters address.toList).filter (Address.hasName "startIndex".toList)

/-- The page for an address. -/
def answer (address : String) : Response :=
  if asked address = [] ∨ asked address = ["startIndex=1".toList] then
    ⟨200, none, Text.asciiBytes firstPage⟩
  else if asked address = ["startIndex=2".toList] then
    ⟨200, none, Text.asciiBytes secondPage⟩
  else ⟨404, none, []⟩

instance : Peer Pair where
  answer request server := (.ok (answer request.url), server)

set_option maxRecDepth 4000 in
theorem read_firstPage :
    Json.ofBytes? (Text.asciiBytes firstPage) = some (.object (members 1 "C1")) := by
  have htext : Json.ofText? firstPage = some (.object (members 1 "C1")) := by cbv
  rw [Json.ofBytes?_asciiBytes (by decide), htext]

set_option maxRecDepth 4000 in
theorem read_secondPage :
    Json.ofBytes? (Text.asciiBytes secondPage) = some (.object (members 2 "C2")) := by
  have htext : Json.ofText? secondPage = some (.object (members 2 "C2")) := by cbv
  rw [Json.ofBytes?_asciiBytes (by decide), htext]

theorem servesPages : ServesPages Pair contacts 1 := by
  intro address start peer hasks hstart hreach
  have hlength : max 1 contacts.length = 2 := rfl
  have hwritten : ("startIndex=" ++ toString 1).toList = "startIndex=1".toList ∧
      ("startIndex=" ++ toString 2).toList = "startIndex=2".toList := by decide
  have hcases : start = 1 ∨ start = 2 := by omega
  rcases hcases with rfl | rfl
  · have hasked : asked address = [] ∨ asked address = ["startIndex=1".toList] := by
      rcases hasks with ⟨hnone, -⟩ | hone
      · exact .inl hnone
      · rw [hwritten.1] at hone
        exact .inr hone
    have hanswer : answer address = ⟨200, none, Text.asciiBytes firstPage⟩ := by
      unfold answer
      rw [if_pos hasked]
    refine ⟨answer address, members 1 "C1", rfl, ?_, ?_, ⟨rfl, rfl, rfl, rfl, rfl⟩⟩
    · rw [hanswer]
      rfl
    · rw [hanswer]
      exact read_firstPage
  · rcases hasks with ⟨-, hfirst⟩ | hasked
    · cases hfirst
    rw [hwritten.2] at hasked
    change asked address = _ at hasked
    have hanswer : answer address = ⟨200, none, Text.asciiBytes secondPage⟩ := by
      unfold answer
      rw [hasked, if_neg (by decide), if_pos rfl]
    refine ⟨answer address, members 2 "C2", rfl, ?_, ?_, ⟨rfl, rfl, rfl, rfl, rfl⟩⟩
    · rw [hanswer]
      rfl
    · rw [hanswer]
      exact read_secondPage

/-- A site with contacts. -/
def site : Site :=
  .ofBase "https://x/sdata" (.ofCatalog [⟨"Contact", "contacts", ⟨"Contact", "Contact", []⟩⟩])

/-- The contacts of one name. -/
def namedTom : Chain :=
  .filter (.source "Contact") (.binary .eq (.field "FirstName") (.constant (.text "Tom")))

/-- Only the key of an entry is of interest. -/
def readKey : Conversion (Option String) :=
  fun entry versions => (pure entry.key, versions)

/-- A link on which nothing has happened. -/
def untouched : Link Pair :=
  ⟨.empty none, .open, [], []⟩

/-- The query for them reads two pages, although it would like ten contacts on each. -/
theorem delivers_pair :
    (Cursor.polls readKey 3 4 (.start (Client.withPageSize (some 10)
        "https://x/sdata/-/contacts?where=(FirstName eq 'Tom')")) untouched).1 =
      [.item (some "C1"), .item (some "C2"), .ended, .ended] ∧
    (Cursor.polls readKey 3 4 (.start (Client.withPageSize (some 10)
        "https://x/sdata/-/contacts?where=(FirstName eq 'Tom')")) untouched).2.2.sent =
      [Request.read "https://x/sdata/-/contacts?where=(FirstName eq 'Tom')&count=10",
        Request.read
          "https://x/sdata/-/contacts?where=(FirstName eq 'Tom')&count=10&startIndex=2"] := by
  have htarget : site.target namedTom =
      .ok ⟨"https://x/sdata/-/contacts?where=(FirstName eq 'Tom')", none⟩ := rfl
  have hpath : ∀ path, site.resolver.pathOf namedTom.kind = .ok path → '?' ∉ path.toList := by
    intro path hpath
    have hcontacts : site.resolver.pathOf namedTom.kind = .ok "contacts" := rfl
    rw [hcontacts] at hpath
    rw [← Except.ok.inj hpath]
    decide
  have htexts : ∀ text ∈ namedTom.spelledTexts, '&' ∉ text.toList := by
    simp only [namedTom, Chain.spelledTexts, Expr.spelledTexts, Expr.field]
    decide
  have hconvert : ∀ entry ∈ contacts.map Entry.ofMembers, ∀ versions : VersionStore,
      (readKey entry versions).1.outcome = .ok entry.key := fun entry _ versions => rfl
  obtain ⟨houtcomes, hsent⟩ := paged_read_delivers_once htarget (by decide) hpath htexts
    (Nat.le_refl 1) (by decide) servesPages hconvert (some 10) untouched
    (by decide : contacts.length < 4) (by decide : pageCount contacts.length 1 < 3)
  refine ⟨houtcomes, ?_⟩
  rw [hsent]
  rfl

end Pair

end ResourceFeed
