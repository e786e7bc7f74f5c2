import Mathlib.Data.List.Basic
import Mathlib.Logic.Relation
import ResourceFeed.Resource.Catalog

/-! # Resolving kinds

    The resolver looks a kind up in its index, which one pass over the catalog
    has made, and answers by the positions that it finds there.  These are
    exactly the positions of the registrations that have the kind, ascending.

    So the answers for a kind follow from the registrations *under* it, in the
    order in which they were made: without one the kind is unknown, one alone
    is the answer, and several are listed as ambiguous.  A change elsewhere,
    that is, at registrations of other kinds, leaves the answers as they are.

    The main statement is `kinds_resolve_exactly`.
-/

namespace ResourceFeed

open Relation (ReflTransGen)

/-! ### The registrations under a kind -/

namespace Catalog

/-- The registrations that have a kind, in the order in which they were made. -/
def under (catalog : Catalog) (kind : String) : Catalog :=
  catalog.filter fun registration => registration.kind == kind

theorem mem_under {catalog : Catalog} {kind : String} {registration : Registration} :
    registration ∈ catalog.under kind ↔ registration ∈ catalog ∧ registration.kind = kind := by
  rw [under, List.mem_filter, beq_iff_eq]

theorem mem_of_under_eq_singleton {catalog : Catalog} {kind : String} {registration : Registration}
    (hone : catalog.under kind = [registration]) :
    registration ∈ catalog ∧ registration.kind = kind := by
  rw [← mem_under, hone]
  exact List.mem_singleton_self _

theorem under_append (front back : Catalog) (kind : String) :
    under (front ++ back) kind = front.under kind ++ back.under kind :=
  List.filter_append _ _

theorem under_cons (registration : Registration) (rest : Catalog) (kind : String) :
    under (registration :: rest) kind =
      if registration.kind = kind then registration :: rest.under kind else rest.under kind := by
  rw [under, List.filter_cons]
  simp only [beq_iff_eq]
  rfl

end Catalog

/-! ### The index -/

namespace KindIndex

theorem positions_add (index : KindIndex) (kind other : String) (position : Nat) :
    (index.add kind position).positions other =
      if other = kind then index.positions kind ++ [position] else index.positions other := by
  rw [positions, add, Members.get?_insert]
  split <;> rfl

/-- A pass over a catalog adds the positions of the registrations that have the kind, behind those
    that are there. -/
theorem positions_addFrom (index : KindIndex) (start : Nat) (catalog : Catalog) (kind : String) :
    (index.addFrom start catalog).positions kind =
      index.positions kind ++
        catalog.findIdxs (fun registration => registration.kind == kind) start := by
  induction catalog generalizing index start with
  | nil => exact (List.append_nil _).symm
  | cons first rest ih =>
    rw [addFrom, ih, positions_add, List.findIdxs_cons]
    by_cases hkind : first.kind = kind
    · rw [if_pos hkind.symm, if_pos (beq_iff_eq.mpr hkind), hkind, List.append_assoc]
      rfl
    · rw [if_neg (Ne.symm hkind), if_neg (by rw [beq_iff_eq]; exact hkind)]

/-- The index has the positions of the registrations with a kind, ascending and no others. -/
theorem positions_ofCatalog (catalog : Catalog) (kind : String) :
    (ofCatalog catalog).positions kind =
      catalog.findIdxs fun registration => registration.kind == kind := by
  rw [ofCatalog, positions_addFrom]
  rfl

end KindIndex

/-- What stands at the positions of a list that have a property are the items that have it. -/
theorem filterMap_findIdxs (front rest : List α) (holds : α → Bool) :
    (rest.findIdxs holds front.length).filterMap (fun position => (front ++ rest)[position]?) =
      rest.filter holds := by
  induction rest generalizing front with
  | nil => rfl
  | cons first rest ih =>
    have hrest := ih (front ++ [first])
    rw [List.length_append, List.append_assoc] at hrest
    have hfirst : (front ++ first :: rest)[front.length]? = some first := by simp
    rw [List.findIdxs_cons]
    cases hholds : holds first with
    | true =>
      rw [if_pos rfl, List.filter_cons_of_pos hholds, List.filterMap_cons, hfirst]
      exact congrArg (first :: ·) hrest
    | false =>
      rw [if_neg Bool.false_ne_true, List.filter_cons_of_neg (by simp [hholds])]
      exact hrest

/-! ### The answers for a kind -/

namespace Resolver

variable {catalog other : Catalog} {kind : String} {registration : Registration}

/-- The resolver finds what the catalog has under a kind. -/
theorem registrations_ofCatalog (catalog : Catalog) (kind : String) :
    (ofCatalog catalog).registrations kind = catalog.under kind := by
  rw [registrations, ofCatalog, KindIndex.positions_ofCatalog]
  exact filterMap_findIdxs [] catalog _

theorem registration_eq_ok_iff :
    (ofCatalog catalog).registration kind = .ok registration ↔
      catalog.under kind = [registration] := by
  rw [Resolver.registration, registrations_ofCatalog]
  rcases catalog.under kind with _ | ⟨first, _ | ⟨second, rest⟩⟩ <;> simp

theorem registration_unknown_iff :
    (ofCatalog catalog).registration kind = .error (.unknownKind kind) ↔
      catalog.under kind = [] := by
  rw [Resolver.registration, registrations_ofCatalog]
  rcases catalog.under kind with _ | ⟨first, _ | ⟨second, rest⟩⟩ <;> simp

theorem registration_ambiguous_iff {types : List String} :
    (ofCatalog catalog).registration kind =
        .error (.ambiguousType kind (.registeredOften types)) ↔
      2 ≤ (catalog.under kind).length ∧
        types = (catalog.under kind).map fun registration => registration.type.name.shown := by
  rw [Resolver.registration, registrations_ofCatalog]
  rcases catalog.under kind with _ | ⟨first, _ | ⟨second, rest⟩⟩ <;> simp [eq_comm]

/-- Two catalogs with the same registrations under a kind answer alike for it. -/
theorem registration_congr (hunder : other.under kind = catalog.under kind) :
    (ofCatalog other).registration kind = (ofCatalog catalog).registration kind := by
  rw [Resolver.registration, Resolver.registration, registrations_ofCatalog,
    registrations_ofCatalog, hunder]

theorem pathOf_eq_ok_iff {path : String} :
    (ofCatalog catalog).pathOf kind = .ok path ↔
      ∃ registration, catalog.under kind = [registration] ∧ registration.path = path := by
  simp only [← registration_eq_ok_iff]
  rw [pathOf]
  cases (ofCatalog catalog).registration kind <;> simp [Except.map]

/-- Without a registration there is no path, for the same reason. -/
theorem pathOf_eq_error_iff {failure : Failure} :
    (ofCatalog catalog).pathOf kind = .error failure ↔
      (ofCatalog catalog).registration kind = .error failure := by
  rw [pathOf]
  cases (ofCatalog catalog).registration kind <;> simp [Except.map]

/-- A type is instantiated if the one registration under its kind is of this type. -/
theorem blank_eq_ok_iff {type : EntityType} {entity : Entity} :
    (ofCatalog catalog).blank type = .ok entity ↔
      ∃ registration, catalog.under type.kind = [registration] ∧
        registration.type.name.identity = type.name.identity ∧
          entity = registration.type.fresh := by
  simp only [← registration_eq_ok_iff]
  rw [blank]
  cases (ofCatalog catalog).registration type.kind with
  | error failure => simp [bind, Except.bind]
  | ok found =>
    by_cases hsame : found.type.name.identity = type.name.identity
    · simp [bind, Except.bind, pure, Except.pure, hsame, eq_comm]
    · simp [bind, Except.bind, throw, throwThe, MonadExceptOf.throw, hsame]

end Resolver

/-! ### Changes elsewhere -/

namespace Catalog

/-- One change to a catalog at a registration of another kind. -/
inductive ChangedElsewhere (kind : String) : Catalog → Catalog → Prop where
  | added (front back : Catalog) {registration : Registration}
      (hother : registration.kind ≠ kind) :
      ChangedElsewhere kind (front ++ back) (front ++ registration :: back)
  | removed (front back : Catalog) {registration : Registration}
      (hother : registration.kind ≠ kind) :
      ChangedElsewhere kind (front ++ registration :: back) (front ++ back)
  /-- Two neighbours change places, of which one at least has another kind. -/
  | swapped (front back : Catalog) {first second : Registration}
      (hother : first.kind ≠ kind ∨ second.kind ≠ kind) :
      ChangedElsewhere kind (front ++ first :: second :: back) (front ++ second :: first :: back)

namespace ChangedElsewhere

variable {kind : String} {catalog other : Catalog}

instance : Std.Symm (ChangedElsewhere kind) where
  symm _ _ hchanged := by
    cases hchanged with
    | added front back hother => exact .removed front back hother
    | removed front back hother => exact .added front back hother
    | swapped front back hother => exact .swapped front back hother.symm

/-- What is under the kind stays, in its order. -/
theorem under_eq (hchanged : ChangedElsewhere kind catalog other) :
    other.under kind = catalog.under kind := by
  cases hchanged with
  | added front back hother => rw [under_append, under_append, under_cons, if_neg hother]
  | removed front back hother => rw [under_append, under_append, under_cons, if_neg hother]
  | swapped front back hother =>
    rw [under_append, under_append]
    congr 1
    rcases hother with hfirst | hsecond
    · simp only [under_cons, if_neg hfirst]
    · simp only [under_cons, if_neg hsecond]

/-- Registering a type under another kind is a change elsewhere. -/
theorem registerAs (catalog : Catalog) {other : String} (hother : other ≠ kind)
    (type : EntityType) (path : String) :
    ChangedElsewhere kind catalog (catalog.registerAs other type path) := by
  have hadded : ChangedElsewhere kind (catalog ++ []) (catalog.registerAs other type path) :=
    .added catalog [] hother
  rw [List.append_nil] at hadded
  exact hadded

/-- One after the other, all registrations of other kinds can be removed. -/
theorem changes_to_under (front catalog : Catalog) :
    ReflTransGen (ChangedElsewhere kind) (front ++ catalog) (front ++ catalog.under kind) := by
  induction catalog generalizing front with
  | nil => exact .refl
  | cons first rest ih =>
    rw [under_cons]
    by_cases hkind : first.kind = kind
    · have hrest := ih (front ++ [first])
      rw [List.append_assoc, List.append_assoc] at hrest
      rw [if_pos hkind]
      exact hrest
    · rw [if_neg hkind]
      exact .head (.removed front rest hkind) (ih front)

end ChangedElsewhere

/-- Changes elsewhere lead to all catalogs with the same registrations under the kind, and to no
    others. -/
theorem changes_iff_under_eq {kind : String} {catalog other : Catalog} :
    ReflTransGen (ChangedElsewhere kind) catalog other ↔ other.under kind = catalog.under kind := by
  constructor
  · intro hchanges
    induction hchanges with
    | refl => rfl
    | tail _ hlast ih => rw [hlast.under_eq, ih]
  · intro hunder
    have hback : ReflTransGen (ChangedElsewhere kind) (other.under kind) other :=
      ReflTransGen.stdSymm.symm _ _ (ChangedElsewhere.changes_to_under [] other)
    rw [hunder] at hback
    exact (ChangedElsewhere.changes_to_under [] catalog).trans hback

end Catalog

/-! ### Main statement -/

/-- **Kinds resolve exactly.**  Whatever the registrations of a catalog are, a kind leads to a path
    exactly if one registration alone has the kind, and to the path of that; it is unknown exactly
    if none has it, and ambiguous exactly if several have it, whose types are then listed in the
    order in which they were registered.

    A type is instantiated exactly if one registration alone has its kind and is of this type.
    Types go by their identities, whatever they are called: an entity of the registered type comes
    out, which is the type that was asked for, as an identity is that of one type.

    However registrations of other kinds are added, removed and moved, all answers stay. -/
theorem kinds_resolve_exactly (catalog : Catalog) (kind : String) :
    (∀ path, (Resolver.ofCatalog catalog).pathOf kind = .ok path ↔
      ∃ registration, catalog.under kind = [registration] ∧ registration.path = path) ∧
    ((Resolver.ofCatalog catalog).pathOf kind = .error (.unknownKind kind) ↔
      catalog.under kind = []) ∧
    (∀ types, (Resolver.ofCatalog catalog).pathOf kind =
        .error (.ambiguousType kind (.registeredOften types)) ↔
      2 ≤ (catalog.under kind).length ∧
        types = (catalog.under kind).map fun registration => registration.type.name.shown) ∧
    (∀ type entity, type.kind = kind →
      ((Resolver.ofCatalog catalog).blank type = .ok entity ↔
        ∃ registration, catalog.under kind = [registration] ∧
          registration.type.name.identity = type.name.identity ∧
          entity = registration.type.fresh)) ∧
    (∀ type : EntityType, type.kind = kind →
      (∀ registration ∈ catalog, registration.type.name.identity = type.name.identity →
        registration.type = type) →
      ((Resolver.ofCatalog catalog).blank type = .ok type.fresh ↔
        ∃ registration, catalog.under kind = [registration] ∧ registration.type = type)) ∧
    (∀ other, ReflTransGen (Catalog.ChangedElsewhere kind) catalog other →
      (Resolver.ofCatalog other).pathOf kind = (Resolver.ofCatalog catalog).pathOf kind ∧
      ∀ type : EntityType, type.kind = kind →
        (Resolver.ofCatalog other).blank type = (Resolver.ofCatalog catalog).blank type) := by
  refine ⟨fun path => Resolver.pathOf_eq_ok_iff,
    Resolver.pathOf_eq_error_iff.trans Resolver.registration_unknown_iff,
    fun types => Resolver.pathOf_eq_error_iff.trans Resolver.registration_ambiguous_iff,
    ?_, ?_, ?_⟩
  · rintro type entity rfl
    exact Resolver.blank_eq_ok_iff
  · rintro type rfl hidentity
    rw [Resolver.blank_eq_ok_iff]
    constructor
    · rintro ⟨registration, hone, hsame, -⟩
      obtain ⟨hmem, -⟩ := Catalog.mem_of_under_eq_singleton hone
      exact ⟨registration, hone, hidentity registration hmem hsame⟩
    · rintro ⟨registration, hone, rfl⟩
      exact ⟨registration, hone, rfl, rfl⟩
  · intro other hchanges
    have hfound := Resolver.registration_congr (Catalog.changes_iff_under_eq.mp hchanges)
    refine ⟨by rw [Resolver.pathOf, Resolver.pathOf, hfound], ?_⟩
    rintro type rfl
    rw [Resolver.blank, Resolver.blank, hfound]

namespace Tickets

def ticket : EntityType :=
  ⟨"Ticket", "Ticket", [.writable "Subject" "subject" (.plain .text)]⟩

/-- Another type of tickets, which is called the same. -/
def otherTicket : EntityType :=
  ⟨⟨"OtherTicket", "Ticket"⟩, "Ticket", []⟩

/-- A catalog that knows tickets. -/
def catalog : Catalog :=
  Catalog.register [] ticket "tickets"

/-- The same with two registrations of leads. -/
def withLeads : Catalog :=
  (catalog.registerAs "Lead" ticket "leads").registerAs "Lead" otherTicket "otherLeads"

/-- Tickets resolve, and still do when leads are registered twice; another type of their kind is not
    instantiated, although it is called the same. -/
theorem tickets_resolve_beside_leads :
    (Resolver.ofCatalog catalog).pathOf ticket.kind = .ok "tickets" ∧
      (Resolver.ofCatalog catalog).blank ticket = .ok ticket.fresh ∧
      (∀ entity, (Resolver.ofCatalog catalog).blank otherTicket ≠ .ok entity) ∧
      (Resolver.ofCatalog withLeads).pathOf ticket.kind = .ok "tickets" ∧
      (Resolver.ofCatalog withLeads).blank ticket = .ok ticket.fresh := by
  obtain ⟨hpath, -, -, hmade, hblank, hstays⟩ := kinds_resolve_exactly catalog ticket.kind
  have hone : catalog.under ticket.kind = [⟨"Ticket", "tickets", ticket⟩] := rfl
  have hidentity : ∀ registration ∈ catalog,
      registration.type.name.identity = ticket.name.identity → registration.type = ticket := by
    intro registration hmem _
    cases List.mem_singleton.mp hmem
    rfl
  have hchanges : ReflTransGen (Catalog.ChangedElsewhere ticket.kind) catalog withLeads :=
    .tail (.single (.registerAs catalog (by decide) ticket "leads"))
      (.registerAs _ (by decide) otherTicket "otherLeads")
  obtain ⟨hpathStays, hblankStays⟩ := hstays withLeads hchanges
  have hpathFound := (hpath "tickets").mpr ⟨_, hone, rfl⟩
  have hblankMade := (hblank ticket rfl hidentity).mpr ⟨_, hone, rfl⟩
  refine ⟨hpathFound, hblankMade, ?_, hpathStays.trans hpathFound,
    (hblankStays ticket rfl).trans hblankMade⟩
  intro entity hother
  obtain ⟨registration, hunder, hsame, -⟩ := (hmade otherTicket entity rfl).mp hother
  rw [hone] at hunder
  cases hunder
  exact absurd hsame (by decide)

/-- Two registrations of tickets are listed by what they are called. -/
example : (Resolver.ofCatalog (catalog.register otherTicket "otherTickets")).pathOf "Ticket" =
    .error (.ambiguousType "Ticket" (.registeredOften ["Ticket", "Ticket"])) := rfl

end Tickets

end ResourceFeed
