import ResourceFeed.Proofs.Query.Nodes
import ResourceFeed.Query.Target

/-! # Chains read from the source outward

    The target of a chain is found by two recursions, one over filters and
    projections and one over inclusions, and each goes from the outermost
    clause to the source.  Here a chain is the flat list of its *layers*, from
    the source outward, and its target is read off that list:

    - the filters in order, then the projection, then all inclusions in one
      clause, whatever the order in which the three sorts were mixed;
    - or else the failure of the innermost layer that is out of place or has
      a predicate without text.
-/

namespace ResourceFeed

/-! ### Layers -/

/-- A clause of a chain, without the chain that it is applied to. -/
inductive Layer where
  | filter (predicate : Expr)
  | project (selector : Expr)
  | related (member : String)

namespace Layer

/-- The predicate of a filter. -/
def predicate? : Layer → Option Expr
  | .filter predicate => some predicate
  | _ => none

/-- The selector of a projection. -/
def selector? : Layer → Option Expr
  | .project selector => some selector
  | _ => none

/-- The member that an inclusion names. -/
def member? : Layer → Option String
  | .related member => some member
  | _ => none

/-- Why a layer cannot stand where it does; `projected` says whether a projection is nearer to the
    source. -/
def offence? (projected : Bool) : Layer → Option Failure
  | .filter predicate =>
    if projected then some (.invalidShape .filterAfterProjection)
    else predicate.firstUnsupported?
  | .project _ => if projected then some (.invalidShape .projectionAfterProjection) else none
  | .related _ => none

/-- The offence of the layer nearest to the source that has one. -/
def innermostOffence? (projected : Bool) : List Layer → Option Failure
  | [] => none
  | layer :: rest =>
    (layer.offence? projected).or (innermostOffence? (projected || layer.selector?.isSome) rest)

theorem innermostOffence?_concat (projected : Bool) (layers : List Layer) (last : Layer) :
    innermostOffence? projected (layers ++ [last]) =
      (innermostOffence? projected layers).or
        (last.offence? (projected || layers.any (·.selector?.isSome))) := by
  induction layers generalizing projected with
  | nil => simp [innermostOffence?]
  | cons layer rest ih => simp [innermostOffence?, ih, Option.or_assoc, Bool.or_assoc]

/-- Inclusions have no part in the innermost offence. -/
theorem innermostOffence?_steps (projected : Bool) (layers : List Layer) :
    innermostOffence? projected (layers.filter fun layer => layer.member?.isNone) =
      innermostOffence? projected layers := by
  induction layers generalizing projected with
  | nil => rfl
  | cons layer rest ih =>
    cases layer with
    | related member =>
      -- an inclusion is no offence and no projection
      rw [List.filter_cons_of_neg (by simp [member?]), ih, innermostOffence?]
      simp [offence?, selector?]
    | filter predicate => rw [List.filter_cons_of_pos rfl, innermostOffence?, ih, innermostOffence?]
    | project selector => rw [List.filter_cons_of_pos rfl, innermostOffence?, ih, innermostOffence?]

/-- Layers that can be sent to a server. -/
structure Sendable (layers : List Layer) : Prop where
  /-- Nothing but inclusions comes after a projection. -/
  projectsLast : layers.Pairwise fun earlier later =>
    earlier.selector?.isSome → later.member?.isSome
  /-- Every predicate has a text. -/
  haveTexts : ∀ predicate ∈ layers.filterMap predicate?, ∃ text, predicate.predicateText = .ok text

theorem sendable_nil : Sendable [] :=
  ⟨List.Pairwise.nil, fun _ h => nomatch h⟩

/-- A layer is no offence if it is an inclusion or has no projection before it, and any predicate of
    it has a text. -/
theorem offence?_eq_none_iff (projected : Bool) (layer : Layer) :
    layer.offence? projected = none ↔
      (projected → layer.member?.isSome) ∧
        ∀ predicate ∈ layer.predicate?, ∃ text, predicate.predicateText = .ok text := by
  cases layer with
  | filter predicate =>
    cases projected with
    | false => simp [offence?, predicate?, predicate.firstUnsupported?_eq_none_iff]
    | true => simp [offence?, member?]
  | project selector => simp [offence?, predicate?, member?]
  | related member => simp [offence?, predicate?, member?]

/-- One more layer can be sent if it is no offence. -/
theorem sendable_concat (layers : List Layer) (last : Layer) :
    Sendable (layers ++ [last]) ↔
      Sendable layers ∧ last.offence? (layers.any (·.selector?.isSome)) = none := by
  rw [offence?_eq_none_iff]
  have hprojected : (layers.any (·.selector?.isSome) → last.member?.isSome) ↔
      ∀ earlier ∈ layers, earlier.selector?.isSome → last.member?.isSome := by
    simp only [List.any_eq_true]
    exact ⟨fun h earlier hmem hselector => h ⟨earlier, hmem, hselector⟩,
      fun h ⟨earlier, hmem, hselector⟩ => h earlier hmem hselector⟩
  have hpredicate : ∀ predicate, predicate ∈ [last].filterMap predicate? ↔
      predicate ∈ last.predicate? := by
    simp
  rw [hprojected]
  constructor
  · rintro ⟨hlast, htexts⟩
    obtain ⟨hlayers, -, hlast⟩ := List.pairwise_append.mp hlast
    simp only [List.filterMap_append, List.mem_append, hpredicate] at htexts
    exact ⟨⟨hlayers, fun predicate h => htexts predicate (.inl h)⟩,
      fun earlier h => hlast earlier h last List.mem_cons_self,
      fun predicate h => htexts predicate (.inr h)⟩
  · rintro ⟨⟨hlayers, htexts⟩, hlast, htext⟩
    refine ⟨List.pairwise_append.mpr ⟨hlayers, List.pairwise_singleton _ _, ?_⟩, ?_⟩
    · intro earlier h later hlater
      exact List.mem_singleton.mp hlater ▸ hlast earlier h
    · simp only [List.filterMap_append, List.mem_append, hpredicate]
      rintro predicate (h | h)
      · exact htexts predicate h
      · exact htext predicate h

/-- A list of layers followed by another can be sent if the first one can, and the second one has no
    offence behind it. -/
theorem sendable_append (inner outer : List Layer) :
    Sendable (inner ++ outer) ↔
      Sendable inner ∧ innermostOffence? (inner.any (·.selector?.isSome)) outer = none := by
  induction outer generalizing inner with
  | nil => simp [innermostOffence?]
  | cons layer rest ih =>
    rw [← List.singleton_append, ← List.append_assoc, ih, sendable_concat, and_assoc]
    simp [innermostOffence?]

/-- What comes before the innermost offence can be sent. -/
theorem exists_innermostOffence {failure : Failure} (inner outer : List Layer)
    (hinner : Sendable inner)
    (h : innermostOffence? (inner.any (·.selector?.isSome)) outer = some failure) :
    ∃ between layer rest, outer = between ++ layer :: rest ∧ Sendable (inner ++ between) ∧
      layer.offence? ((inner ++ between).any (·.selector?.isSome)) = some failure := by
  induction outer generalizing inner with
  | nil => cases h
  | cons layer rest ih =>
    rw [innermostOffence?] at h
    cases hlayer : layer.offence? (inner.any (·.selector?.isSome)) with
    | some first =>
      -- this layer is the innermost offence
      rw [hlayer, Option.some_or] at h
      exact ⟨[], layer, rest, rfl, by rwa [List.append_nil], by rw [List.append_nil, hlayer, h]⟩
    | none =>
      -- it is further out, and this layer joins the ones that can be sent
      rw [hlayer, Option.none_or] at h
      have hmore : Sendable (inner ++ [layer]) := (sendable_concat inner layer).mpr ⟨hinner, hlayer⟩
      obtain ⟨between, last, outermost, hrest, hsend, hlast⟩ := ih (inner ++ [layer]) hmore
        (by rw [List.any_append, List.any_cons, List.any_nil, Bool.or_false, h])
      rw [List.append_assoc, List.singleton_append] at hsend hlast
      exact ⟨layer :: between, last, outermost, by rw [hrest]; rfl, hsend, hlast⟩

end Layer

namespace Chain

/-- The layers of a chain, from the source outward. -/
def layers : Chain → List Layer
  | .source _ => []
  | .filter input predicate => input.layers ++ [.filter predicate]
  | .project input selector => input.layers ++ [.project selector]
  | .related input member => input.layers ++ [.related member]

/-- The predicates of the filters, from the source outward. -/
def filters (chain : Chain) : List Expr :=
  chain.layers.filterMap Layer.predicate?

/-- The selectors of the projections, from the source outward. -/
def selectors (chain : Chain) : List Expr :=
  chain.layers.filterMap Layer.selector?

/-- The members of the inclusions, from the source outward. -/
def inclusions (chain : Chain) : List String :=
  chain.layers.filterMap Layer.member?

/-- The layers without the inclusions, from the source outward. -/
def steps (chain : Chain) : List Layer :=
  chain.layers.filter fun layer => layer.member?.isNone

/-- The offence of the innermost layer that has one. -/
def offence? (chain : Chain) : Option Failure :=
  Layer.innermostOffence? false chain.layers

section layerByLayer
variable (input : Chain) (predicate selector : Expr) (member : String)

@[simp] theorem filters_filter :
    (filter input predicate).filters = input.filters ++ [predicate] :=
  List.filterMap_append

@[simp] theorem filters_project : (project input selector).filters = input.filters :=
  List.filterMap_append.trans (List.append_nil _)

@[simp] theorem filters_related : (related input member).filters = input.filters :=
  List.filterMap_append.trans (List.append_nil _)

@[simp] theorem selectors_filter : (filter input predicate).selectors = input.selectors :=
  List.filterMap_append.trans (List.append_nil _)

@[simp] theorem selectors_project :
    (project input selector).selectors = input.selectors ++ [selector] :=
  List.filterMap_append

@[simp] theorem selectors_related : (related input member).selectors = input.selectors :=
  List.filterMap_append.trans (List.append_nil _)

@[simp] theorem inclusions_filter : (filter input predicate).inclusions = input.inclusions :=
  List.filterMap_append.trans (List.append_nil _)

@[simp] theorem inclusions_project : (project input selector).inclusions = input.inclusions :=
  List.filterMap_append.trans (List.append_nil _)

@[simp] theorem inclusions_related :
    (related input member).inclusions = input.inclusions ++ [member] :=
  List.filterMap_append

/-- A chain projects if one of its layers does. -/
theorem any_selector?_layers (chain : Chain) :
    chain.layers.any (·.selector?.isSome) = chain.selectors.head?.isSome := by
  rw [selectors, List.head?_filterMap, List.isSome_findSome?]

theorem offence?_filter : (filter input predicate).offence? =
    input.offence?.or
      ((Layer.filter predicate).offence? input.selectors.head?.isSome) := by
  rw [offence?, layers, Layer.innermostOffence?_concat, Bool.false_or, any_selector?_layers]
  rfl

theorem offence?_project : (project input selector).offence? =
    input.offence?.or ((Layer.project selector).offence? input.selectors.head?.isSome) := by
  rw [offence?, layers, Layer.innermostOffence?_concat, Bool.false_or, any_selector?_layers]
  rfl

theorem offence?_related : (related input member).offence? = input.offence? := by
  rw [offence?, layers, Layer.innermostOffence?_concat]
  exact Option.or_none

end layerByLayer

/-- The two readings of the inclusions agree. -/
theorem relatedMembers_eq (chain : Chain) : chain.relatedMembers = chain.inclusions := by
  induction chain with
  | source kind => rfl
  | filter input predicate ih => rw [inclusions_filter, ← ih, relatedMembers]
  | project input selector ih => rw [inclusions_project, ← ih, relatedMembers]
  | related input member ih => rw [inclusions_related, ← ih, relatedMembers]

end Chain

/-! ### Clauses -/

/-- The text of a predicate, empty if there is none. -/
def Expr.text (predicate : Expr) : String :=
  match predicate.predicateText with
  | .ok text => text
  | .error _ => ""

/-- The text of a predicate, or else its first unsupported node. -/
theorem Expr.predicateText_eq (predicate : Expr) :
    predicate.predicateText = match predicate.firstUnsupported? with
      | some failure => .error failure
      | none => .ok predicate.text := by
  rcases predicate.predicateText_cases with ⟨text, hnone, htext⟩ | ⟨failure, hsome, herror⟩
  · rw [hnone, Expr.text, htext]
  · rw [hsome, herror]

namespace Chain

/-- The clauses of filters and selectors, one for each. -/
def flatClauses (filters selectors : List Expr) : Clauses :=
  ⟨filters.map (fun predicate => "where=" ++ predicate.text) ++
      selectors.map fun selector => "select=" ++ selector.selectList,
    selectors.head?⟩

/-- The clauses of a chain, read off its layers. -/
theorem clauses_eq (chain : Chain) :
    chain.clauses = match chain.offence? with
      | some failure => .error failure
      | none => .ok (flatClauses chain.filters chain.selectors) := by
  induction chain with
  | source kind => rfl
  | related input member ih => rw [clauses, ih, offence?_related, filters_related, selectors_related]
  | filter input predicate ih =>
    rw [clauses, ih, offence?_filter, filters_filter, selectors_filter]
    cases input.offence? with
    | some failure => rfl
    | none =>
      rw [Option.none_or]
      cases input.selectors with
      | cons selector rest => rfl
      | nil =>
        -- nothing is projected, so all depends on the text of the predicate
        have hoffence : (Layer.filter predicate).offence? ([] : List Expr).head?.isSome
            = predicate.firstUnsupported? := rfl
        rw [predicate.predicateText_eq, hoffence]
        cases predicate.firstUnsupported? with
        | some failure => rfl
        | none =>
          simp only [flatClauses, List.map_append, List.map_cons, List.map_nil, List.append_nil]
          rfl
  | project input selector ih =>
    rw [clauses, ih, offence?_project, filters_project, selectors_project]
    cases input.offence? with
    | some failure => rfl
    | none =>
      rw [Option.none_or]
      cases input.selectors with
      | cons selector rest => rfl
      | nil =>
        simp only [flatClauses, List.map_nil, List.append_nil]
        rfl

/-- A chain has no offence if its layers can be sent. -/
theorem offence?_eq_none_iff (chain : Chain) :
    chain.offence? = none ↔ Layer.Sendable chain.layers := by
  have happend := Layer.sendable_append [] chain.layers
  rw [List.nil_append] at happend
  exact ⟨fun h => happend.mpr ⟨Layer.sendable_nil, h⟩, fun h => (happend.mp h).2⟩

/-- The layers inside the innermost offence of a chain can be sent. -/
theorem exists_offence {chain : Chain} {failure : Failure} (h : chain.offence? = some failure) :
    ∃ inner layer outer, chain.layers = inner ++ layer :: outer ∧ Layer.Sendable inner ∧
      layer.offence? (inner.any (·.selector?.isSome)) = some failure :=
  Layer.exists_innermostOffence [] chain.layers Layer.sendable_nil h

/-- The texts of the filters of a chain that can be sent. -/
theorem map_predicateText {chain : Chain} (h : Layer.Sendable chain.layers) :
    chain.filters.map Expr.predicateText = (chain.filters.map Expr.text).map .ok := by
  rw [List.map_map]
  refine List.map_congr_left fun predicate hmem => ?_
  obtain ⟨text, htext⟩ := h.haveTexts predicate hmem
  rw [Function.comp, Expr.text, htext]

/-! ### Inclusions apart -/

variable {first second : Chain}

/-- What is not read off inclusions is read off the steps. -/
theorem filterMap_steps {read : Layer → Option α} (h : ∀ member, read (.related member) = none)
    (chain : Chain) : chain.steps.filterMap read = chain.layers.filterMap read := by
  have hsame : (fun layer : Layer => if layer.member?.isNone then read layer else none) = read := by
    funext layer
    cases layer with
    | filter predicate => rfl
    | project selector => rfl
    | related member => exact (h member).symm
  rw [steps, List.filterMap_filter, hsame]

theorem filters_eq_of_steps (h : first.steps = second.steps) : first.filters = second.filters := by
  have hread : ∀ member, Layer.predicate? (.related member) = none := fun _ => rfl
  rw [filters, ← filterMap_steps hread, h, filterMap_steps hread, ← filters]

theorem selectors_eq_of_steps (h : first.steps = second.steps) :
    first.selectors = second.selectors := by
  have hread : ∀ member, Layer.selector? (.related member) = none := fun _ => rfl
  rw [selectors, ← filterMap_steps hread, h, filterMap_steps hread, ← selectors]

/-- The innermost offence is one of the steps. -/
theorem offence?_eq_of_steps (h : first.steps = second.steps) :
    first.offence? = second.offence? := by
  rw [offence?, ← Layer.innermostOffence?_steps, ← steps, h, steps, Layer.innermostOffence?_steps,
    ← offence?]

end Chain

/-! ### Targets -/

/-- What stands behind an address: nothing, or a question mark and the clauses between
    ampersands. -/
def queryText (clauses : List String) : String :=
  if clauses.isEmpty then "" else "?" ++ String.intercalate "&" clauses

theorem appendClauses_eq (address : String) (clauses : List String) :
    appendClauses address clauses = address ++ queryText clauses := by
  have hjoin : ∀ (first : String) (rest : List String),
      first ++ String.join (rest.map ("&" ++ ·)) = String.intercalate "&" (first :: rest) := by
    intro first rest
    induction rest generalizing first with
    | nil => simp
    | cons clause rest ih =>
      rw [List.map_cons, String.join_cons, String.intercalate_cons_cons, ← ih]
      simp only [String.append_assoc]
  cases clauses with
  | nil => exact String.append_empty.symm
  | cons first rest =>
    rw [appendClauses, queryText, if_neg (by simp), ← hjoin]
    simp only [String.append_assoc]

/-- The clause of inclusions, if there are any. -/
def inclusionClauses (members : List String) : List String :=
  if members.isEmpty then [] else ["include=" ++ String.intercalate "," members]

/-- The target of a chain, read off its layers. -/
theorem Site.target_eq (site : Site) (chain : Chain) :
    site.target chain = site.resolver.pathOf chain.kind >>= fun path =>
      match chain.offence? with
      | some failure => .error failure
      | none =>
        .ok ⟨site.baseUrl ++ "/-/" ++ path ++
            queryText (chain.filters.map (fun predicate => "where=" ++ predicate.text) ++
              chain.selectors.map (fun selector => "select=" ++ selector.selectList) ++
              inclusionClauses chain.inclusions),
          chain.selectors.head?⟩ := by
  rw [Site.target, Site.collectionUrl, chain.clauses_eq, chain.relatedMembers_eq]
  cases site.resolver.pathOf chain.kind with
  | error failure => rfl
  | ok path =>
    cases chain.offence? with
    | some failure => rfl
    | none =>
      exact congrArg (fun url => Except.ok (Target.mk url chain.selectors.head?))
        (appendClauses_eq _ _)

/-- A chain that has a target can be sent, and its first selector is that of the target. -/
theorem Site.sendable_of_target {site : Site} {chain : Chain} {target : Target}
    (h : site.target chain = .ok target) :
    Layer.Sendable chain.layers ∧ target.projector = chain.selectors.head? := by
  rw [Site.target_eq] at h
  obtain ⟨path, -, h⟩ := bind_eq_ok.mp h
  cases hoffence : chain.offence? with
  | some failure => rw [hoffence] at h; cases h
  | none =>
    rw [hoffence] at h
    cases h
    exact ⟨chain.offence?_eq_none_iff.mp hoffence, rfl⟩

/-- **Targets read off the layers**: a chain fails if its kind has no path.  Else, if its layers can
    be sent, its target is the address of the resources with the filters behind it in their order,
    then the projection, then all inclusions in one clause; and if they cannot be sent, it fails
    with the innermost layer that is an offence.  So it does not matter where the inclusions stand
    among the other layers. -/
theorem target_of_layers (site : Site) (chain : Chain) :
    (∀ failure, site.resolver.pathOf chain.kind = .error failure →
      site.target chain = .error failure) ∧
    (∀ path, site.resolver.pathOf chain.kind = .ok path →
      (Layer.Sendable chain.layers → ∃ texts : List String,
        chain.filters.map Expr.predicateText = texts.map .ok ∧
        site.target chain = .ok
          ⟨site.baseUrl ++ "/-/" ++ path ++
              queryText (texts.map ("where=" ++ ·) ++
                chain.selectors.map (fun selector => "select=" ++ selector.selectList) ++
                inclusionClauses chain.inclusions),
            chain.selectors.head?⟩) ∧
      (¬ Layer.Sendable chain.layers → ∃ inner layer outer failure,
        chain.layers = inner ++ layer :: outer ∧ Layer.Sendable inner ∧
        layer.offence? (inner.any (·.selector?.isSome)) = some failure ∧
        site.target chain = .error failure)) ∧
    ∀ other : Chain, other.kind = chain.kind → other.steps = chain.steps →
      other.inclusions = chain.inclusions → site.target other = site.target chain := by
  refine ⟨?_, ?_, ?_⟩
  · intro failure hpath
    rw [site.target_eq, hpath]
    rfl
  · intro path hpath
    constructor
    · intro hsend
      refine ⟨chain.filters.map Expr.text, Chain.map_predicateText hsend, ?_⟩
      rw [site.target_eq, hpath, chain.offence?_eq_none_iff.mpr hsend, List.map_map]
      rfl
    · intro hsend
      cases hoffence : chain.offence? with
      | none => exact absurd (chain.offence?_eq_none_iff.mp hoffence) hsend
      | some failure =>
        obtain ⟨inner, layer, outer, hlayers, hinner, hlayer⟩ := Chain.exists_offence hoffence
        refine ⟨inner, layer, outer, failure, hlayers, hinner, hlayer, ?_⟩
        rw [site.target_eq, hpath, hoffence]
        rfl
  · intro other hkind hsteps hinclusions
    rw [site.target_eq, site.target_eq, hkind, hinclusions, Chain.offence?_eq_of_steps hsteps,
      Chain.filters_eq_of_steps hsteps, Chain.selectors_eq_of_steps hsteps]

/-- A site that knows contacts. -/
def contactsSite : Site :=
  Site.ofBase "https://x/sdata"
    (Resolver.ofCatalog [⟨"Contact", "contacts", ⟨"Contact", "Contact", []⟩⟩])

/-- The last names of the contacts of a first name, with an inclusion on either side. -/
def lastNames : Chain :=
  .related (.project (.filter (.related (.source "Contact") "Account")
    (.binary .eq (.field "FirstName") (.constant (.text "Tom")))) (.field "LastName")) "Owner"

/-- The same with both inclusions in front. -/
def lastNamesOfRelated : Chain :=
  .project (.filter (.related (.related (.source "Contact") "Account") "Owner")
    (.binary .eq (.field "FirstName") (.constant (.text "Tom")))) (.field "LastName")

/-- A chain that projects, filters by a sum and projects again. -/
def projectedTwice : Chain :=
  .project (.filter (.related (.project (.source "Contact") (.field "Age")) "Account")
    (.binary .add (.field "Age") (.constant (.int 1)))) (.field "LastName")

/-- A chain that can be sent, the same with its inclusions moved, one with three offences, and one
    of an unknown kind. -/
theorem target_of_layers_of_contacts :
    contactsSite.target lastNames = .ok
      ⟨"https://x/sdata/-/contacts?where=(FirstName eq 'Tom')&select=LastName&include=Account,Owner",
        some (.field "LastName")⟩ ∧
    contactsSite.target lastNamesOfRelated = contactsSite.target lastNames ∧
    (∃ inner layer outer, projectedTwice.layers = inner ++ layer :: outer ∧
      Layer.Sendable inner ∧ layer.offence? (inner.any (·.selector?.isSome))
        = some (.invalidShape .filterAfterProjection)) ∧
    contactsSite.target (.related (.source "Lead") "Owner") = .error (.unknownKind "Lead") := by
  have hpath : contactsSite.resolver.pathOf "Contact" = .ok "contacts" := rfl
  have hunknown : contactsSite.resolver.pathOf "Lead" = .error (.unknownKind "Lead") := rfl
  have hsend : Layer.Sendable lastNames.layers := lastNames.offence?_eq_none_iff.mp rfl
  have hunsent : ¬ Layer.Sendable projectedTwice.layers := fun h =>
    nomatch projectedTwice.offence?_eq_none_iff.mpr h
  refine ⟨?_, ?_, ?_, ?_⟩
  · obtain ⟨texts, htexts, htarget⟩ :=
      ((target_of_layers contactsSite lastNames).2.1 _ hpath).1 hsend
    have htext : texts = ["(FirstName eq 'Tom')"] :=
      (List.map_inj_right fun _ _ => Except.ok.inj).mp htexts.symm
    rw [htarget, htext]
    rfl
  · exact (target_of_layers contactsSite lastNames).2.2 lastNamesOfRelated rfl rfl rfl
  · obtain ⟨inner, layer, outer, failure, hlayers, hinner, hlayer, htarget⟩ :=
      ((target_of_layers contactsSite projectedTwice).2.1 _ hpath).2 hunsent
    have hfailure : failure = .invalidShape .filterAfterProjection := Except.error.inj htarget.symm
    exact ⟨inner, layer, outer, hlayers, hinner, hfailure ▸ hlayer⟩
  · exact (target_of_layers contactsSite (.related (.source "Lead") "Owner")).1 _ hunknown

end ResourceFeed
