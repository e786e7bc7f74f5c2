import ResourceFeed.Client.Feed
import ResourceFeed.Proofs.Query.Building
import ResourceFeed.Proofs.Query.Failing

/-! # Opening the feed of a typed query

    A feed is opened in three steps: the query is folded, its kind is looked
    up, and its filters are spelled.  Each step can fail.  There are failures
    for a projection that is out of place as well, and a client checks for them
    twice, but no query that calls build runs into one of these checks:

    - nothing but inclusions is behind a projection, and folding leaves the
      layers where they are, so what is wrong with a layer can only be a filter
      that has no text;
    - a query for entities has no projection and one for values has one.

    So a query that calls build is opened unless one of the three steps fails.
-/

namespace ResourceFeed

/-- The faults of a projection that is out of place: in front of a filter or of another projection,
    in a query for entities, or missing in a query for values. -/
def ShapeFault.misplaced : List ShapeFault :=
  [.filterAfterProjection, .projectionAfterProjection, .entityQueryProjects, .projectionMissing]

example : ShapeFault.misplaced.map ShapeFault.message =
    ["filter applied after a projection", "projection applied after a projection",
      "entity query carries a projection", "projected query has no selector"] := rfl

/-! ### Filters and kinds -/

theorem Expr.unsupported?_eq_invalidShape {node : Expr} {fault : ShapeFault}
    (h : node.unsupported? = some (.invalidShape fault)) :
    fault = .bareElement ∨ fault = .recordInPredicate := by
  cases node with
  | element => cases h; exact .inl rfl
  | construct fields => cases h; exact .inr rfl
  | member target name => cases target <;> cases h
  | constant value => cases value <;> cases h
  | binary operator left right =>
    rw [unsupported?] at h
    split at h <;> cases h
  | call name function arguments => cases h
  | capture name value => cases h

/-- A filter without a text is no projection out of place. -/
theorem Expr.firstUnsupported?_ne_misplaced {predicate : Expr} {fault : ShapeFault}
    (hfault : fault ∈ ShapeFault.misplaced) :
    predicate.firstUnsupported? ≠ some (.invalidShape fault) := by
  intro h
  obtain ⟨node, -, hnode⟩ := List.exists_of_findSome?_eq_some h
  rcases unsupported?_eq_invalidShape hnode with rfl | rfl
  · simp [ShapeFault.misplaced] at hfault
  · simp [ShapeFault.misplaced] at hfault

/-- Nor is a kind that cannot be looked up. -/
theorem Resolver.pathOf_ne_invalidShape (resolver : Resolver) (kind : String) (fault : ShapeFault) :
    resolver.pathOf kind ≠ .error (.invalidShape fault) := by
  unfold pathOf registration
  split <;> nofun

/-! ### Layers -/

namespace Layer

/-- Inclusions are no offence. -/
theorem innermostOffence?_of_inclusions {layers : List Layer}
    (h : ∀ layer ∈ layers, layer.member?.isSome) (projected : Bool) :
    innermostOffence? projected layers = none ∧ layers.filterMap predicate? = [] := by
  induction layers generalizing projected with
  | nil => exact ⟨rfl, rfl⟩
  | cons layer rest ih =>
    obtain ⟨hlayer, hrest⟩ := List.forall_mem_cons.mp h
    cases layer with
    | filter predicate => cases hlayer
    | project selector => cases hlayer
    | related member => exact ih hrest _

/-- With nothing but inclusions behind a projection, the innermost offence is the innermost filter
    without a text. -/
theorem innermostOffence?_of_projectsLast {layers : List Layer} (h : ProjectsLast layers) :
    innermostOffence? false layers =
      (layers.filterMap predicate?).findSome? Expr.firstUnsupported? := by
  induction layers with
  | nil => rfl
  | cons layer rest ih =>
    obtain ⟨hbehind, hrest⟩ := List.pairwise_cons.mp h
    rw [innermostOffence?]
    cases layer with
    | filter predicate =>
      have hpredicate : (Layer.filter predicate).predicate? = some predicate := rfl
      rw [List.filterMap_cons_some hpredicate, ← List.singleton_append, List.findSome?_append,
        List.findSome?_singleton]
      exact congrArg _ (ih hrest)
    | related member => exact ih hrest
    | project selector =>
      -- the rest are inclusions
      obtain ⟨hnone, hempty⟩ :=
        innermostOffence?_of_inclusions (fun layer hmem => hbehind layer hmem rfl) true
      rw [List.filterMap_cons_none rfl, hempty]
      exact hnone

theorem isSome_selector?_simplified (layer : Layer) :
    layer.simplified.selector?.isSome = layer.selector?.isSome := by
  cases layer <;> rfl

theorem isSome_member?_simplified (layer : Layer) :
    layer.simplified.member?.isSome = layer.member?.isSome := by
  cases layer <;> rfl

end Layer

/-! ### Opening -/

namespace TypedQuery.BuiltBy

variable {kind : String} {calls : List Clause} {query : TypedQuery} {failure : Failure}

/-- Folding leaves the projection the last layer but for inclusions. -/
theorem projectsLast_simplified (h : query.BuiltBy kind calls) :
    Layer.ProjectsLast query.chain.simplified.layers := by
  rw [Layer.ProjectsLast, Chain.layers_simplified, List.pairwise_map]
  simp only [Layer.isSome_selector?_simplified, Layer.isSome_member?_simplified]
  exact h.projectsLast

/-- The selector of the target says whether the query gives values. -/
theorem isSome_projector {client : Client} {target : Target} (h : query.BuiltBy kind calls)
    (htarget : (client.target query.chain).outcome = .ok target) :
    target.projector.isSome = query.givesValues := by
  obtain ⟨folded, hfold, htarget⟩ := Run.outcome_bind_eq_ok.mp htarget
  cases Chain.eq_simplified_of_fold hfold
  -- the target has the first selector, which is there before folding if it is there after
  rw [(Site.sendable_of_target htarget).2, h.givesValues, Chain.any_selector?_layers,
    Chain.selectors_simplified, List.head?_map, Option.isSome_map]

/-- Finding the target fails if folding fails, or the kind has no path, or a filter no text. -/
theorem target_eq_error_iff (h : query.BuiltBy kind calls) (client : Client) :
    (client.target query.chain).outcome = .error failure ↔
      query.chain.fold.outcome = .error failure ∨
      ∃ folded, query.chain.fold.outcome = .ok folded ∧
        (client.resolver.pathOf kind = .error failure ∨
          ∃ path, client.resolver.pathOf kind = .ok path ∧
            folded.filters.findSome? Expr.firstUnsupported? = some failure) := by
  rw [Client.target, Run.outcome_bind_eq_error]
  refine or_congr_right (exists_congr fun folded => and_congr_right fun hfold => ?_)
  cases Chain.eq_simplified_of_fold hfold
  -- the kind is that of the calls, and of the layers only a filter can be an offence
  rw [Run.ofExcept_outcome, Site.target_eq, Chain.kind_simplified, h.kind, bind_eq_error,
    Chain.offence?, Layer.innermostOffence?_of_projectsLast h.projectsLast_simplified]
  refine or_congr_right (exists_congr fun path => and_congr_right fun _ => ?_)
  rw [← Chain.filters]
  cases query.chain.simplified.filters.findSome? Expr.firstUnsupported? with
  | none => simp
  | some first => simp

/-- A query for entities, or one for values in any shape, is opened if its target is found. -/
theorem ofQuery_eq_error_iff_target (h : query.BuiltBy kind calls) (client : Client)
    (type : EntityType) (shape : Option Shape) :
    (Feed.ofQuery client type shape query).outcome = .error failure ↔
      (client.target query.chain).outcome = .error failure := by
  cases query with
  | entities query =>
    rw [Feed.ofQuery, Run.outcome_bind_eq_error_iff_left fun _ _ => ⟨_, rfl⟩, Client.openEntities,
      Run.outcome_bind_eq_error_iff_left]
    · rfl
    · intro target htarget
      have hnone : target.projector.isSome = false := h.isSome_projector htarget
      rw [hnone]
      exact ⟨_, rfl⟩
  | values query =>
    have hchosen : (client.projectedTarget query).outcome = .error failure ↔
        (client.target query.chain).outcome = .error failure := by
      rw [Client.projectedTarget, Run.outcome_bind_eq_error_iff_left]
      intro target htarget
      have hsome : target.projector.isSome = true := h.isSome_projector htarget
      obtain ⟨selector, hselector⟩ := Option.isSome_iff_exists.mp hsome
      rw [hselector]
      exact ⟨_, rfl⟩
    cases shape with
    | none =>
      rw [Feed.ofQuery, Run.outcome_bind_eq_error_iff_left fun _ _ => ⟨_, rfl⟩, Client.openValues,
        Run.outcome_bind_eq_error_iff_left fun _ _ => ⟨_, rfl⟩]
      exact hchosen
    | some shape =>
      rw [Feed.ofQuery, Run.outcome_bind_eq_error_iff_left fun _ _ => ⟨_, rfl⟩, Client.openShapes,
        Run.outcome_bind_eq_error_iff_left fun _ _ => ⟨_, rfl⟩]
      exact hchosen

/-- A query that calls build is opened unless folding fails, or the kind has no path, or a filter
    no text. -/
theorem ofQuery_eq_error_iff (h : query.BuiltBy kind calls) (client : Client)
    (type : EntityType) (shape : Option Shape) :
    (Feed.ofQuery client type shape query).outcome = .error failure ↔
      query.chain.fold.outcome = .error failure ∨
      ∃ folded, query.chain.fold.outcome = .ok folded ∧
        (client.resolver.pathOf kind = .error failure ∨
          ∃ path, client.resolver.pathOf kind = .ok path ∧
            folded.filters.findSome? Expr.firstUnsupported? = some failure) :=
  (h.ofQuery_eq_error_iff_target client type shape).trans (h.target_eq_error_iff client)

end TypedQuery.BuiltBy

/-- **Typed queries are opened**: calls that the types of queries allow build a query unless one of
    them includes no member of the element.  The query is for the kind that the calls start from, it
    has one layer for each call in their order, at most one of them a projection and nothing but
    inclusions behind it, and it includes the members in the order of the calls.

    Folding a chain keeps its kind, its layers but for what is folded in them, and its inclusions.
    So whatever the client, the feed of the query is opened unless folding fails, or the kind has no
    path, or a filter is left that has no text.  It never fails because a projection is out of
    place, unless a function of the host program that the query calls fails with just that. -/
theorem typed_queries_open (kind : String) {calls : List Clause} (htyped : Clause.Typed calls) :
    (∀ failure, TypedQuery.ofClauses kind calls = .error failure →
      ∃ selector, .related selector ∈ calls ∧ selector.directMember? = none ∧
        failure = .invalidShape (.includesNoMember selector.diagnosticText)) ∧
    (∀ query, TypedQuery.ofClauses kind calls = .ok query →
      query.BuiltBy kind calls ∧
      query.chain.selectors.length ≤ 1 ∧
      query.chain.relatedMembers.map some =
        (calls.filterMap Clause.inclusion?).map Expr.directMember? ∧
      ∀ (client : Client) (type : EntityType) (shape : Option Shape),
        (∀ failure, (Feed.ofQuery client type shape query).outcome = .error failure ↔
          query.chain.fold.outcome = .error failure ∨
          ∃ folded, query.chain.fold.outcome = .ok folded ∧
            (client.resolver.pathOf kind = .error failure ∨
              ∃ path, client.resolver.pathOf kind = .ok path ∧
                folded.filters.findSome? Expr.firstUnsupported? = some failure)) ∧
        ∀ fault ∈ ShapeFault.misplaced,
          (Feed.ofQuery client type shape query).outcome = .error (.invalidShape fault) →
            ∃ expr ∈ query.chain.expressions, Expr.RefusedAt expr.nodes (.invalidShape fault)) ∧
    ∀ chain folded : Chain, chain.fold.outcome = .ok folded →
      folded.kind = chain.kind ∧
      folded.layers = chain.layers.map Layer.simplified ∧
      folded.relatedMembers = chain.relatedMembers := by
  refine ⟨?_, ?_, ?_⟩
  · intro failure hcalls
    exact (TypedQuery.builtBy_all kind).addAll_error htyped hcalls
  · intro query hcalls
    have hbuilt : query.BuiltBy kind calls := (TypedQuery.builtBy_all kind).addAll hcalls
    refine ⟨hbuilt, Chain.length_selectors_le_one hbuilt.projectsLast, hbuilt.relatedMembers, ?_⟩
    intro client type shape
    refine ⟨fun failure => hbuilt.ofQuery_eq_error_iff client type shape, ?_⟩
    intro fault hfault herror
    rcases (hbuilt.ofQuery_eq_error_iff client type shape).mp herror with
      hfold | ⟨folded, -, hpath | ⟨path, -, hfilter⟩⟩
    · obtain ⟨expr, hexpr, hevaluation | hrefused⟩ := Chain.exists_failsAt_of_fold hfold
      · cases hevaluation
      · exact ⟨expr, hexpr, hrefused⟩
    · exact absurd hpath (client.resolver.pathOf_ne_invalidShape kind fault)
    · obtain ⟨predicate, -, hpredicate⟩ := List.exists_of_findSome?_eq_some hfilter
      exact absurd hpredicate (Expr.firstUnsupported?_ne_misplaced hfault)
  · intro chain folded hfold
    cases Chain.eq_simplified_of_fold hfold
    exact ⟨chain.kind_simplified, chain.layers_simplified, chain.relatedMembers_simplified⟩

/-- Calls that ask for last names, with an inclusion in front and one at the end. -/
def lastNameCalls : List Clause :=
  [.related (.field "Account"),
    .filter (.binary .eq (.field "FirstName") (.constant (.text "Tom"))),
    .project (.field "LastName"), .related (.field "Owner")]

/-- The query for last names includes what the calls include, and as no function is called in it,
    no projection in it is ever found out of place. -/
theorem last_names_open :
    Clause.Typed lastNameCalls ∧
    TypedQuery.ofClauses "Contact" lastNameCalls = .ok (.values ⟨lastNames⟩) ∧
    lastNames.relatedMembers.map some = [some "Account", some "Owner"] ∧
    ∀ (client : Client) (type : EntityType) (shape : Option Shape), ∀ fault ∈ ShapeFault.misplaced,
      (Feed.ofQuery client type shape (.values ⟨lastNames⟩)).outcome ≠
        .error (.invalidShape fault) := by
  have htyped : Clause.Typed lastNameCalls := by
    simp [Clause.Typed, lastNameCalls, Clause.projects, Clause.inclusion?]
  have hquery : TypedQuery.ofClauses "Contact" lastNameCalls = .ok (.values ⟨lastNames⟩) := rfl
  obtain ⟨-, hbuilt, -⟩ := typed_queries_open "Contact" htyped
  obtain ⟨-, -, hmembers, hopens⟩ := hbuilt _ hquery
  refine ⟨htyped, hquery, hmembers, ?_⟩
  intro client type shape fault hfault herror
  obtain ⟨expr, hexpr, name, function, arguments, values, hcall, -⟩ :=
    (hopens client type shape).2 fault hfault herror
  have hexprs : expr ∈ [Expr.binary .eq (.field "FirstName") (.constant (.text "Tom")),
      .field "LastName"] := hexpr
  simp only [List.mem_cons, List.not_mem_nil, or_false] at hexprs
  rcases hexprs with rfl | rfl <;> simp [Expr.nodes, Expr.field] at hcall

end ResourceFeed
