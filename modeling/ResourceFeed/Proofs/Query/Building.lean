import ResourceFeed.Proofs.Query.HostEvents

/-! # Queries that calls build

    A typed query starts from a kind and grows by calls.  Its types leave no
    room for a filter or a projection behind a projection: what a projection
    gives has nothing but inclusions to be called.

    Here the chain that calls build is read off the calls.  Every call puts its
    layer on the chain, in the order of the calls; a query for entities has no
    projection, any other exactly one, and nothing but inclusions behind it.
    Folding then changes expressions only: the kind, the layers one by one and
    the members that are included stay what they were.
-/

namespace ResourceFeed

/-! ### Calls -/

namespace Clause

/-- Whether a call projects. -/
def projects : Clause → Bool
  | .project _ => true
  | _ => false

/-- The selector of an inclusion. -/
def inclusion? : Clause → Option Expr
  | .related selector => some selector
  | _ => none

/-- The layer that a call puts on a chain; none if it includes no member of the element. -/
def layer? : Clause → Option Layer
  | .filter predicate => some (.filter predicate)
  | .project selector => some (.project selector)
  | .related selector => selector.directMember?.map .related

/-- Calls that the types of queries allow: filters and inclusions, then perhaps a projection, and
    then nothing but inclusions. -/
def Typed (calls : List Clause) : Prop :=
  calls.Pairwise fun earlier later => earlier.projects → later.inclusion?.isSome

theorem isSome_selector?_of_layer? {call : Clause} {layer : Layer} (h : call.layer? = some layer) :
    layer.selector?.isSome = call.projects := by
  cases call with
  | filter predicate => cases h; rfl
  | project selector => cases h; rfl
  | related selector =>
    obtain ⟨member, -, rfl⟩ := Option.map_eq_some_iff.mp h
    rfl

end Clause

/-- Nothing but inclusions comes after a projection. -/
def Layer.ProjectsLast (layers : List Layer) : Prop :=
  layers.Pairwise fun earlier later => earlier.selector?.isSome → later.member?.isSome

/-- What an inclusion makes of a chain: a layer for the member that its selector names. -/
theorem Chain.relate_eq (chain : Chain) (selector : Expr) :
    chain.relate selector = match selector.directMember? with
      | some member => .ok (.related chain member)
      | none => .error (.invalidShape (.includesNoMember selector.diagnosticText)) := by
  rw [relate, relatedMember]
  cases selector.directMember? with
  | some member => rfl
  | none => rfl

namespace TypedQuery

/-- Whether the query gives values and not entities. -/
def givesValues : TypedQuery → Bool
  | .entities _ => false
  | .values _ => true

/-- The query of the same sort with another chain. -/
def onChain (query : TypedQuery) (chain : Chain) : TypedQuery :=
  match query with
  | .entities _ => .entities ⟨chain⟩
  | .values _ => .values ⟨chain⟩

@[simp] theorem chain_onChain (query : TypedQuery) (chain : Chain) :
    (query.onChain chain).chain = chain := by
  cases query <;> rfl

@[simp] theorem givesValues_onChain (query : TypedQuery) (chain : Chain) :
    (query.onChain chain).givesValues = query.givesValues := by
  cases query <;> rfl

/-- A query is what some calls on a kind build. -/
structure BuiltBy (query : TypedQuery) (kind : String) (calls : List Clause) : Prop where
  kind : query.chain.kind = kind
  /-- Every call has put its layer on the chain. -/
  layers : calls.map Clause.layer? = query.chain.layers.map some
  projectsLast : Layer.ProjectsLast query.chain.layers
  /-- Values come from a chain with a projection, entities from one without. -/
  givesValues : query.givesValues = query.chain.layers.any (·.selector?.isSome)

variable {kind : String} {calls : List Clause} {query next : TypedQuery} {call : Clause}

/-! ### One call -/

/-- An inclusion leaves the sort of a query. -/
theorem add_related (query : TypedQuery) (selector : Expr) :
    query.add (.related selector) = match selector.directMember? with
      | some member => .ok (query.onChain (.related query.chain member))
      | none => .error (.invalidShape (.includesNoMember selector.diagnosticText)) := by
  cases query with
  | entities query =>
    rw [add, Query.relate, Chain.relate_eq]
    cases selector.directMember? <;> rfl
  | values query =>
    rw [add, Projected.relate, Chain.relate_eq]
    cases selector.directMember? <;> rfl

/-- What a call does to a query: it puts its layer on the chain, and on a query for values it is an
    inclusion. -/
structure Adds (query : TypedQuery) (call : Clause) (next : TypedQuery) (layer : Layer) : Prop where
  read : call.layer? = some layer
  kind : next.chain.kind = query.chain.kind
  layers : next.chain.layers = query.chain.layers ++ [layer]
  allowed : query.givesValues → layer.member?.isSome
  givesValues : next.givesValues = (query.givesValues || layer.selector?.isSome)

theorem exists_adds (hadd : query.add call = .ok next) : ∃ layer, query.Adds call next layer := by
  cases call with
  | filter predicate =>
    cases query with
    | entities query =>
      cases hadd
      exact ⟨.filter predicate, rfl, rfl, rfl, fun h => absurd h Bool.false_ne_true, rfl⟩
    | values query => cases hadd
  | project selector =>
    cases query with
    | entities query =>
      cases hadd
      exact ⟨.project selector, rfl, rfl, rfl, fun h => absurd h Bool.false_ne_true, rfl⟩
    | values query => cases hadd
  | related selector =>
    rw [add_related] at hadd
    cases hmember : selector.directMember? with
    | none => rw [hmember] at hadd; cases hadd
    | some member =>
      rw [hmember] at hadd
      cases hadd
      have hlayer : (Clause.related selector).layer? = some (.related member) := by
        rw [Clause.layer?, hmember]
        rfl
      refine ⟨.related member, hlayer, ?_, ?_, fun _ => rfl, ?_⟩
      · rw [chain_onChain, Chain.kind]
      · rw [chain_onChain, Chain.layers]
      · rw [givesValues_onChain]
        exact (Bool.or_false _).symm

/-- A call fails only if a query for values rules it out or if it includes no member. -/
theorem add_error {failure : Failure} (hadd : query.add call = .error failure) :
    (query.givesValues ∧ call.inclusion? = none) ∨
    ∃ selector, call = .related selector ∧ selector.directMember? = none ∧
      failure = .invalidShape (.includesNoMember selector.diagnosticText) := by
  cases call with
  | filter predicate | project selector =>
    cases query with
    | entities query => cases hadd
    | values query => exact .inl ⟨rfl, rfl⟩
  | related selector =>
    rw [add_related] at hadd
    cases hmember : selector.directMember? with
    | none =>
      rw [hmember] at hadd
      exact .inr ⟨selector, rfl, hmember, (Except.error.inj hadd).symm⟩
    | some member => rw [hmember] at hadd; cases hadd

/-- One more call builds on what the calls before it have built. -/
theorem BuiltBy.add (h : query.BuiltBy kind calls) (hadd : query.add call = .ok next) :
    next.BuiltBy kind (calls ++ [call]) := by
  obtain ⟨layer, hcall, hkind, hlayers, hallowed, hvalues⟩ := exists_adds hadd
  refine ⟨hkind.trans h.kind, ?_, ?_, ?_⟩
  · rw [hlayers, List.map_append, List.map_append, h.layers, List.map_singleton,
      List.map_singleton, hcall]
  · rw [hlayers]
    refine List.pairwise_append.mpr ⟨h.projectsLast, List.pairwise_singleton _ _, ?_⟩
    intro earlier hearlier later hlater hselector
    cases List.mem_singleton.mp hlater
    -- a projection among the layers, so the query gives values
    exact hallowed (h.givesValues.trans (List.any_eq_true.mpr ⟨earlier, hearlier, hselector⟩))
  · rw [hvalues, hlayers, List.any_append, h.givesValues, List.any_cons, List.any_nil,
      Bool.or_false]

/-! ### All calls -/

theorem builtBy_all (kind : String) : (TypedQuery.entities (.all kind)).BuiltBy kind [] :=
  ⟨rfl, rfl, List.Pairwise.nil, rfl⟩

/-- Calls build on what the calls before them have built. -/
theorem BuiltBy.addAll {more : List Clause} (h : query.BuiltBy kind calls)
    (hadd : more.foldlM TypedQuery.add query = .ok next) : next.BuiltBy kind (calls ++ more) := by
  induction more generalizing calls query with
  | nil =>
    cases hadd
    rwa [List.append_nil]
  | cons call rest ih =>
    rw [List.foldlM_cons] at hadd
    obtain ⟨between, hcall, hrest⟩ := bind_eq_ok.mp hadd
    have hall := ih (h.add hcall) hrest
    rwa [List.append_assoc] at hall

/-- A query for values was built by calls of which one projects. -/
theorem BuiltBy.exists_projects (h : query.BuiltBy kind calls) (hvalues : query.givesValues) :
    ∃ call ∈ calls, call.projects := by
  rw [h.givesValues] at hvalues
  obtain ⟨layer, hlayer, hselector⟩ := List.any_eq_true.mp hvalues
  have hmem : some layer ∈ calls.map Clause.layer? := h.layers ▸ List.mem_map_of_mem hlayer
  obtain ⟨call, hcall, hlayer⟩ := List.mem_map.mp hmem
  exact ⟨call, hcall, (Clause.isSome_selector?_of_layer? hlayer).symm.trans hselector⟩

/-- Calls that the types allow fail only if one of them includes no member of the element. -/
theorem BuiltBy.addAll_error {more : List Clause} {failure : Failure} (h : query.BuiltBy kind calls)
    (htyped : Clause.Typed (calls ++ more))
    (hadd : more.foldlM TypedQuery.add query = .error failure) :
    ∃ selector, .related selector ∈ more ∧ selector.directMember? = none ∧
      failure = .invalidShape (.includesNoMember selector.diagnosticText) := by
  induction more generalizing calls query with
  | nil => cases hadd
  | cons call rest ih =>
    rw [List.foldlM_cons] at hadd
    cases hcall : query.add call with
    | ok between =>
      rw [hcall] at hadd
      rw [← List.singleton_append, ← List.append_assoc] at htyped
      obtain ⟨selector, hmem, hselector⟩ := ih (h.add hcall) htyped hadd
      exact ⟨selector, List.mem_cons_of_mem _ hmem, hselector⟩
    | error first =>
      rw [hcall] at hadd
      cases hadd
      rcases add_error hcall with ⟨hvalues, hnone⟩ | ⟨selector, rfl, hselector⟩
      · -- the types do not allow this call behind the one that projects
        obtain ⟨earlier, hearlier, hprojects⟩ := h.exists_projects hvalues
        have hsome := (List.pairwise_append.mp htyped).2.2 earlier hearlier call
          List.mem_cons_self hprojects
        rw [hnone] at hsome
        cases hsome
      · exact ⟨selector, List.mem_cons_self, hselector⟩

/-- The members that are included, in the order of the calls. -/
theorem BuiltBy.relatedMembers (h : query.BuiltBy kind calls) :
    query.chain.relatedMembers.map some =
      (calls.filterMap Clause.inclusion?).map Expr.directMember? := by
  rw [Chain.relatedMembers_eq, Chain.inclusions]
  have hlayers := h.layers
  generalize query.chain.layers = layers at hlayers
  clear h
  -- on the calls, each with the layer it has put there
  induction calls generalizing layers with
  | nil =>
    cases List.map_eq_nil_iff.mp hlayers.symm
    rfl
  | cons call rest ih =>
    obtain ⟨layer, others, rfl, hlayer, hothers⟩ := List.map_eq_cons_iff.mp hlayers.symm
    have hrest := ih others hothers.symm
    cases call with
    | filter predicate =>
      cases Option.some.inj hlayer
      exact hrest
    | project selector =>
      cases Option.some.inj hlayer
      exact hrest
    | related selector =>
      obtain ⟨member, hmember, rfl⟩ := Option.map_eq_some_iff.mp hlayer.symm
      show some member :: _ = selector.directMember? :: _
      rw [hmember, hrest]

end TypedQuery

/-! ### Folding a chain -/

/-- A layer after folding. -/
def Layer.simplified : Layer → Layer
  | .filter predicate => .filter predicate.simplified
  | .project selector => .project selector.simplified
  | .related member => .related member

namespace Chain

theorem kind_simplified (chain : Chain) : chain.simplified.kind = chain.kind := by
  induction chain with
  | source kind => rfl
  | filter input predicate ih => exact ih
  | project input selector ih => exact ih
  | related input member ih => exact ih

/-- Folding changes the layers one by one. -/
theorem layers_simplified (chain : Chain) :
    chain.simplified.layers = chain.layers.map Layer.simplified := by
  induction chain with
  | source kind => rfl
  | filter input predicate ih => rw [simplified, layers, layers, ih, List.map_append]; rfl
  | project input selector ih => rw [simplified, layers, layers, ih, List.map_append]; rfl
  | related input member ih => rw [simplified, layers, layers, ih, List.map_append]; rfl

theorem relatedMembers_simplified (chain : Chain) :
    chain.simplified.relatedMembers = chain.relatedMembers := by
  induction chain with
  | source kind => rfl
  | filter input predicate ih => exact ih
  | project input selector ih => exact ih
  | related input member ih => exact congrArg (· ++ [member]) ih

theorem selectors_simplified (chain : Chain) :
    chain.simplified.selectors = chain.selectors.map Expr.simplified := by
  have hlayer : ∀ layer : Layer,
      layer.simplified.selector? = layer.selector?.map Expr.simplified := by
    intro layer
    cases layer <;> rfl
  rw [selectors, selectors, layers_simplified, List.filterMap_map, List.map_filterMap]
  simp only [Function.comp_def, hlayer]

/-- A chain with nothing but inclusions behind a projection projects at most once. -/
theorem length_selectors_le_one {chain : Chain} (h : Layer.ProjectsLast chain.layers) :
    chain.selectors.length ≤ 1 := by
  -- of two selectors the outer one would be an inclusion
  have hselectors : chain.selectors.Pairwise fun _ _ => False := by
    refine List.Pairwise.filterMap _ ?_ h
    intro earlier later hlast selector hselector other hother
    have hmember := hlast (Option.isSome_of_mem hselector)
    cases later with
    | filter predicate => cases hother
    | project selector => cases hmember
    | related member => cases hother
  match hlist : chain.selectors, hselectors with
  | [], _ => exact Nat.zero_le 1
  | [_], _ => exact Nat.le_refl 1
  | _ :: other :: _, hnever => exact absurd (List.rel_of_pairwise_cons hnever List.mem_cons_self) id

/-- What a chain that folds is folded to. -/
theorem eq_simplified_of_fold {chain folded : Chain} (h : chain.fold.outcome = .ok folded) :
    folded = chain.simplified := by
  rw [fold_eq] at h
  obtain ⟨_, _, hfolded⟩ := Run.outcome_bind_eq_ok.mp h
  exact (Except.ok.inj hfolded).symm

/-- What the predicates and selectors of a chain that folds are folded to. -/
theorem simplify_of_fold {chain folded : Chain} (h : chain.fold.outcome = .ok folded) {expr : Expr}
    (hexpr : expr ∈ chain.expressions) : expr.simplify.outcome = .ok expr.simplified := by
  rw [fold_eq] at h
  obtain ⟨_, hturn, -⟩ := Run.outcome_bind_eq_ok.mp h
  obtain ⟨simplified, hsimplified⟩ :=
    Run.inTurn_eq_ok_iff.mp hturn _ (List.mem_map_of_mem hexpr)
  rw [hsimplified, Expr.eq_simplified_of_simplify hsimplified]

theorem selectors_subset_expressions (chain : Chain) : chain.selectors ⊆ chain.expressions := by
  intro selector hselector
  obtain ⟨layer, hlayer, hread⟩ := List.mem_filterMap.mp hselector
  refine List.mem_filterMap.mpr ⟨layer, hlayer, ?_⟩
  cases layer with
  | project other => exact hread
  | filter predicate => cases hread
  | related member => cases hread

end Chain

end ResourceFeed
