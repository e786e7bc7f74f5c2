import ResourceFeed.Query.Fold

/-! # Query chains

    A query starts from a kind of resources and applies clauses one after the
    other: filters, projections, and the inclusion of related resources.

    The *typed* queries at the end of the module are the chains that a caller
    can build for entities: a projection comes last and only once, but for
    inclusions.
-/

namespace ResourceFeed

/-- A query, built from its source outward. -/
inductive Chain where
  /-- All resources of a kind. -/
  | source (kind : String)
  /-- The resources that satisfy a predicate. -/
  | filter (input : Chain) (predicate : Expr)
  /-- What a selector makes of each resource. -/
  | project (input : Chain) (selector : Expr)
  /-- The same, together with a related resource of each. -/
  | related (input : Chain) (member : String)

namespace Chain

/-- The kind of resources that the chain starts from. -/
def kind : Chain → String
  | .source kind => kind
  | .filter input _ => input.kind
  | .project input _ => input.kind
  | .related input _ => input.kind

/-- The members of related resources in the order of their inclusion, repeated ones included. -/
def relatedMembers : Chain → List String
  | .source _ => []
  | .filter input _ => input.relatedMembers
  | .project input _ => input.relatedMembers
  | .related input member => input.relatedMembers ++ [member]

/-- The member that an inclusion names. -/
def relatedMember (selector : Expr) : Except Failure String :=
  match selector.directMember? with
  | some member => .ok member
  | none => .error (.invalidShape (.includesNoMember selector.diagnosticText))

/-- Includes the related resource that a selector names. -/
def relate (chain : Chain) (selector : Expr) : Except Failure Chain :=
  (relatedMember selector).map (.related chain)

/-- Folds every predicate and selector, from the source outward. -/
def fold : Chain → Run Chain
  | .source kind => pure (.source kind)
  | .filter input predicate => do
    let input ← fold input
    let predicate ← predicate.simplify
    pure (.filter input predicate)
  | .project input selector => do
    let input ← fold input
    let selector ← selector.simplify
    pure (.project input selector)
  | .related input member => do
    let input ← fold input
    pure (.related input member)

end Chain

/-! ## Typed queries -/

/-- A query for entities of one kind. -/
structure Query where
  chain : Chain

/-- A query whose results pass through a selector. -/
structure Projected where
  chain : Chain

namespace Query

/-- All entities of a kind. -/
def all (kind : String) : Query :=
  ⟨.source kind⟩

/-- The entities that also satisfy a predicate. -/
def filter (query : Query) (predicate : Expr) : Query :=
  ⟨.filter query.chain predicate⟩

/-- What a selector makes of each entity. -/
def select (query : Query) (selector : Expr) : Projected :=
  ⟨.project query.chain selector⟩

/-- The same entities together with a related resource of each. -/
def relate (query : Query) (selector : Expr) : Except Failure Query :=
  (query.chain.relate selector).map Query.mk

end Query

namespace Projected

/-- The same results together with a related resource of each. -/
def relate (query : Projected) (selector : Expr) : Except Failure Projected :=
  (query.chain.relate selector).map Projected.mk

end Projected

/-! ## Clauses -/

/-- A clause as a caller writes it; an inclusion by its selector. -/
inductive Clause where
  | filter (predicate : Expr)
  | project (selector : Expr)
  | related (selector : Expr)

/-- A chain with one more clause. -/
def Chain.add (chain : Chain) : Clause → Except Failure Chain
  | .filter predicate => .ok (.filter chain predicate)
  | .project selector => .ok (.project chain selector)
  | .related selector => chain.relate selector

/-- The chain of clauses on a kind of resources. -/
def Chain.ofClauses (kind : String) (clauses : List Clause) : Except Failure Chain :=
  clauses.foldlM Chain.add (.source kind)

/-- A typed query with or without a selector. -/
inductive TypedQuery where
  | entities (query : Query)
  | values (query : Projected)

/-- A typed query with one more clause.  After a projection only inclusions can follow. -/
def TypedQuery.add (query : TypedQuery) (clause : Clause) : Except Failure TypedQuery :=
  match query, clause with
  | .entities query, .filter predicate => .ok (.entities (query.filter predicate))
  | .entities query, .project selector => .ok (.values (query.select selector))
  | .entities query, .related selector => (query.relate selector).map .entities
  | .values query, .related selector => (query.relate selector).map .values
  | .values _, .filter _ => .error (.invalidShape .filterAfterProjection)
  | .values _, .project _ => .error (.invalidShape .projectionAfterProjection)

/-- The typed query of clauses on a kind of resources. -/
def TypedQuery.ofClauses (kind : String) (clauses : List Clause) : Except Failure TypedQuery :=
  clauses.foldlM TypedQuery.add (.entities (.all kind))

/-- The chain of a typed query. -/
def TypedQuery.chain : TypedQuery → Chain
  | .entities query => query.chain
  | .values query => query.chain

end ResourceFeed
