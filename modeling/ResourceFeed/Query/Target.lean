import ResourceFeed.Query.Chain
import ResourceFeed.Query.Predicate
import ResourceFeed.Query.Selection
import ResourceFeed.Resource.Catalog

/-! # Targets

    The target of a chain is an address: the base address, the contract `-`
    and the path of the resources between slashes, and then the clauses.
    Every filter has its `where=`, the projection is `select=`, and all
    inclusions share one `include=` at the end.

    The first clause follows a question mark and every other an ampersand.
    A projection must be the last clause but for inclusions.
-/

namespace ResourceFeed

/-- An address, and the selector to apply to the entities found there. -/
structure Target where
  url : String
  projector : Option Expr

/-- The base address and the kinds of resources under it. -/
structure Site where
  baseUrl : String
  resolver : Resolver

/-- Clauses of an address, from the source outward. -/
structure Clauses where
  items : List String
  projector : Option Expr

namespace Chain

/-- The filters and the projection of a chain. -/
def clauses : Chain → Except Failure Clauses
  | .source _ => .ok ⟨[], none⟩
  | .related input _ => clauses input
  | .filter input predicate => do
    let before ← clauses input
    if before.projector.isSome then throw (.invalidShape .filterAfterProjection)
    let text ← predicate.predicateText
    return { before with items := before.items ++ ["where=" ++ text] }
  | .project input selector => do
    let before ← clauses input
    if before.projector.isSome then throw (.invalidShape .projectionAfterProjection)
    return ⟨before.items ++ ["select=" ++ selector.selectList], some selector⟩

end Chain

/-- Clauses behind an address, the first after a question mark. -/
def appendClauses (address : String) (clauses : List String) : String :=
  match clauses with
  | [] => address
  | first :: rest => address ++ "?" ++ first ++ String.join (rest.map ("&" ++ ·))

namespace Site

/-- A base address without the slashes at its end. -/
def trimSlashes (url : String) : String :=
  String.ofList (url.toList.reverse.dropWhile (· == '/')).reverse

/-- The site for a base address. -/
def ofBase (baseUrl : String) (resolver : Resolver) : Site :=
  ⟨trimSlashes baseUrl, resolver⟩

/-- The address of the resources of a kind. -/
def collectionUrl (site : Site) (kind : String) : Except Failure String :=
  (site.resolver.pathOf kind).map fun path => site.baseUrl ++ "/-/" ++ path

/-- The address of one resource. -/
def singleUrl (site : Site) (kind id : String) : Except Failure String :=
  (site.collectionUrl kind).map fun url => url ++ "('" ++ id ++ "')"

/-- The target of a chain. -/
def target (site : Site) (chain : Chain) : Except Failure Target := do
  let address ← site.collectionUrl chain.kind
  let clauses ← chain.clauses
  let related := chain.relatedMembers
  let inclusion :=
    if related.isEmpty then [] else ["include=" ++ String.intercalate "," related]
  return ⟨appendClauses address (clauses.items ++ inclusion), clauses.projector⟩

end Site

end ResourceFeed
