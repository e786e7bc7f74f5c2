import ResourceFeed.Resource.Entity

/-! # Catalogs

    A catalog registers entity types under kinds of resources, each with the
    path of its resources on the server.  A kind leads to a path and a type
    only if exactly one registration has it.

    The resolver looks kinds up in an index from kinds to positions, which is
    built once from the catalog.
-/

namespace ResourceFeed

/-- An entity type under a kind. -/
structure Registration where
  kind : String
  path : String
  type : EntityType

/-- Registrations in the order in which they were made. -/
abbrev Catalog := List Registration

/-- Registers a type under its own kind. -/
def Catalog.register (catalog : Catalog) (type : EntityType) (path : String) : Catalog :=
  catalog ++ [⟨type.kind, path, type⟩]

/-- Registers a type under a kind. -/
def Catalog.registerAs (catalog : Catalog) (kind : String) (type : EntityType) (path : String) :
    Catalog :=
  catalog ++ [⟨kind, path, type⟩]

/-- Positions in a catalog by kind. -/
abbrev KindIndex := Members (List Nat)

namespace KindIndex

/-- The positions under a kind, ascending. -/
def positions (index : KindIndex) (kind : String) : List Nat :=
  (Members.get? kind index).getD []

/-- Adds a position under a kind. -/
def add (index : KindIndex) (kind : String) (position : Nat) : KindIndex :=
  Members.insert kind (index.positions kind ++ [position]) index

/-- Adds the registrations from a position on. -/
def addFrom (index : KindIndex) (position : Nat) : Catalog → KindIndex
  | [] => index
  | registration :: rest => (index.add registration.kind position).addFrom (position + 1) rest

/-- The index of a catalog. -/
def ofCatalog (catalog : Catalog) : KindIndex :=
  addFrom [] 0 catalog

end KindIndex

/-- A catalog with its index. -/
structure Resolver where
  catalog : Catalog
  index : KindIndex

namespace Resolver

/-- The resolver of a catalog. -/
def ofCatalog (catalog : Catalog) : Resolver :=
  ⟨catalog, KindIndex.ofCatalog catalog⟩

/-- The registrations under a kind, in the order in which they were made. -/
def registrations (resolver : Resolver) (kind : String) : List Registration :=
  (resolver.index.positions kind).filterMap fun position => resolver.catalog[position]?

/-- The one registration under a kind. -/
def registration (resolver : Resolver) (kind : String) : Except Failure Registration :=
  match resolver.registrations kind with
  | [] => .error (.unknownKind kind)
  | [registration] => .ok registration
  | several => .error (.ambiguousType kind (.registeredOften (several.map (·.type.name.shown))))

/-- The path of the resources of a kind. -/
def pathOf (resolver : Resolver) (kind : String) : Except Failure String :=
  (resolver.registration kind).map (·.path)

/-- A fresh entity of a type, if the type is the one registered under its kind. -/
def blank (resolver : Resolver) (type : EntityType) : Except Failure Entity := do
  let registration ← resolver.registration type.kind
  if registration.type.name.identity = type.name.identity then return registration.type.fresh
  else
    throw (.ambiguousType type.kind (.otherType registration.type.name.shown type.name.shown))

end Resolver

end ResourceFeed
