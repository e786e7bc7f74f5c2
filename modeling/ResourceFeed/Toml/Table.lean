import ResourceFeed.Members

/-! # TOML values and tables

    A TOML document is a sequence of statements: keys with values, and headers
    that say into which table the following keys go.  The tables are built
    statement by statement, because whether a key or a header is allowed
    depends on how the table that it names came about:

    * a header may name a table once, and not one that was written as a value
      or made by dotted keys;
    * dotted keys may add to tables that dotted keys made, but not to one
      that has a header;
    * no key may be given twice.
-/

namespace ResourceFeed

/-- A TOML value. -/
inductive Toml where
  | string (value : String)
  | integer (value : Int)
  | float (value : Float)
  | boolean (value : Bool)
  /-- A date, a time, or both; which one does not matter here. -/
  | datetime
  | array (items : List Toml)
  | table (members : List (String × Toml))

namespace Toml

/-- How a table came about. -/
structure Origin where
  /-- Whether the table has no header of its own yet. -/
  implicit : Bool
  /-- Whether dotted keys made the table. -/
  dotted : Bool

/-- What stands under a key while the tables are being built. -/
inductive Node where
  | value (value : Toml)
  | table (origin : Origin) (items : List (String × Node))
  /-- The tables under a repeated header, the last one first. -/
  | tables (reversed : List (List (String × Node)))

/-- Keys with what stands under them. -/
abbrev Items := List (String × Node)

namespace Node

mutual

/-- The value of what stands under a key. -/
def toToml : Node → Toml
  | .value held => held
  | .table _ items => .table (itemsToToml items)
  | .tables reversed => .array (tablesToToml reversed).reverse

/-- The values under keys. -/
def itemsToToml : List (String × Node) → List (String × Toml)
  | [] => []
  | (key, node) :: rest => (key, toToml node) :: itemsToToml rest

/-- The values of tables. -/
def tablesToToml : List (List (String × Node)) → List Toml
  | [] => []
  | items :: rest => .table (itemsToToml items) :: tablesToToml rest

end

end Node

namespace Items

/-- What stands under a key. -/
def get? (items : Items) (key : String) : Option Node :=
  Members.get? key items

/-- Puts something under a key that has something already. -/
def replace (items : Items) (key : String) (node : Node) : Items :=
  items.map fun item => if item.1 = key then (key, node) else item

/-- Follows a path of keys and changes the table at its end.  Tables that are missing on the way
    are made; `dotted` says that the path is a dotted key. -/
def follow (dotted : Bool) (change : Origin → Items → Option (α × Origin × Items)) :
    List String → Origin → Items → Option (α × Origin × Items)
  | [], origin, items => change origin items
  | key :: path, origin, items =>
    match items.get? key with
    | none => do
      let (result, origin', items') ← follow dotted change path ⟨true, dotted⟩ []
      return (result, origin, items ++ [(key, .table origin' items')])
    | some (.table inner innerItems) =>
      if dotted && !inner.implicit then none
      else do
        let (result, origin', items') ← follow dotted change path inner innerItems
        return (result, origin, items.replace key (.table origin' items'))
    | some (.tables (last :: before)) => do
      let (result, _, items') ← follow dotted change path ⟨false, false⟩ last
      return (result, origin, items.replace key (.tables (items' :: before)))
    | some (.tables []) => none
    | some (.value _) => none

/-- Gives a key its value in the table at the end of a dotted path. -/
def set? (path : List String) (key : String) (value : Toml) (items : Items) : Option Items :=
  let add (origin : Origin) (items : Items) : Option (Unit × Origin × Items) :=
    if origin.dotted = path.isEmpty then none
    else if (items.get? key).isSome then none
    else some ((), origin, items ++ [(key, .value value)])
  (follow true add path ⟨false, false⟩ items).map fun result => result.2.2

end Items

/-- A key with dots: the keys before the last one, and the last one. -/
abbrev Path := List String × String

/-- The table of a list of keys with values in braces. -/
def ofPairs? (pairs : List (Path × Toml)) : Option Toml := do
  let items ← pairs.foldlM (fun items pair => Items.set? pair.1.1 pair.1.2 pair.2 items) []
  return .table (Node.itemsToToml items)

/-! ## Documents -/

/-- A statement of a document. -/
inductive Statement where
  | pair (path : Path) (value : Toml)
  /-- A header in single brackets. -/
  | header (path : Path)
  /-- A header in double brackets, which adds a table to a list. -/
  | listHeader (path : Path)

/-- A document while it is being built. -/
structure Builder where
  root : Items
  /-- The table of the last header, which is put into the root when it is finished. -/
  current : Items
  /-- Where the table goes, and whether it is added to a list; `none` before any header. -/
  target : Option (Path × Bool)

namespace Builder

/-- Puts a finished table where its header says. -/
def placeTable (key : String) (isList : Bool) (table : Items) (origin : Origin) (items : Items) :
    Option (Unit × Origin × Items) :=
  match items.get? key, isList with
  | none, true => some ((), origin, items ++ [(key, .tables [table])])
  | none, false => some ((), origin, items ++ [(key, .table ⟨false, false⟩ table)])
  | some (.tables before), true => some ((), origin, items.replace key (.tables (table :: before)))
  | some (.table inner _), false =>
    if inner.implicit then
      some ((), origin, items.replace key (.table ⟨false, false⟩ table))
    else none
  | some _, _ => none

/-- Finishes the table of the last header. -/
def finish? (builder : Builder) : Option Items :=
  match builder.target with
  | none => some builder.current
  | some ((path, key), isList) =>
    (Items.follow false (placeTable key isList builder.current) path ⟨false, false⟩
      builder.root).map fun result => result.2.2

/-- Takes the table that a header names out of the tables around it, if it has no header. -/
def takeTable (key : String) (origin : Origin) (items : Items) :
    Option (Items × Origin × Items) :=
  match items.get? key with
  | none => some ([], origin, items)
  | some (.table inner innerItems) =>
    if inner.implicit && !inner.dotted then
      some (innerItems, origin, items.filter fun item => item.1 ≠ key)
    else none
  | some _ => none

/-- Makes sure that a header for a list names a list. -/
def openList (key : String) (origin : Origin) (items : Items) : Option (Items × Origin × Items) :=
  match items.get? key with
  | none => some ([], origin, items)
  | some (.tables _) => some ([], origin, items)
  | some _ => none

/-- One statement. -/
def add? (builder : Builder) (statement : Statement) : Option Builder :=
  match statement with
  | .pair (path, key) value =>
    (Items.set? path key value builder.current).map fun current =>
      { builder with current := current }
  | .header (path, key) => do
    let root ← builder.finish?
    let (current, _, root) ← Items.follow false (takeTable key) path ⟨false, false⟩ root
    return ⟨root, current, some ((path, key), false)⟩
  | .listHeader (path, key) => do
    let root ← builder.finish?
    let (current, _, root) ← Items.follow false (openList key) path ⟨false, false⟩ root
    return ⟨root, current, some ((path, key), true)⟩

end Builder

/-- The members of a document. -/
def ofStatements? (statements : List Statement) : Option (List (String × Toml)) := do
  let builder ← statements.foldlM Builder.add? ⟨[], [], none⟩
  let items ← builder.finish?
  return Node.itemsToToml items

end Toml

end ResourceFeed
