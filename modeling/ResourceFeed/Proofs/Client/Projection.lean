import ResourceFeed.Client.Reading
import ResourceFeed.Proofs.Query.Nodes
import ResourceFeed.Query.Selection

/-! # Fields that a projection asks for

    A server that is asked for a projection is asked for the members that the
    selector reads off the element, and for nothing else.  The rows come out
    the same:

    - a selector runs the same on two records that agree on these members;
    - a payload is read field by field, so a part of it is accepted if all of
      it is, and the cells of the fields in that part are the same.  All
      other cells keep what a fresh entity has in them, and the selector
      does not look at them.

    This needs the element to occur in the selector only where a member is
    read: the element as a whole shows every cell.  The main statement is
    `projection_of_asked_fields`.
-/

namespace ResourceFeed

/-! ### Records that agree -/

/-- Two records have the same values under some names. -/
def AgreeOn (names : List String) (first second : Record) : Prop :=
  ∀ name ∈ names, Members.get? name first = Members.get? name second

theorem agreeOn_append_iff {names others : List String} {first second : Record} :
    AgreeOn (names ++ others) first second ↔
      AgreeOn names first second ∧ AgreeOn others first second :=
  List.forall_mem_append

namespace Expr

/-- The element occurs only where one of its members is read. -/
def ReadsMembersOnly (expr : Expr) : Prop :=
  .element ∉ expr.nodes

variable {first second : Record}

/-- A member of the element runs the same for two records that agree on it. -/
theorem run_field_of_agreeOn {name : String} (h : AgreeOn [name] first second) :
    run (some (.record first)) (field name) = run (some (.record second)) (field name) := by
  have hget : Members.get? name first = Members.get? name second :=
    h name List.mem_cons_self
  have hmember : (Value.record first).member name = (Value.record second).member name := by
    rw [Value.member, Value.member, hget]
  have hrun : ∀ record : Record, run (some (.record record)) (field name)
      = Run.ofExcept ((Value.record record).member name) := by
    intro record
    simp only [field, run]
    rfl
  rw [hrun, hrun, hmember]

/-! The three statements follow the recursion of `run`.  A part that is not
    asked for, such as the right side of a short cut, is no case of its own:
    its run is the same whether it is asked for or not. -/

mutual

/-- An expression that reads nothing but members off the element runs the same for two records that
    agree on these members. -/
theorem run_of_agreeOn : ∀ expr : Expr, expr.ReadsMembersOnly →
    AgreeOn expr.directMembers first second →
    run (some (.record first)) expr = run (some (.record second)) expr
  | .element, hreads, _ => absurd (self_mem_nodes .element) hreads
  | .member target name, hreads, hagree => by
    by_cases helement : target = .element
    · subst helement
      exact run_field_of_agreeOn hagree
    · rw [ReadsMembersOnly, nodes_member helement, List.mem_cons, not_or] at hreads
      rw [directMembers_member helement] at hagree
      have ih := run_of_agreeOn target hreads.2 hagree
      simp only [run]
      rw [ih]
  | .constant _, _, _ => by simp only [run]
  | .binary operator left right, hreads, hagree => by
    simp only [ReadsMembersOnly, nodes, List.mem_cons, List.mem_append, not_or] at hreads
    rw [directMembers, agreeOn_append_iff] at hagree
    have ihleft := run_of_agreeOn left hreads.2.1 hagree.1
    have ihright := run_of_agreeOn right hreads.2.2 hagree.2
    simp only [run]
    rw [ihleft, ihright]
  | .call name function arguments, hreads, hagree => by
    simp only [ReadsMembersOnly, nodes, List.mem_cons, not_or] at hreads
    rw [directMembers] at hagree
    have ih := runArguments_of_agreeOn arguments hreads.2 hagree
    simp only [run]
    rw [ih]
  | .capture _ _, _, _ => by simp only [run]
  | .construct fields, hreads, hagree => by
    simp only [ReadsMembersOnly, nodes, List.mem_cons, not_or] at hreads
    rw [directMembers] at hagree
    have ih := runFields_of_agreeOn fields hreads.2 hagree
    simp only [run]
    rw [ih]

/-- Arguments run the same for two records that agree on the members read in them. -/
theorem runArguments_of_agreeOn : ∀ arguments : List Expr, .element ∉ argumentNodes arguments →
    AgreeOn (argumentMembers arguments) first second →
    runArguments (some (.record first)) arguments = runArguments (some (.record second)) arguments
  | [], _, _ => by simp only [runArguments]
  | expr :: rest, hreads, hagree => by
    rw [argumentNodes, List.mem_append, not_or] at hreads
    rw [argumentMembers, agreeOn_append_iff] at hagree
    have ihexpr := run_of_agreeOn expr hreads.1 hagree.1
    have ihrest := runArguments_of_agreeOn rest hreads.2 hagree.2
    simp only [runArguments]
    rw [ihexpr, ihrest]

/-- Fields run the same for two records that agree on the members read in them. -/
theorem runFields_of_agreeOn : ∀ fields : List (String × Expr), .element ∉ fieldNodes fields →
    AgreeOn (fieldMembers fields) first second →
    runFields (some (.record first)) fields = runFields (some (.record second)) fields
  | [], _, _ => by simp only [runFields]
  | (_, expr) :: rest, hreads, hagree => by
    rw [fieldNodes, List.mem_append, not_or] at hreads
    rw [fieldMembers, agreeOn_append_iff] at hagree
    have ihexpr := run_of_agreeOn expr hreads.1 hagree.1
    have ihrest := runFields_of_agreeOn rest hreads.2 hagree.2
    simp only [runFields]
    rw [ihexpr, ihrest]

end

end Expr

/-! ### A part of a payload -/

/-- The entry without the fields whose names are not kept. -/
def Entry.only (keep : String → Bool) (entry : Entry) : Entry :=
  { entry with payload := entry.payload.filter fun member => keep member.1 }

namespace Cell

/-- Whether the name of the field is kept. -/
def isKept (keep : String → Bool) (cell : Cell) : Bool :=
  keep cell.field.name

theorem field_of_setRaw {cell loaded : Cell} {raw : Json} (h : cell.setRaw raw = .ok loaded) :
    loaded.field = cell.field := by
  unfold setRaw at h
  split at h
  · cases h
    rfl
  · cases h

end Cell

namespace Entity

variable {keep : String → Bool} {payload : Members Json}

/-- Reading a cell leaves its field as it is. -/
theorem field_of_loadCell {cell loaded : Cell} (h : loadCell payload cell = .ok loaded) :
    loaded.field = cell.field := by
  unfold loadCell at h
  by_cases hrelationship : cell.field.isRelationship = true
  · rw [if_pos hrelationship] at h
    exact congrArg Cell.field (Except.ok.inj h).symm
  · rw [if_neg hrelationship] at h
    cases hget : Members.get? cell.field.name payload with
    | none =>
      rw [hget] at h
      exact congrArg Cell.field (Except.ok.inj h).symm
    | some raw =>
      simp only [hget] at h
      by_cases hnull : raw.isNull = true
      · rw [if_pos hnull] at h
        exact congrArg Cell.field (Except.ok.inj h).symm
      · rw [if_neg hnull] at h
        exact Cell.field_of_setRaw h

/-- A cell that is kept is read from a part of a payload as from all of it; any other is left
    alone. -/
theorem loadCell_filter (keep : String → Bool) (payload : Members Json) (cell : Cell) :
    loadCell (payload.filter fun member => keep member.1) cell =
      if cell.isKept keep then loadCell payload cell else .ok cell := by
  have hget : Members.get? cell.field.name (payload.filter fun member => keep member.1) =
      if cell.isKept keep then Members.get? cell.field.name payload else none :=
    Members.get?_filter keep cell.field.name payload
  unfold loadCell
  rw [hget]
  by_cases hrelationship : cell.field.isRelationship = true
  · simp only [if_pos hrelationship, ite_self]
  · cases cell.isKept keep with
    | true => rfl
    | false => simp only [if_neg hrelationship, Bool.false_eq_true, if_false]

/-- A part of a payload is accepted if all of it is, with the same cells for the fields in that
    part. -/
theorem loadCells_filter {cells loaded : List Cell} (h : loadCells payload cells = .ok loaded) :
    ∃ narrowed, loadCells (payload.filter fun member => keep member.1) cells = .ok narrowed ∧
      narrowed.filter (Cell.isKept keep) = loaded.filter (Cell.isKept keep) := by
  induction cells generalizing loaded with
  | nil => exact ⟨[], rfl, by cases h; rfl⟩
  | cons cell rest ih =>
    obtain ⟨first, hfirst, h⟩ := bind_eq_ok.mp h
    obtain ⟨others, hothers, h⟩ := bind_eq_ok.mp h
    obtain ⟨narrowed, hnarrowed, hsame⟩ := ih hothers
    have hloaded : loaded = first :: others := (Except.ok.inj h).symm
    have hkept : first.isKept keep = cell.isKept keep :=
      congrArg (fun field : Field => keep field.name) (field_of_loadCell hfirst)
    have hcell := loadCell_filter keep payload cell
    subst hloaded
    cases hcase : cell.isKept keep with
    | true =>
      rw [hcase, if_pos rfl, hfirst] at hcell
      refine ⟨first :: narrowed, ?_, ?_⟩
      · rw [loadCells, hcell, hnarrowed]
        rfl
      · rw [List.filter_cons_of_pos (hkept.trans hcase), List.filter_cons_of_pos
          (hkept.trans hcase), hsame]
    | false =>
      -- the cell stays fresh, and neither it nor the one that was read is kept
      rw [hcase, if_neg Bool.false_ne_true] at hcell
      refine ⟨cell :: narrowed, ?_, ?_⟩
      · rw [loadCells, hcell, hnarrowed]
        rfl
      · rw [List.filter_cons_of_neg (by rw [hcase]; exact Bool.false_ne_true),
          List.filter_cons_of_neg (by rw [hkept, hcase]; exact Bool.false_ne_true), hsame]

/-- What it takes to read the fields of an entity. -/
theorem load_eq_ok {entity loaded : Entity} :
    entity.load payload = .ok loaded ↔
      ∃ cells, loadCells payload entity.cells = .ok cells ∧
        loaded = { entity with cells := cells } := by
  unfold load
  cases loadCells payload entity.cells with
  | error failure => simp [Except.map]
  | ok cells => simp [Except.map, eq_comm]

/-- The value of a visible field is in the last cell of its name. -/
theorem get?_record (entity : Entity) (choose : Field → Bool) (name : String) :
    Members.get? name (entity.record choose) =
      ((entity.cells.filter fun cell => name = cell.field.name && choose cell.field).getLast?).map
        Cell.value := by
  have hcells : (((entity.cells.filter fun cell => choose cell.field).map Cell.named).filter
        fun pair => name = pair.1) =
      (entity.cells.filter fun cell => name = cell.field.name && choose cell.field).map
        Cell.named := by
    rw [List.filter_map, List.filter_filter]
    rfl
  rw [record, Members.get?_ofList, hcells, List.getLast?_map, Option.map_map]
  rfl

/-- Entities with the same cells of some names show the same values under these names. -/
theorem agreeOn_visibleFields {first second : Entity} {names : List String}
    (hnames : ∀ name ∈ names, keep name = true)
    (hcells : first.cells.filter (Cell.isKept keep) = second.cells.filter (Cell.isKept keep)) :
    AgreeOn names first.visibleFields second.visibleFields := by
  intro name hname
  have hkept : ∀ cells : List Cell,
      (cells.filter fun cell => name = cell.field.name && !cell.field.isRelationship) =
        (cells.filter (Cell.isKept keep)).filter
          fun cell => name = cell.field.name && !cell.field.isRelationship := by
    intro cells
    rw [List.filter_filter]
    refine List.filter_congr fun cell _ => ?_
    by_cases hcell : name = cell.field.name
    · have hkeep : cell.isKept keep = true := by
        rw [Cell.isKept, ← hcell]
        exact hnames name hname
      rw [hkeep, Bool.and_true]
    · simp [hcell]
  rw [visibleFields, visibleFields, get?_record, get?_record, hkept, hcells, ← hkept]

end Entity

/-! ### Rows -/

section rows
variable {resolver : Resolver} {type : EntityType} {entry : Entry} {tracked : Tracked}

/-- An entry is accepted without some of its fields if it is accepted with them.  The entity differs
    only in the cells of these fields. -/
theorem materialize_only (keep : String → Bool)
    (h : materialize resolver type entry = .ok tracked) :
    ∃ narrowed, materialize resolver type (entry.only keep) = .ok narrowed ∧
      narrowed.identity? = tracked.identity? ∧
      narrowed.entity.cells.filter (Cell.isKept keep) =
        tracked.entity.cells.filter (Cell.isKept keep) := by
  obtain ⟨blank, entity, hblank, hload, rfl⟩ := materialize_eq_ok.mp h
  obtain ⟨cells, hcells, rfl⟩ := Entity.load_eq_ok.mp hload
  obtain ⟨narrowed, hnarrowed, hsame⟩ := Entity.loadCells_filter hcells
  have hload : blank.load (entry.only keep).payload = .ok { blank with cells := narrowed } :=
    Entity.load_eq_ok.mpr ⟨narrowed, hnarrowed, rfl⟩
  exact ⟨_, materialize_eq_ok.mpr ⟨blank, _, hblank, hload, rfl⟩, rfl, hsame⟩

/-- The row of an entry that is accepted. -/
theorem Conversion.value_of_materialize {selector : Expr} {versions : VersionStore}
    (h : materialize resolver type entry = .ok tracked) :
    Conversion.value resolver type selector entry versions =
      (selector.run (some (.record tracked.entity.visibleFields)),
        rememberVersion versions tracked entry) := by
  simp only [Conversion.value, Conversion.thenRun, Conversion.entity, h]
  rfl

/-- **Asking for the fields of a projection**: if a selector reads nothing but members off the
    element, an entry that is accepted is accepted with no other fields than these members, and the
    selector has the same value or the same failure for the entity that is then read.  So the row of
    the projection is the same, with all that happens on the way, and so are the versions that are
    remembered. -/
theorem projection_of_asked_fields {selector : Expr} (hreads : selector.ReadsMembersOnly)
    (h : materialize resolver type entry = .ok tracked) :
    (∃ narrowed,
      materialize resolver type (entry.only selector.directMembers.contains) = .ok narrowed ∧
      selector.evaluate (some (.record narrowed.entity.visibleFields)) =
        selector.evaluate (some (.record tracked.entity.visibleFields))) ∧
    ∀ versions, Conversion.value resolver type selector
        (entry.only selector.directMembers.contains) versions =
      Conversion.value resolver type selector entry versions := by
  obtain ⟨narrowed, hnarrowed, hidentity, hcells⟩ :=
    materialize_only selector.directMembers.contains h
  have hagree : AgreeOn selector.directMembers narrowed.entity.visibleFields
      tracked.entity.visibleFields :=
    Entity.agreeOn_visibleFields (fun _ hname => List.contains_iff_mem.mpr hname) hcells
  have hrun := selector.run_of_agreeOn hreads hagree
  refine ⟨⟨narrowed, hnarrowed, congrArg Run.outcome hrun⟩, ?_⟩
  intro versions
  have hremember : rememberVersion versions narrowed (entry.only selector.directMembers.contains) =
      rememberVersion versions tracked entry := by
    rw [rememberVersion, hidentity]
    rfl
  rw [Conversion.value_of_materialize hnarrowed, Conversion.value_of_materialize h, hremember, hrun]

end rows

/-- People with a name, an age, and an employer that is neither read nor sent. -/
def person : EntityType :=
  ⟨"Person", "Person", [.writable "Name" "name" (.plain .text),
    .writable "Age" "age" (.optional (.plain .int32)),
    .writable "City" "city" (.plain .text),
    (Field.writable "Employer" "employer" (.plain .text)).relationship]⟩

/-- The resolver of people. -/
def peopleResolver : Resolver :=
  Resolver.ofCatalog [⟨"Person", "people", person⟩]

/-- A person with more fields than the entity has. -/
def tomEntry : Entry :=
  ⟨some "P1", some "v1", none, [("Age", .integer 42), ("City", .text "St. Petersburg"),
    ("Employer", .text "E1"), ("Name", .text "Tom"), ("Pets", .integer 1)]⟩

/-- The name of a person, and whether they are of age; the city is not asked for. -/
def nameAndMajority : Expr :=
  .construct [("Name", .field "Name"), ("OfAge", .binary .andAlso
    (.binary .ne (.field "Age") (.constant .null)) (.binary .ge (.field "Age") (.constant (.int 18))))]

/-- The row of a person read from name and age alone. -/
theorem projection_of_name_and_majority :
    nameAndMajority.ReadsMembersOnly ∧
    (∃ tracked, materialize peopleResolver person tomEntry = .ok tracked) ∧
    (tomEntry.only nameAndMajority.directMembers.contains).payload =
      [("Age", .integer 42), ("Name", .text "Tom")] ∧
    (Conversion.value peopleResolver person nameAndMajority
        (tomEntry.only nameAndMajority.directMembers.contains) (.empty none)).1.outcome =
      .ok (.record [("Name", .text "Tom"), ("OfAge", .bool true)]) := by
  have hreads : nameAndMajority.ReadsMembersOnly := by
    simp [Expr.ReadsMembersOnly, nameAndMajority, Expr.nodes, Expr.fieldNodes, Expr.field]
  have htracked : ∃ tracked, materialize peopleResolver person tomEntry = .ok tracked := ⟨_, rfl⟩
  refine ⟨hreads, htracked, rfl, ?_⟩
  obtain ⟨tracked, htracked⟩ := htracked
  rw [(projection_of_asked_fields hreads htracked).2]
  rfl

end ResourceFeed
