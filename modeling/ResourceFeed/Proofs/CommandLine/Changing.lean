import ResourceFeed.CommandLine.Run
import ResourceFeed.Proofs.Client.Bodies
import ResourceFeed.Proofs.Client.Projection
import ResourceFeed.Proofs.Client.Synchronised
import ResourceFeed.Proofs.Resource.Materialized
import ResourceFeed.Proofs.Resource.Resolution

/-! # Changing a resource with a list of assignments

    The resource is read, the assignments are made one after the other, and
    what differs from what was read is sent at once.  Whether an assignment
    can be made depends on the fields alone and not on what they hold, so
    that the first *fault* in the list is known before anything is done.

    Without a fault only the last assignment to a field counts.  So the fields
    that are sent are found by comparing, for each writable field, the value
    that was read with the one that was assigned to it last.
-/

namespace ResourceFeed

/-! ### One field -/

/-- What a field holds after a raw value was put into it, if it can hold that. -/
def Field.content? (field : Field) (raw : Json) : Option field.type.Content :=
  (coerce? field.type.wire raw).bind field.type.ofValue?

/-- The cell with a raw value in it; a value that the field cannot hold leaves the cell. -/
def Cell.taking (cell : Cell) (raw : Json) : Cell :=
  match cell.field.content? raw with
  | some content => ⟨cell.field, content⟩
  | none => cell

@[simp] theorem Cell.field_taking (cell : Cell) (raw : Json) :
    (cell.taking raw).field = cell.field := by
  unfold taking
  split <;> rfl

theorem Cell.setRaw_of_content {cell : Cell} {raw : Json}
    (hholds : (cell.field.content? raw).isSome = true) : cell.setRaw raw = .ok (cell.taking raw) := by
  obtain ⟨content, hcontent⟩ := Option.isSome_iff_exists.mp hholds
  have hbind : (coerce? cell.field.type.wire raw).bind cell.field.type.ofValue? = some content :=
    hcontent
  rw [setRaw, taking, hcontent, hbind]

theorem Cell.setRaw_of_no_content {cell : Cell} {raw : Json}
    (hnone : cell.field.content? raw = none) :
    cell.setRaw raw = .error (.format cell.field.name raw cell.field.type.wire) := by
  have hbind : (coerce? cell.field.type.wire raw).bind cell.field.type.ofValue? = none := hnone
  rw [setRaw, hbind]
  rfl

/-- A field that takes null holds nothing. -/
theorem FieldType.valueOf_of_null : ∀ {type : FieldType} {content : type.Content},
    type.ofValue? .null = some content → type.valueOf content = .null
  | .plain wire, _, haccepted => by cases wire <;> cases haccepted
  | .optional inner, _, haccepted => by
    cases haccepted
    rfl

/-- What a field holds shows as the coerced value. -/
theorem Field.coerce?_of_content {field : Field} {raw : Json} {content : field.type.Content}
    (hcontent : field.content? raw = some content) :
    coerce? field.type.wire raw = some (field.type.valueOf content) := by
  obtain ⟨value, hvalue, haccepted⟩ := Option.bind_eq_some_iff.mp hcontent
  rw [hvalue]
  cases hraw : raw.isNull with
  | false =>
    obtain ⟨other, hother, hshown⟩ := FieldType.exists_content_of_coerce? hraw hvalue
    rw [haccepted] at hother
    cases hother
    rw [hshown]
  | true =>
    rw [FieldType.coerce?_of_isNull hraw] at hvalue
    cases hvalue
    rw [FieldType.valueOf_of_null haccepted]

theorem Cell.value_taking {cell : Cell} {raw : Json} {other : Value}
    (hholds : (cell.field.content? raw).isSome = true) :
    (cell.taking raw).value = (coerce? cell.field.type.wire raw).getD other := by
  obtain ⟨content, hcontent⟩ := Option.isSome_iff_exists.mp hholds
  rw [taking, hcontent, Field.coerce?_of_content hcontent]
  rfl

/-! ### One raw value put into a row -/

section row
variable {choose : Field → Bool} {raw : Json} {cells : List Cell}

theorem setFirst?_of_no_field (hnone : (cells.map Cell.field).find? choose = none) :
    setFirst? choose raw cells = none := by
  induction cells with
  | nil => rfl
  | cons first rest ih =>
    rw [List.map_cons, List.find?_eq_none, List.forall_mem_cons] at hnone
    obtain ⟨hfirst, hrest⟩ := hnone
    rw [setFirst?, if_neg hfirst, ih (List.find?_eq_none.mpr hrest)]
    rfl

theorem setFirst?_of_refused {field : Field}
    (hfield : (cells.map Cell.field).find? choose = some field)
    (hnone : field.content? raw = none) :
    setFirst? choose raw cells = some (.error (.format field.name raw field.type.wire)) := by
  induction cells with
  | nil => cases hfield
  | cons first rest ih =>
    rw [List.map_cons, List.find?_cons] at hfield
    by_cases hchosen : choose first.field = true
    · rw [hchosen] at hfield
      cases hfield
      rw [setFirst?, if_pos hchosen, Cell.setRaw_of_no_content hnone]
      rfl
    · rw [Bool.not_eq_true] at hchosen
      rw [hchosen] at hfield
      rw [setFirst?, hchosen, ih hfield]
      rfl

/-- If no two fields are chosen, then the one that is takes the value, and all others stay. -/
theorem setFirst?_of_accepted {field : Field}
    (hfield : (cells.map Cell.field).find? choose = some field)
    (hcontent : (field.content? raw).isSome = true)
    (hone : (cells.map Cell.field).Pairwise fun a b => ¬ (choose a = true ∧ choose b = true)) :
    setFirst? choose raw cells =
      some (.ok (cells.map fun cell => if choose cell.field then cell.taking raw else cell)) := by
  induction cells with
  | nil => cases hfield
  | cons first rest ih =>
    rw [List.map_cons, List.find?_cons] at hfield
    rw [List.map_cons, List.pairwise_cons] at hone
    obtain ⟨hothers, hrest⟩ := hone
    by_cases hchosen : choose first.field = true
    · rw [hchosen] at hfield
      cases hfield
      have hstay : (rest.map fun cell => if choose cell.field then cell.taking raw else cell) =
          rest := by
        conv => rhs; rw [← List.map_id rest]
        apply List.map_congr_left
        intro cell hcell
        have hother : ¬ choose cell.field = true := fun h =>
          hothers cell.field (List.mem_map_of_mem hcell) ⟨hchosen, h⟩
        rw [if_neg hother]
        rfl
      rw [setFirst?, if_pos hchosen, Cell.setRaw_of_content hcontent, List.map_cons, hstay,
        if_pos hchosen]
      rfl
    · rw [Bool.not_eq_true] at hchosen
      rw [hchosen] at hfield
      rw [setFirst?, hchosen, ih hfield hrest, List.map_cons, hchosen]
      rfl

end row

namespace CommandLine

/-! ### Assignments to the fields of a type -/

namespace Assignment

/-- Whether an assignment is to a field. -/
def chooses (assignment : Assignment) (field : Field) : Bool :=
  field.name == assignment.field && field.isWritable

/-- Why an assignment cannot be made: no writable field has its name, or the field cannot hold its
    value. -/
def fault? (fields : List Field) (assignment : Assignment) : Option Failure :=
  match fields.find? assignment.chooses with
  | none => some (.unsupportedMember assignment.field)
  | some field =>
    if (field.content? assignment.value.toJson).isSome then none
    else some (.format field.name assignment.value.toJson field.type.wire)

section apart
variable {fields : List Field} {assignment : Assignment} {field : Field}

theorem not_chooses_both {a b : Field} (hapart : a.Apart b) :
    ¬ (assignment.chooses a = true ∧ assignment.chooses b = true) := by
  intro ⟨ha, hb⟩
  obtain ⟨hname, hwritable⟩ := Bool.and_eq_true_iff.mp ha
  obtain ⟨hname', hwritable'⟩ := Bool.and_eq_true_iff.mp hb
  have hsame : a.name = b.name := (eq_of_beq hname).trans (eq_of_beq hname').symm
  have hnot := hapart (isRelationship_of_isWritable hwritable)
    (isRelationship_of_isWritable hwritable') hsame
  rw [hwritable] at hnot
  cases hnot.1

/-- No other field is found for an assignment to a field. -/
theorem find?_chosen (hapart : FieldsApart fields) (hmem : field ∈ fields)
    (hchosen : assignment.chooses field = true) :
    fields.find? assignment.chooses = some field := by
  cases hfound : fields.find? assignment.chooses with
  | none => exact absurd hchosen (List.find?_eq_none.mp hfound field hmem)
  | some found =>
    by_contra hother
    have hne : found ≠ field := fun hsame => hother (congrArg some hsame)
    exact not_chooses_both (hapart.forall (List.mem_of_find?_eq_some hfound) hmem hne)
      ⟨List.find?_some hfound, hchosen⟩

/-- An assignment without a fault to a field is one that the field can hold. -/
theorem holds_of_no_fault (hapart : FieldsApart fields) (hmem : field ∈ fields)
    (hchosen : assignment.chooses field = true) (hnone : assignment.fault? fields = none) :
    (field.content? assignment.value.toJson).isSome = true := by
  rw [fault?, find?_chosen hapart hmem hchosen] at hnone
  simp only at hnone
  by_contra hrefused
  rw [if_neg hrefused] at hnone
  cases hnone

end apart

end Assignment

/-- A cell after an assignment, which leaves it unless it is to its field. -/
def Assignment.into (assignment : Assignment) (cell : Cell) : Cell :=
  if assignment.chooses cell.field then cell.taking assignment.value.toJson else cell

@[simp] theorem Assignment.field_into (assignment : Assignment) (cell : Cell) :
    (assignment.into cell).field = cell.field := by
  unfold into
  split
  · exact cell.field_taking _
  · rfl

/-- A cell after assignments in order. -/
def assigned (assignments : List Assignment) (cell : Cell) : Cell :=
  assignments.foldl (fun cell assignment => assignment.into cell) cell

/-- The last of the assignments to a field. -/
def lastTo? (assignments : List Assignment) (field : Field) : Option Assignment :=
  (assignments.filter fun assignment => assignment.chooses field).getLast?

/-- The value of a field after assignments: that of the last one to it, or else what it was. -/
def finalValue (assignments : List Assignment) (cell : Cell) : Value :=
  match lastTo? assignments cell.field with
  | some assignment =>
    (coerce? cell.field.type.wire assignment.value.toJson).getD cell.value
  | none => cell.value

theorem assigned_append (front : List Assignment) (last : Assignment) (cell : Cell) :
    assigned (front ++ [last]) cell = last.into (assigned front cell) :=
  List.foldl_append

@[simp] theorem field_assigned (assignments : List Assignment) (cell : Cell) :
    (assigned assignments cell).field = cell.field := by
  induction assignments using List.reverseRecOn with
  | nil => rfl
  | append_singleton front last ih => rw [assigned_append, last.field_into, ih]

theorem lastTo?_append (front : List Assignment) (last : Assignment) (field : Field) :
    lastTo? (front ++ [last]) field =
      if last.chooses field then some last else lastTo? front field := by
  unfold lastTo?
  rw [List.filter_append]
  by_cases hchosen : last.chooses field = true
  · simp [hchosen]
  · simp [hchosen]

/-- Without a fault the last assignment counts. -/
theorem value_assigned {fields : List Field} {assignments : List Assignment} {cell : Cell}
    (hapart : FieldsApart fields) (hfield : cell.field ∈ fields)
    (hnone : ∀ assignment ∈ assignments, assignment.fault? fields = none) :
    (assigned assignments cell).value = finalValue assignments cell := by
  induction assignments using List.reverseRecOn with
  | nil => rfl
  | append_singleton front last ih =>
    have hfront := ih fun assignment hmem => hnone assignment (List.mem_append_left _ hmem)
    have hlast := hnone last (List.mem_append_right _ List.mem_cons_self)
    rw [assigned_append, Assignment.into, field_assigned, finalValue, lastTo?_append]
    by_cases hchosen : last.chooses cell.field = true
    · -- whatever the cell held before, it holds the last value now
      have hholds := Assignment.holds_of_no_fault hapart hfield hchosen hlast
      rw [← field_assigned front cell] at hholds
      rw [if_pos hchosen, if_pos hchosen, Cell.value_taking hholds, field_assigned]
    · rw [if_neg hchosen, if_neg hchosen]
      exact hfront

/-! ### Assignments to an entity -/

section entity
variable {tracked : Tracked} {fields : List Field}

/-- The entity after assignments in order. -/
def assignedTo (tracked : Tracked) (assignments : List Assignment) : Tracked :=
  { tracked with entity :=
    { tracked.entity with cells := tracked.entity.cells.map (assigned assignments) } }

theorem fields_assignedTo (tracked : Tracked) (assignments : List Assignment) :
    (assignedTo tracked assignments).entity.fields = tracked.entity.fields := by
  unfold assignedTo Entity.fields
  rw [List.map_map]
  exact List.map_congr_left fun cell _ => field_assigned assignments cell

/-- An assignment is made unless it has a fault. -/
theorem applyTo_eq (hapart : FieldsApart tracked.entity.fields) (assignment : Assignment) :
    assignment.applyTo tracked =
      match assignment.fault? tracked.entity.fields with
      | some failure => .error failure
      | none => .ok (assignedTo tracked [assignment]) := by
  have happly : assignment.applyTo tracked =
      (tracked.set? assignment.chooses assignment.value.toJson).getD
        (.error (.unsupportedMember assignment.field)) := by
    unfold Assignment.applyTo
    change _ = (tracked.set? (fun field => field.name == assignment.field && field.isWritable)
      assignment.value.toJson).getD _
    simp only
    cases tracked.set? (fun field => field.name == assignment.field && field.isWritable)
      assignment.value.toJson with
    | none => rfl
    | some outcome => rfl
  rw [happly, Tracked.set?, Entity.set?, Assignment.fault?]
  cases hfield : tracked.entity.fields.find? assignment.chooses with
  | none =>
    rw [setFirst?_of_no_field hfield]
    rfl
  | some field =>
    simp only
    cases hcontent : field.content? assignment.value.toJson with
    | none =>
      rw [setFirst?_of_refused hfield hcontent]
      rfl
    | some content =>
      have hholds : (field.content? assignment.value.toJson).isSome = true := by
        rw [hcontent]
        rfl
      have hone : tracked.entity.fields.Pairwise fun a b =>
          ¬ (assignment.chooses a = true ∧ assignment.chooses b = true) :=
        hapart.imp fun h => Assignment.not_chooses_both h
      rw [setFirst?_of_accepted hfield hholds hone]
      rfl

/-- The first fault in a list of assignments. -/
def firstFault? (fields : List Field) (assignments : List Assignment) : Option Failure :=
  assignments.findSome? (Assignment.fault? fields)

/-- **Assignments are all made or none is.**  Without a fault all of them are made, and otherwise
    the first fault is what comes of them. -/
theorem assign_eq (hapart : FieldsApart tracked.entity.fields) (assignments : List Assignment) :
    assign tracked assignments =
      match firstFault? tracked.entity.fields assignments with
      | some failure => .error failure
      | none => .ok (assignedTo tracked assignments) := by
  induction assignments generalizing tracked with
  | nil =>
    have hsame : assignedTo tracked [] = tracked := by
      unfold assignedTo assigned
      simp only [List.foldl_nil, List.map_id']
    rw [hsame]
    rfl
  | cons first rest ih =>
    rw [assign, List.foldlM_cons, applyTo_eq hapart, firstFault?, List.findSome?_cons]
    cases hfault : first.fault? tracked.entity.fields with
    | some failure => rfl
    | none =>
      -- the rest is made on the same fields
      have hfields := fields_assignedTo tracked [first]
      have hrest := ih (hfields ▸ hapart)
      have hsame : assignedTo (assignedTo tracked [first]) rest =
          assignedTo tracked (first :: rest) := by
        unfold assignedTo
        simp only [List.map_map]
        rfl
      rw [hfields, hsame] at hrest
      exact hrest

end entity

/-! ### The fields that are sent -/

/-- The writable fields whose final value differs from the one that was read, with the final
    value. -/
def differing (read : Tracked) (assignments : List Assignment) : Record :=
  Members.ofList ((read.entity.cells.filter fun cell =>
      cell.field.isWritable && !cell.value.equal (finalValue assignments cell)).map
    fun cell => (cell.field.name, finalValue assignments cell))

section sent
variable {read : Tracked} {assignments : List Assignment}
  (hsnapshot : read.snapshot = read.entity.visibleFields)
  (hapart : FieldsApart read.entity.fields)
  (hnone : firstFault? read.entity.fields assignments = none)

include hapart hnone in
theorem value_of_no_fault {cell : Cell} (hmem : cell ∈ read.entity.cells) :
    (assigned assignments cell).value = finalValue assignments cell :=
  value_assigned hapart (List.mem_map_of_mem hmem) (List.findSome?_eq_none_iff.mp hnone)

include hsnapshot hapart hnone

/-- What has changed after the assignments is what differs from what was read. -/
theorem isChanged_assigned {cell : Cell} (hmem : cell ∈ read.entity.cells)
    (hwritable : cell.field.isWritable = true) :
    Tracked.isChanged (assignedTo read assignments).snapshot (assigned assignments cell) =
      !cell.value.equal (finalValue assignments cell) := by
  have hread : Members.get? cell.field.name (assignedTo read assignments).snapshot =
      some cell.value := by
    show Members.get? cell.field.name read.snapshot = _
    rw [hsnapshot, Entity.get?_visibleFields hapart hmem hwritable]
  rw [Tracked.isChanged, field_assigned, hread]
  simp only
  rw [value_of_no_fault hapart hnone hmem]

theorem changes_assignedTo :
    (assignedTo read assignments).changes = differing read assignments := by
  have hchosen : ∀ cell ∈ read.entity.cells,
      ((assigned assignments cell).field.isWritable &&
          Tracked.isChanged (assignedTo read assignments).snapshot (assigned assignments cell)) =
        (cell.field.isWritable && !cell.value.equal (finalValue assignments cell)) := by
    intro cell hmem
    rw [field_assigned]
    cases hwritable : cell.field.isWritable with
    | false => rfl
    | true => rw [isChanged_assigned hsnapshot hapart hnone hmem hwritable]
  have hcells : (assignedTo read assignments).entity.cells =
      read.entity.cells.map (assigned assignments) := rfl
  rw [Tracked.changes, differing, hcells, List.filter_map, List.map_map]
  simp only [Function.comp_def]
  rw [List.filter_congr hchosen]
  congr 1
  apply List.map_congr_left
  intro cell hcell
  rw [Cell.named, field_assigned, value_of_no_fault hapart hnone (List.mem_filter.mp hcell).1]

/-- A record of the differing fields has these fields with their final values, and no others. -/
theorem get?_differing_iff {name : String} {value : Value} :
    Members.get? name (differing read assignments) = some value ↔
      ∃ cell ∈ read.entity.cells, cell.field.isWritable = true ∧ cell.field.name = name ∧
        finalValue assignments cell = value ∧ cell.value.equal value = false := by
  have hchanges := changes_assignedTo hsnapshot hapart hnone
  have hfields := fields_assignedTo read assignments
  constructor
  · intro hget
    rw [← hchanges] at hget
    obtain ⟨after, hafter, hchosen, rfl, rfl⟩ := exists_of_get?_chosen hget
    obtain ⟨cell, hmem, rfl⟩ := List.mem_map.mp hafter
    obtain ⟨hwritable, hchanged⟩ := Bool.and_eq_true_iff.mp hchosen
    rw [field_assigned] at hwritable
    rw [isChanged_assigned hsnapshot hapart hnone hmem hwritable, Bool.not_eq_true'] at hchanged
    have hvalue := value_of_no_fault hapart hnone hmem
    refine ⟨cell, hmem, hwritable, ?_, hvalue.symm, ?_⟩
    · rw [field_assigned]
    · rw [hvalue]
      exact hchanged
  · rintro ⟨cell, hmem, hwritable, rfl, rfl, hdiffers⟩
    have hafter : assigned assignments cell ∈ (assignedTo read assignments).entity.cells :=
      List.mem_map_of_mem hmem
    have hget := Entity.get?_changes (hfields ▸ hapart) hafter (by rw [field_assigned, hwritable])
    rw [isChanged_assigned hsnapshot hapart hnone hmem hwritable, hdiffers, field_assigned,
      value_of_no_fault hapart hnone hmem, hchanges] at hget
    exact hget

/-- A field is sent if some writable field differs. -/
theorem differing_isEmpty_iff :
    (differing read assignments).isEmpty = true ↔
      ∀ cell ∈ read.entity.cells, cell.field.isWritable = true →
        cell.value.equal (finalValue assignments cell) = true := by
  constructor
  · intro hempty cell hmem hwritable
    by_contra hdiffers
    rw [Bool.not_eq_true] at hdiffers
    have hget := (get?_differing_iff hsnapshot hapart hnone).mpr
      ⟨cell, hmem, hwritable, rfl, rfl, hdiffers⟩
    rw [List.isEmpty_iff.mp hempty] at hget
    cases hget
  · intro hequal
    have hnothing : (read.entity.cells.filter fun cell =>
        cell.field.isWritable && !cell.value.equal (finalValue assignments cell)) = [] := by
      rw [List.filter_eq_nil_iff]
      intro cell hmem hchosen
      obtain ⟨hwritable, hdiffers⟩ := Bool.and_eq_true_iff.mp hchosen
      rw [hequal cell hmem hwritable] at hdiffers
      cases hdiffers
    rw [differing, hnothing]
    rfl

end sent

/-! ### What was read -/

section read
variable {σ : Type} [Peer σ] {client : Client} {type : EntityType} {id : String}
  {link seen : Link σ} {read : Tracked}

omit [Peer σ] in
/-- Reading leaves the fields of an entity as they are. -/
theorem fields_of_loadCells {payload : Members Json} {cells loaded : List Cell}
    (hload : Entity.loadCells payload cells = .ok loaded) :
    loaded.map Cell.field = cells.map Cell.field := by
  induction cells generalizing loaded with
  | nil =>
    cases hload
    rfl
  | cons first rest ih =>
    obtain ⟨cell, hcell, hload⟩ := bind_eq_ok.mp hload
    obtain ⟨others, hothers, hload⟩ := bind_eq_ok.mp hload
    cases hload
    rw [List.map_cons, List.map_cons, Entity.field_of_loadCell hcell, ih hothers]

omit [Peer σ] in
/-- Whatever is registered for the command line has its kind, writable fields with names of their
    own, and no field with a name that is reserved for the feed. -/
theorem registration_of_catalog {kind : String} {registration : Registration}
    (hregistered : (Resolver.ofCatalog catalog).registration kind = .ok registration) :
    FieldsApart registration.type.fields ∧ registration.type.kind = kind ∧
      ∀ field ∈ registration.type.fields, Entry.isReserved field.name = false := by
  obtain ⟨hmem, rfl⟩ :=
    Catalog.mem_of_under_eq_singleton (Resolver.registration_eq_ok_iff.mp hregistered)
  have hknown : registration = ⟨"Contact", "contacts", contact⟩ ∨
      registration = ⟨"Account", "accounts", account⟩ := List.mem_pair.mp hmem
  rcases hknown with rfl | rfl
  · exact ⟨by decide, rfl, by decide⟩
  · exact ⟨by decide, rfl, by decide⟩

/-- A resource as the command line reads it. -/
structure IsRead (client : Client) (type : EntityType) (id : String) (link : Link σ)
    (read : Tracked) (seen : Link σ) : Prop where
  persisted : read.lifecycle = .persisted
  snapshot : read.snapshot = read.entity.visibleFields
  apart : FieldsApart read.entity.fields
  unreserved : ∀ field ∈ read.entity.fields, Entry.isReserved field.name = false
  kind : read.entity.type.kind = type.kind
  sent : ∃ url, client.site.singleUrl type.kind id = .ok url ∧
    seen.sent = link.sent ++ [Request.read url]

theorem isRead_of_get (hcatalog : client.resolver = Resolver.ofCatalog catalog)
    (hread : (client.get type id).runOn link = (.ok read, seen)) :
    IsRead client type id link read seen := by
  have hgets := client.get_cases type id link
  rw [hread] at hgets
  cases hgets with
  | received haddress hanswer hsuccess hentry htracked =>
    obtain ⟨blank, entity, hblank, hload, rfl⟩ := materialize_eq_ok.mp htracked
    obtain ⟨cells, hcells, rfl⟩ := Entity.load_eq_ok.mp hload
    rw [hcatalog] at hblank
    obtain ⟨registration, hregistered, hblank⟩ := bind_eq_ok.mp hblank
    obtain ⟨hapart, hkind, hunreserved⟩ := registration_of_catalog hregistered
    have hfresh : blank = registration.type.fresh := by
      split at hblank
      · exact (Except.ok.inj hblank).symm
      · cases hblank
    have hfields : cells.map Cell.field = registration.type.fields := by
      rw [fields_of_loadCells hcells, hfresh, EntityType.fresh, List.map_map]
      exact List.map_id _
    refine ⟨rfl, rfl, ?_, ?_, ?_, ⟨_, haddress, rfl⟩⟩
    · show FieldsApart (cells.map Cell.field)
      rw [hfields]
      exact hapart
    · show ∀ field ∈ cells.map Cell.field, _
      rw [hfields]
      exact hunreserved
    · show blank.type.kind = type.kind
      rw [hfresh]
      exact hkind

/-- A kind that has one address has one for every key. -/
theorem exists_singleUrl {site : Site} {kind url : String}
    (haddress : site.singleUrl kind id = .ok url) (key : String) :
    ∃ other, site.singleUrl kind key = .ok other := by
  unfold Site.singleUrl at haddress ⊢
  cases hcollection : site.collectionUrl kind with
  | error failure =>
    rw [hcollection] at haddress
    cases haddress
  | ok collection => exact ⟨_, rfl⟩

omit [Peer σ] in
/-- The differing fields are read in a body as they are, but for floating-point numbers whose text
    is that of another number. -/
theorem decode_differing (hisRead : IsRead client type id link read seen)
    {assignments : List Assignment} (hnone : firstFault? read.entity.fields assignments = none)
    (hfloats : (differing read assignments).FloatsReadBack) :
    Entry.decode (Text.toBytes
        (Entry.ofPayload (Client.payload (differing read assignments))).encode) =
      .ok (Entry.ofPayload (Client.payload (differing read assignments))) := by
  have hchanges := changes_assignedTo hisRead.snapshot hisRead.apart hnone
  have hunreserved : (differing read assignments).Unreserved := by
    intro member hmem
    obtain ⟨cell, hcell, rfl⟩ := List.mem_map.mp (Members.mem_of_mem_ofList hmem)
    exact hisRead.unreserved _ (List.mem_map_of_mem (List.mem_filter.mp hcell).1)
  exact Client.decode_payload hchanges.symm hfloats hunreserved

end read

/-! ### The command -/

theorem runOn_map {σ α β : Type} (f : α → β) (operation : Exchange σ α) (link : Link σ) :
    (f <$> operation).runOn link =
      ((operation.runOn link).1.map f, (operation.runOn link).2) := by
  rw [← bind_pure_comp, Exchange.runOn_bind]
  rcases operation.runOn link with ⟨outcome, left⟩
  cases outcome with
  | error failure => rfl
  | ok value => rfl

section command
variable {σ : Type} [Peer σ] {client : Client} {type : EntityType} {id key url : String}
  {link seen : Link σ} {read : Tracked} {assignments : List Assignment}

/-- With a fault nothing happens after the resource was read. -/
theorem changeResource_of_fault (hread : (client.get type id).runOn link = (.ok read, seen))
    (hapart : FieldsApart read.entity.fields) {failure : Failure}
    (hfault : firstFault? read.entity.fields assignments = some failure) :
    (changeResource client type id assignments).runOn link = (.error failure, seen) := by
  rw [changeResource, Exchange.runOn_bind, hread]
  simp only
  rw [Exchange.runOn_bind, Exchange.runOn_ofExcept, assign_eq hapart, hfault]

/-- Without one the resource is saved with all assignments. -/
theorem changeResource_of_no_fault (hread : (client.get type id).runOn link = (.ok read, seen))
    (hapart : FieldsApart read.entity.fields)
    (hnone : firstFault? read.entity.fields assignments = none) :
    (changeResource client type id assignments).runOn link =
      (client.save (assignedTo read assignments)).runOn seen := by
  rw [changeResource, Exchange.runOn_bind, hread]
  simp only
  rw [Exchange.runOn_bind, Exchange.runOn_ofExcept, assign_eq hapart, hnone]

/-- Saving sends the differing fields to the address of the resource, if there are any. -/
theorem sent_save (hisRead : IsRead client type id link read seen) (hkey : read.key = some key)
    (haddress : client.site.singleUrl type.kind key = .ok url)
    (hnone : firstFault? read.entity.fields assignments = none) :
    ((client.save (assignedTo read assignments)).runOn seen).2.sent =
      seen.sent ++ if (differing read assignments).isEmpty then [] else
        [⟨.put, url, mediaType, some ((seen.versions.get? ⟨type.kind, key⟩).getD ""),
          some (Entry.ofPayload (Client.payload (differing read assignments))).encode⟩] := by
  have hchanges := changes_assignedTo hisRead.snapshot hisRead.apart hnone
  have hpersisted : (assignedTo read assignments).lifecycle = .persisted := hisRead.persisted
  have hstate := Tracked.state_of_changes hpersisted
  rw [Client.runOn_save, Plan.sent_runOn]
  congr 1
  cases hempty : (differing read assignments).isEmpty with
  | true =>
    rw [hchanges, hempty, if_pos rfl] at hstate
    rw [Client.savePlan, hstate]
    rfl
  | false =>
    rw [hchanges, hempty, if_neg Bool.false_ne_true] at hstate
    have hknown : (assignedTo read assignments).identity? = some ⟨type.kind, key⟩ := by
      show read.key.map _ = _
      rw [hkey]
      exact congrArg (fun kind => some (Identity.mk kind key)) hisRead.kind
    have hplan := Tracked.plan_of_modified hstate (by rw [hchanges, hempty]) hknown haddress
    have hsave : client.savePlan (assignedTo read assignments) =
        .send (Client.updateTask (assignedTo read assignments) ⟨type.kind, key⟩ url) := hplan
    rw [hsave, ← hchanges]
    rfl

/-- **Setting fields is all or nothing, and sends no more than it has to.**  Let the command line
    set fields of a resource that is read, and that has a key.

    If an assignment names no writable field, or one that cannot hold its value, nothing is sent
    but the request to read, and the first such fault is what the command comes to.  Otherwise
    one more request is sent exactly if the final value of some writable field differs from the
    one that was read.  It goes to the address of the key, and its body has exactly the differing
    fields, with their final values; these are what is decoded from the body, as long as
    floating-point numbers are read back from their text. -/
theorem set_is_all_or_nothing (hcatalog : client.resolver = Resolver.ofCatalog catalog)
    (hread : (client.get type id).runOn link = (.ok read, seen)) (hkey : read.key = some key)
    (assignments : List Assignment) (patience : Nat) :
    ∃ idUrl keyUrl, client.site.singleUrl type.kind id = .ok idUrl ∧
      client.site.singleUrl type.kind key = .ok keyUrl ∧
      seen.sent = link.sent ++ [Request.read idUrl] ∧
      (∀ failure, firstFault? read.entity.fields assignments = some failure →
        (Command.set type id assignments).run client link patience =
          (⟨[], some failure, false⟩, seen)) ∧
      (firstFault? read.entity.fields assignments = none →
        ((Command.set type id assignments).run client link patience).2.sent =
          seen.sent ++ (if (differing read assignments).isEmpty then [] else
            [⟨.put, keyUrl, mediaType, some ((seen.versions.get? ⟨type.kind, key⟩).getD ""),
              some (Entry.ofPayload (Client.payload (differing read assignments))).encode⟩]) ∧
        ((differing read assignments).FloatsReadBack →
          Entry.decode (Text.toBytes
              (Entry.ofPayload (Client.payload (differing read assignments))).encode) =
            .ok (Entry.ofPayload (Client.payload (differing read assignments)))) ∧
        ((differing read assignments).isEmpty = true ↔
          ∀ cell ∈ read.entity.cells, cell.field.isWritable = true →
            cell.value.equal (finalValue assignments cell) = true) ∧
        ∀ name value, Members.get? name (differing read assignments) = some value ↔
          ∃ cell ∈ read.entity.cells, cell.field.isWritable = true ∧ cell.field.name = name ∧
            finalValue assignments cell = value ∧ cell.value.equal value = false) := by
  have hisRead := isRead_of_get hcatalog hread
  obtain ⟨idUrl, haddress, hsent⟩ := hisRead.sent
  obtain ⟨keyUrl, hkeyAddress⟩ := exists_singleUrl haddress key
  have hrun : (Command.set type id assignments).run client link patience =
      runLine (entityLine <$> changeResource client type id assignments) link := rfl
  refine ⟨idUrl, keyUrl, haddress, hkeyAddress, hsent, ?_, ?_⟩
  · intro failure hfault
    rw [hrun, runLine, runOn_map, changeResource_of_fault hread hisRead.apart hfault]
    rfl
  · intro hnone
    refine ⟨?_, decode_differing hisRead hnone,
      differing_isEmpty_iff hisRead.snapshot hisRead.apart hnone,
      fun name value => get?_differing_iff hisRead.snapshot hisRead.apart hnone⟩
    rw [hrun, runLine, runOn_map, changeResource_of_no_fault hread hisRead.apart hnone]
    exact sent_save hisRead hkey hkeyAddress hnone

end command

/-! ### One contact -/

namespace Drawer

open SharedVersions.Counter (body entry_of_body)

/-- A server with one contact, which accepts every change. -/
structure Server where

instance : Peer Server where
  answer request server :=
    match request.method with
    | .get => (.ok ⟨200, some "v1", body⟩, server)
    | _ => (.ok ⟨200, none, []⟩, server)

theorem answer_put {request : Request} (hput : request.method = .put) (server : Server) :
    Peer.answer request server = (.ok ⟨200, none, []⟩, server) := by
  obtain ⟨method⟩ := request
  cases hput
  rfl

/-- A client for the resources of the command line. -/
def client : Client :=
  ⟨Settings.initial, Site.ofBase "https://x/sdata" (Resolver.ofCatalog catalog)⟩

/-- A link on which nothing has happened. -/
def link : Link Server :=
  ⟨.empty none, ⟨⟩, [], []⟩

/-- The contact as it is read. -/
def tom : Tracked :=
  let contents (place : Nat) (field : Field) : field.type.Content :=
    match place, field.type with
    | 0, .plain .text => "Tom"
    | _, type => type.blank
  Tracked.received (contact.fresh.rewritten contents) (some "C1")

/-- The link after the contact was read. -/
def seen : Link Server :=
  ⟨(VersionStore.empty none).insert ⟨"Contact", "C1"⟩ "v1", ⟨⟩,
    [Request.read "https://x/sdata/-/contacts('C1')"], []⟩

theorem get_contact : (client.get contact "C1").runOn link = (.ok tom, seen) := by
  have haddress : client.site.singleUrl contact.kind "C1" =
      .ok "https://x/sdata/-/contacts('C1')" := rfl
  have htracked : materialize client.resolver contact
      ⟨some "C1", some "v1", none, [("FirstName", .text "Tom")]⟩ = .ok tom := rfl
  have hanswer : (Peer.answer (Request.read "https://x/sdata/-/contacts('C1')") link.peer).1 =
      .ok ⟨200, some "v1", body⟩ := rfl
  exact Client.get_of_received haddress hanswer rfl entry_of_body htracked

/-- An assignment that a later one undoes is not sent. -/
def undone : List Assignment :=
  [⟨"FirstName", "Ann"⟩, ⟨"LastName", "Lee"⟩, ⟨"FirstName", "Tom"⟩]

/-- After two good assignments, one to a relationship. -/
def spoiled : List Assignment :=
  [⟨"FirstName", "Ann"⟩, ⟨"DoNotEmail", "1"⟩, ⟨"Account", "A1"⟩, ⟨"DoNotEmail", "x"⟩]

/-- Undone assignments are not sent, and after a wrong one nothing is.  The server reads the one
    field that is sent. -/
theorem set_contact :
    ((Command.set contact "C1" undone).run client link 1).2.sent = seen.sent ++
        [⟨.put, "https://x/sdata/-/contacts('C1')", mediaType, some "v1",
          some (Entry.ofPayload [("LastName", .text "Lee")]).encode⟩] ∧
      Entry.decode (Text.toBytes (Entry.ofPayload [("LastName", .text "Lee")]).encode) =
        .ok (Entry.ofPayload [("LastName", .text "Lee")]) ∧
      (Command.set contact "C1" spoiled).run client link 1 =
        (⟨[], some (.unsupportedMember "Account"), false⟩, seen) := by
  obtain ⟨-, keyUrl, -, haddress, -, -, hundone⟩ :=
    set_is_all_or_nothing rfl get_contact rfl undone 1
  obtain ⟨-, -, -, -, -, hspoiled, -⟩ := set_is_all_or_nothing rfl get_contact rfl spoiled 1
  obtain ⟨hsent, hdecode, -⟩ := hundone rfl
  have hurl : client.site.singleUrl contact.kind "C1" =
      .ok "https://x/sdata/-/contacts('C1')" := rfl
  rw [hurl] at haddress
  cases haddress
  have hdiffering : differing tom undone = [("LastName", .text "Lee")] := rfl
  have hfloats : (differing tom undone).FloatsReadBack := by
    intro member hmember number hnumber
    rw [hdiffering] at hmember
    cases List.mem_singleton.mp hmember
    cases hnumber
  exact ⟨hsent, hdecode hfloats, hspoiled _ rfl⟩

end Drawer

end CommandLine

end ResourceFeed
