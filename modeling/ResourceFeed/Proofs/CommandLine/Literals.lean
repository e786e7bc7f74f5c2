import ResourceFeed.Proofs.CommandLine.Changing

/-! # Literals in text fields

    What is assigned to a field on the command line is a literal, and not
    simply a text: the literal may be a number.  A text field takes the text
    of that number, which need not be the text that was typed.  Whatever spells
    no number is stored as it is typed.

    The words for a number that is not finite have no text.  They stand for
    nothing, as the word `null` does.
-/

namespace ResourceFeed.CommandLine

/-! ### The text of a literal -/

/-- Whether a text spells an integer of 64 bits or a floating-point number. -/
def spellsNumber (text : String) : Bool :=
  (Decimal.int64? text).isSome || (Decimal.float? text).isSome

/-- The text that a text field takes for a literal: that of its number, if it is one and finite, or
    else the literal as it is typed. -/
def storedText? (text : String) : Option String :=
  match Decimal.int64? text with
  | some value => some (toString value.toInt)
  | none =>
    match Decimal.float? text with
    | some value =>
      if Decimal.isFinite value then some (Decimal.Layout.document.text value) else none
    | none => some text

section literals
variable {text stored : String}

theorem storedText?_of_no_number (hnumber : spellsNumber text = false) :
    storedText? text = some text := by
  obtain ⟨hint, hfloat⟩ := Bool.or_eq_false_iff.mp hnumber
  rw [Option.isSome_eq_false_iff, Option.isNone_iff_eq_none] at hint hfloat
  rw [storedText?, hint, hfloat]

/-! The two truth values are stored as they are typed, too. -/

theorem storedText?_true : storedText? "true" = some "true" := by rfl

theorem storedText?_false : storedText? "false" = some "false" := by rfl

/-- A text field reads the literal as its text. -/
theorem coerce?_literal (hnull : text ≠ "null") (hstored : storedText? text = some stored) :
    coerce? .text (literal text).toJson = some (.text stored) := by
  unfold literal
  rw [if_neg hnull]
  by_cases htrue : text = "true"
  · rw [if_pos htrue]
    rw [htrue, storedText?_true] at hstored
    cases hstored
    rfl
  rw [if_neg htrue]
  by_cases hfalse : text = "false"
  · rw [if_pos hfalse]
    rw [hfalse, storedText?_false] at hstored
    cases hstored
    rfl
  rw [if_neg hfalse]
  -- what remains are the two sorts of numbers, and text
  unfold storedText? at hstored
  cases hint : Decimal.int64? text with
  | some value =>
    rw [hint] at hstored
    cases hstored
    rfl
  | none =>
    rw [hint] at hstored
    simp only at hstored ⊢
    cases hfloat : Decimal.float? text with
    | none =>
      rw [hfloat] at hstored
      cases hstored
      rfl
    | some value =>
      rw [hfloat] at hstored
      simp only at hstored ⊢
      by_cases hfinite : Decimal.isFinite value = true
      · rw [if_pos hfinite] at hstored
        cases hstored
        rw [Value.toJson, if_pos hfinite]
        rfl
      · rw [if_neg hfinite] at hstored
        cases hstored

/-- A literal without a text has no value in JSON, either. -/
theorem toJson_literal_of_none (hnone : storedText? text = none) : (literal text).toJson = .null := by
  have htrue : text ≠ "true" := by
    rintro rfl
    rw [storedText?_true] at hnone
    cases hnone
  have hfalse : text ≠ "false" := by
    rintro rfl
    rw [storedText?_false] at hnone
    cases hnone
  unfold literal
  by_cases hnull : text = "null"
  · rw [if_pos hnull]
    rfl
  rw [if_neg hnull, if_neg htrue, if_neg hfalse]
  unfold storedText? at hnone
  cases hint : Decimal.int64? text with
  | some value =>
    rw [hint] at hnone
    cases hnone
  | none =>
    rw [hint] at hnone
    simp only at hnone ⊢
    cases hfloat : Decimal.float? text with
    | none =>
      rw [hfloat] at hnone
      cases hnone
    | some value =>
      rw [hfloat] at hnone
      simp only at hnone ⊢
      by_cases hfinite : Decimal.isFinite value = true
      · rw [if_pos hfinite] at hnone
        cases hnone
      · rw [Value.toJson, if_neg hfinite]

end literals

/-- Literals with the same value in JSON do the same. -/
theorem changeResource_of_same_value {σ : Type} [Peer σ] (client : Client) (type : EntityType)
    (id name : String) {text other : String} (hsame : (literal text).toJson = (literal other).toJson) :
    (changeResource client type id [⟨name, text⟩] : Exchange σ Tracked) =
      changeResource client type id [⟨name, other⟩] := by
  have happly : ∀ tracked : Tracked,
      Assignment.applyTo ⟨name, text⟩ tracked = Assignment.applyTo ⟨name, other⟩ tracked := by
    intro tracked
    unfold Assignment.applyTo Assignment.value
    rw [hsame]
  have hassign : ∀ tracked : Tracked,
      assign tracked [⟨name, text⟩] = assign tracked [⟨name, other⟩] := by
    intro tracked
    rw [assign, assign, List.foldlM_cons, List.foldlM_cons, happly]
  unfold changeResource
  simp only [hassign]

/-! ### One assignment to a text field -/

section assignment
variable {read : Tracked} {cell : Cell} {text stored : String}
  (hapart : FieldsApart read.entity.fields) (hmem : cell ∈ read.entity.cells)
  (hwritable : cell.field.isWritable = true) (hwire : cell.field.type.wire = .text)
  (hnull : text ≠ "null") (hstored : storedText? text = some stored)

theorem chooses_own_field {field : Field} (hwritable : field.isWritable = true) (text : String) :
    Assignment.chooses ⟨field.name, text⟩ field = true := by
  rw [Assignment.chooses, hwritable, beq_self_eq_true]
  rfl

include hwire hnull hstored

/-- A text field holds every literal but those that are no text. -/
theorem content?_of_stored :
    (cell.field.content? (Assignment.value ⟨cell.field.name, text⟩).toJson).isSome = true := by
  have hvalue : coerce? cell.field.type.wire (literal text).toJson = some (.text stored) := by
    rw [hwire]
    exact coerce?_literal hnull hstored
  have hraw : (literal text).toJson.isNull = false := by
    cases hisNull : (literal text).toJson.isNull with
    | false => rfl
    | true =>
      rw [FieldType.coerce?_of_isNull hisNull] at hvalue
      cases hvalue
  obtain ⟨content, haccepted, -⟩ := FieldType.exists_content_of_coerce? hraw hvalue
  have hcontent : cell.field.content? (literal text).toJson = some content := by
    rw [Field.content?, hvalue]
    exact haccepted
  show (cell.field.content? (literal text).toJson).isSome = true
  rw [hcontent]
  rfl

include hwritable

theorem finalValue_of_stored :
    finalValue [⟨cell.field.name, text⟩] cell = .text stored := by
  have hlast : lastTo? [⟨cell.field.name, text⟩] cell.field = some ⟨cell.field.name, text⟩ := by
    unfold lastTo?
    rw [List.filter_cons, if_pos (chooses_own_field hwritable text)]
    rfl
  rw [finalValue, hlast]
  show (coerce? cell.field.type.wire (literal text).toJson).getD cell.value = _
  rw [hwire, coerce?_literal hnull hstored]
  rfl

include hapart hmem

theorem firstFault?_of_stored :
    firstFault? read.entity.fields [⟨cell.field.name, text⟩] = none := by
  have hfield := Assignment.find?_chosen hapart (List.mem_map_of_mem hmem)
    (chooses_own_field hwritable text)
  have hnone : Assignment.fault? read.entity.fields ⟨cell.field.name, text⟩ = none := by
    rw [Assignment.fault?, hfield]
    simp only
    rw [content?_of_stored hwire hnull hstored, if_pos rfl]
  rw [firstFault?, List.findSome?_cons, hnone]
  rfl

/-- The assigned field is sent as a text, and any other one only if it is not a number.  So no
    floating-point number is sent that could be read back as another one. -/
theorem floatsReadBack_of_stored :
    (differing read [⟨cell.field.name, text⟩]).FloatsReadBack := by
  intro member hmember number hnumber hfinite
  obtain ⟨sent, hsent, rfl⟩ := List.mem_map.mp (Members.mem_of_mem_ofList hmember)
  obtain ⟨hsent, hchosen⟩ := List.mem_filter.mp hsent
  obtain ⟨hwritableSent, hdiffers⟩ := Bool.and_eq_true_iff.mp hchosen
  have hvalue : finalValue [⟨cell.field.name, text⟩] sent = .float number := hnumber
  by_cases hname : Assignment.chooses ⟨cell.field.name, text⟩ sent.field = true
  · -- the field of the assignment, which is sent as a text
    have hsame : sent.field = cell.field := by
      have hfound := Assignment.find?_chosen hapart (List.mem_map_of_mem hsent) hname
      rw [Assignment.find?_chosen hapart (List.mem_map_of_mem hmem)
        (chooses_own_field hwritable text)] at hfound
      exact (Option.some.inj hfound).symm
    have htext : finalValue [⟨sent.field.name, text⟩] sent = .text stored :=
      finalValue_of_stored hwritableSent (by rw [hsame, hwire]) hnull hstored
    rw [← hsame, htext] at hvalue
    cases hvalue
  · -- any other field is sent only if it differs from itself
    have hlast : lastTo? [⟨cell.field.name, text⟩] sent.field = none := by
      unfold lastTo?
      rw [List.filter_cons, if_neg hname]
      rfl
    have hkept : finalValue [⟨cell.field.name, text⟩] sent = sent.value := by
      rw [finalValue, hlast]
    rw [hkept] at hvalue hdiffers
    rw [sent.equal_self, hvalue, Value.isNotNumber, isNaN_of_isFinite hfinite] at hdiffers
    cases hdiffers

end assignment

/-! ### What comes of saving -/

section saving
variable {σ : Type} [Peer σ] {client : Client} {tracked saved : Tracked} {link left : Link σ}

theorem runOn_save_of_unmodified (hstate : tracked.state = .unmodified) :
    (client.save tracked).runOn link = (.ok tracked, link) := by
  rw [Client.save, hstate]
  rfl

theorem runOn_save_of_modified (hstate : tracked.state = .modified) :
    (client.save tracked).runOn link = (client.update tracked).runOn link := by
  rw [Client.save, hstate]

theorem modified_of_changes (hpersisted : tracked.lifecycle = .persisted)
    (hchanges : tracked.changes.isEmpty = false) : tracked.state = .modified := by
  rw [Tracked.state_of_changes hpersisted, hchanges]
  rfl

/-- Saving leaves what a persisted entity holds. -/
theorem entity_of_save (hpersisted : tracked.lifecycle = .persisted)
    (hsaved : (client.save tracked).runOn link = (.ok saved, left)) :
    saved.entity = tracked.entity := by
  cases hchanges : tracked.changes.isEmpty with
  | true =>
    have hstate := Tracked.state_of_changes hpersisted
    rw [if_pos hchanges] at hstate
    rw [runOn_save_of_unmodified hstate] at hsaved
    cases hsaved
    rfl
  | false =>
    rw [runOn_save_of_modified (modified_of_changes hpersisted hchanges)] at hsaved
    have hupdates := client.update_cases tracked link
    rw [hsaved] at hupdates
    cases hupdates with
    | unchanged => rfl
    | accepted => rfl

/-- Saving a persisted entity that has an address succeeds if the server accepts what is sent. -/
theorem save_of_accepted {identity : Identity} {url : String}
    (hpersisted : tracked.lifecycle = .persisted) (hknown : tracked.identity? = some identity)
    (haddress : client.site.singleUrl identity.kind identity.id = .ok url)
    (haccepts : ∀ request : Request, request.method = .put →
      ∃ response, (Peer.answer request link.peer).1 = .ok response ∧ response.isSuccess = true) :
    ∃ saved left, (client.save tracked).runOn link = (.ok saved, left) := by
  cases hchanges : tracked.changes.isEmpty with
  | true =>
    have hstate := Tracked.state_of_changes hpersisted
    rw [if_pos hchanges] at hstate
    exact ⟨tracked, link, runOn_save_of_unmodified hstate⟩
  | false =>
    have hstate := modified_of_changes hpersisted hchanges
    have hupdate : client.HasUpdate tracked identity url :=
      { allowed := by simp [hstate]
        changed := hchanges
        known := hknown
        address := haddress }
    obtain ⟨response, hanswer, hsuccess⟩ :=
      haccepts (Client.updateOn link tracked identity url) rfl
    rw [runOn_save_of_modified hstate, Client.update_of_accepted hupdate hanswer hsuccess]
    exact ⟨_, _, rfl⟩

end saving

/-- A persisted entity is saved with one request at most, which has its changes. -/
theorem body_of_sentSince {σ : Type} [Peer σ] {client : Client} {tracked : Tracked} {link : Link σ}
    (hpersisted : tracked.lifecycle = .persisted) {request : Request}
    (hsent : request ∈ link.sentSince ((client.save tracked).runOn link).2) :
    request.method = .put ∧
      request.body = some (Entry.ofPayload (Client.payload tracked.changes)).encode := by
  rw [Client.runOn_save, Plan.sentSince_runOn, Option.mem_toList] at hsent
  obtain ⟨task, hplan, rfl⟩ := Plan.eq_send_of_request? hsent
  have hsends : Client.Sends client tracked .save task := Client.sends_of_plan hplan
  cases hsends with
  | insert _ hnew =>
    have hstill := Client.lifecycle_of_new hnew
    rw [hpersisted] at hstill
    cases hstill
  | update => exact ⟨rfl, rfl⟩

/-! ### Main statement -/

/-- **A text field is left with the text of the literal.**  Let the command line assign a literal to
    a writable text field of a resource that is read.

    If the literal has a text, and is not the word `null`, then the field is left equal to that text.
    If the resource has a key and the server accepts what it is sent, the command succeeds.  Every
    request but the one that reads the resource is an update, and what is decoded from its body has
    exactly this text for the field, or nothing if the field held it already.

    The text is the literal as it was typed unless it spells a number.  A literal without a text
    spells a number that is not finite, and it does what the word `null` does. -/
theorem text_field_takes_literal {σ : Type} [Peer σ] {client : Client}
    (hcatalog : client.resolver = Resolver.ofCatalog catalog) {type : EntityType} {id : String}
    {link seen : Link σ} {read : Tracked}
    (hread : (client.get type id).runOn link = (.ok read, seen)) {cell : Cell}
    (hmem : cell ∈ read.entity.cells) (hwritable : cell.field.isWritable = true)
    (hwire : cell.field.type.wire = .text) {text : String} (hnull : text ≠ "null") :
    let run := (changeResource client type id [⟨cell.field.name, text⟩]).runOn link
    (∀ stored, storedText? text = some stored →
      (∀ saved left, run = (.ok saved, left) →
        ∃ after ∈ saved.entity.cells, after.field = cell.field ∧ after.value = .text stored) ∧
      (read.key.isSome = true →
        (∀ request : Request, request.method = .put → ∃ response,
          (Peer.answer request seen.peer).1 = .ok response ∧ response.isSuccess = true) →
        ∃ saved left, run = (.ok saved, left)) ∧
      ∀ request ∈ seen.sentSince run.2, request.method = .put ∧
        ∃ payload, request.body = some (Entry.ofPayload payload).encode ∧
          Entry.decode (Text.toBytes (Entry.ofPayload payload).encode) =
            .ok (Entry.ofPayload payload) ∧
          Members.get? cell.field.name payload =
            if cell.value.equal (.text stored) then none else some (.text stored)) ∧
    (spellsNumber text = false → storedText? text = some text) ∧
    (storedText? text = none →
      run = (changeResource client type id [⟨cell.field.name, "null"⟩]).runOn link) := by
  intro run
  have hnothing : storedText? text = none →
      run = (changeResource client type id [⟨cell.field.name, "null"⟩]).runOn link := by
    intro hstored
    have hvalue : (literal text).toJson = (literal "null").toJson := toJson_literal_of_none hstored
    exact congrArg (fun exchange => exchange.runOn link)
      (changeResource_of_same_value client type id cell.field.name hvalue)
  refine ⟨?_, storedText?_of_no_number, hnothing⟩
  intro stored hstored
  have hisRead := isRead_of_get hcatalog hread
  have hnone := firstFault?_of_stored hisRead.apart hmem hwritable hwire hnull hstored
  have hfinal := finalValue_of_stored hwritable hwire hnull hstored
  have hrun : run = (client.save (assignedTo read [⟨cell.field.name, text⟩])).runOn seen :=
    changeResource_of_no_fault hread hisRead.apart hnone
  have hpersisted : (assignedTo read [⟨cell.field.name, text⟩]).lifecycle = .persisted :=
    hisRead.persisted
  refine ⟨?_, ?_, ?_⟩
  · intro saved left hsaved
    rw [hrun] at hsaved
    refine ⟨assigned [⟨cell.field.name, text⟩] cell, ?_, field_assigned _ cell, ?_⟩
    · rw [entity_of_save hpersisted hsaved]
      exact List.mem_map_of_mem hmem
    · rw [value_of_no_fault hisRead.apart hnone hmem, hfinal]
  · intro hkey haccepts
    obtain ⟨key, hkey⟩ := Option.isSome_iff_exists.mp hkey
    obtain ⟨idUrl, haddress, -⟩ := hisRead.sent
    obtain ⟨url, haddress⟩ := exists_singleUrl haddress key
    have hknown : (assignedTo read [⟨cell.field.name, text⟩]).identity? =
        some ⟨read.entity.type.kind, key⟩ := by
      show read.key.map _ = _
      rw [hkey]
      rfl
    rw [hrun]
    exact save_of_accepted hpersisted hknown (hisRead.kind ▸ haddress) haccepts
  · intro request hsent
    rw [hrun] at hsent
    obtain ⟨hput, hbody⟩ := body_of_sentSince hpersisted hsent
    have hdecode := decode_differing hisRead hnone
      (floatsReadBack_of_stored hisRead.apart hmem hwritable hwire hnull hstored)
    rw [← changes_assignedTo hisRead.snapshot hisRead.apart hnone] at hdecode
    refine ⟨hput, _, hbody, hdecode, ?_⟩
    have hafter : assigned [⟨cell.field.name, text⟩] cell ∈
        (assignedTo read [⟨cell.field.name, text⟩]).entity.cells := List.mem_map_of_mem hmem
    have hfields := fields_assignedTo read [⟨cell.field.name, text⟩]
    have hget := Entity.get?_changes (hfields ▸ hisRead.apart) hafter
      (by rw [field_assigned, hwritable])
    rw [isChanged_assigned hisRead.snapshot hisRead.apart hnone hmem hwritable,
      value_of_no_fault hisRead.apart hnone hmem, hfinal, field_assigned] at hget
    rw [get?_payload, hget]
    cases cell.value.equal (.text stored) with
    | true => rfl
    | false => rfl

namespace Drawer

/-- A name is stored as it is typed. -/
theorem name_is_stored :
    storedText? "Ann" = some "Ann" ∧
      ∃ saved left, (changeResource client contact "C1" [⟨"FirstName", "Ann"⟩]).runOn link =
          (.ok saved, left) ∧
        ∃ cell ∈ saved.entity.cells, cell.field.name = "FirstName" ∧ cell.value = .text "Ann" := by
  have hstored : storedText? "Ann" = some "Ann" := by rfl
  obtain ⟨cell, hcell⟩ : ∃ cell, tom.entity.cells.head? = some cell := ⟨_, rfl⟩
  have hmem : cell ∈ tom.entity.cells := List.mem_of_head? hcell
  cases hcell
  obtain ⟨hstores, -⟩ := text_field_takes_literal rfl get_contact hmem rfl rfl
    (show "Ann" ≠ "null" by decide)
  obtain ⟨htaken, hsucceeds, -⟩ := hstores "Ann" hstored
  have haccepts : ∀ request : Request, request.method = .put → ∃ response,
      (Peer.answer request seen.peer).1 = .ok response ∧ response.isSuccess = true := by
    intro request hput
    refine ⟨⟨200, none, []⟩, ?_, rfl⟩
    rw [answer_put hput]
  obtain ⟨saved, left, hsaved⟩ := hsucceeds rfl haccepts
  obtain ⟨after, hafter, hfield, hvalue⟩ := htaken saved left hsaved
  exact ⟨hstored, saved, left, hsaved, after, hafter, congrArg Field.name hfield, hvalue⟩

/-- Leading zeros are lost, since the literal is a number: the contact has the first name `7`, and so
    has the server. -/
theorem leading_zeros_are_lost :
    "007" ≠ "null" ∧
      ∃ saved left, (changeResource client contact "C1" [⟨"FirstName", "007"⟩]).runOn link =
          (.ok saved, left) ∧
        (¬ ∃ cell ∈ saved.entity.cells,
          cell.field.name = "FirstName" ∧ cell.value = .text "007") ∧
        seen.sentSince left = [⟨.put, "https://x/sdata/-/contacts('C1')", mediaType, some "v1",
          some (Entry.ofPayload [("FirstName", .text "7")]).encode⟩] := by
  have hisRead := isRead_of_get rfl get_contact
  have hnone : firstFault? tom.entity.fields [⟨"FirstName", "007"⟩] = none := by rfl
  have hnames : (assignedTo tom [⟨"FirstName", "007"⟩]).entity.cells.filter
      (fun cell => cell.field.name == "FirstName") = [⟨.writable "FirstName" "first_name"
        (.plain .text), "7"⟩] := by rfl
  obtain ⟨saved, left, hsave, hsent⟩ : ∃ saved left,
      (client.save (assignedTo tom [⟨"FirstName", "007"⟩])).runOn seen = (.ok saved, left) ∧
        seen.sentSince left = [⟨.put, "https://x/sdata/-/contacts('C1')", mediaType, some "v1",
          some (Entry.ofPayload [("FirstName", .text "7")]).encode⟩] := ⟨_, _, rfl, rfl⟩
  refine ⟨by decide, saved, left, ?_, ?_, hsent⟩
  · rw [changeResource_of_no_fault get_contact hisRead.apart hnone, hsave]
  · rintro ⟨cell, hmem, hname, hvalue⟩
    have hentity : saved.entity = (assignedTo tom [⟨"FirstName", "007"⟩]).entity :=
      entity_of_save rfl hsave
    rw [hentity] at hmem
    -- the only cell with the name holds another text
    have hfound : cell ∈ (assignedTo tom [⟨"FirstName", "007"⟩]).entity.cells.filter
        (fun cell => cell.field.name == "FirstName") :=
      List.mem_filter.mpr ⟨hmem, beq_iff_eq.mpr hname⟩
    rw [hnames, List.mem_singleton] at hfound
    subst hfound
    have hsame : Value.text "7" = .text "007" := hvalue
    exact absurd (Value.text.inj hsame) (by decide)

end Drawer

end ResourceFeed.CommandLine
