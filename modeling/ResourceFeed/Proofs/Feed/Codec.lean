import ResourceFeed.Feed.Entry
import ResourceFeed.Proofs.Json.Printing

/-! # Sending an entry and reading it back

    An entry is sent as one object, which has its key and its payload.  The
    key has a reserved name and the members of the payload have not, so that
    neither can get in the way of the other, and the object is no feed.  What
    is read back is the entry without its version and its name.

    An entry that was read has no reserved names in its payload, so it can be
    sent and read any number of times without a change.
-/

namespace ResourceFeed

/-- A body that is a printed value is this document. -/
theorem document_of_wellFormed {json : Json}
    (hwellFormed : json.WellFormed Json.FloatReadsBack Json.depthLimit) :
    document (Text.toBytes json.render) = .ok json := by
  have hbody : Json.ofBytes? (Text.toBytes json.render) = some json :=
    Json.readsBack_of_wellFormed hwellFormed
  rw [document, hbody]

namespace Entry

/-- The payload has its names in order, and none of them is reserved. -/
structure IsPlain (entry : Entry) : Prop where
  ordered : Members.Ordered entry.payload
  unreserved : ∀ member ∈ entry.payload, isReserved member.1 = false

/-- The key of an entry as a member. -/
def keyMembers (entry : Entry) : Members Json :=
  match entry.key with
  | some key => [("$key", .text key)]
  | none => []

/-- The members that are sent for an entry. -/
def sentMembers (entry : Entry) : Members Json :=
  entry.payload.foldl (fun all member => Members.insert member.1 member.2 all) entry.keyMembers

theorem toJson_eq (entry : Entry) : entry.toJson = .object entry.sentMembers := rfl

variable {entry : Entry}

theorem ordered_keyMembers : Members.Ordered entry.keyMembers := by
  unfold keyMembers
  cases entry.key with
  | none => exact List.Pairwise.nil
  | some key => exact List.pairwise_singleton _ _

/-- Under a name that is no key only the key can be found beside the payload. -/
theorem get?_keyMembers_of_ne {name : String} (hname : name ≠ "$key") :
    Members.get? name entry.keyMembers = none := by
  unfold keyMembers
  cases entry.key with
  | none => rfl
  | some key =>
    simp only
    rw [Members.get?, if_neg hname, Members.get?]

/-- An object is read as a resource, unless it has a list of resources. -/
theorem decode_of_object {body : Text.Bytes} {members : Members Json}
    (hdocument : document body = .ok (.object members)) :
    decode body = match (Members.get? "$resources" members).bind Json.items? with
      | some (first :: _) => entryOfJson first
      | some [] => .error (.document .noResource)
      | none => .ok (ofMembers members) := by
  unfold decode
  rw [hdocument]
  show (match (Members.get? "$resources" members).bind Json.items? with
    | some (first :: _) => entryOfJson first
    | some [] => throw (Failure.document .noResource)
    | none => return ofMembers members) = _
  rcases (Members.get? "$resources" members).bind Json.items? with _ | _ | _
  · rfl
  · rfl
  · rfl

namespace IsPlain

variable (hplain : entry.IsPlain)
include hplain

/-- The payload has nothing under a reserved name. -/
theorem get?_payload_of_reserved {name : String} (hreserved : isReserved name = true) :
    Members.get? name entry.payload = none := by
  apply Members.get?_of_ne
  rintro member hmem rfl
  rw [hplain.unreserved member hmem] at hreserved
  cases hreserved

theorem get?_sentMembers (name : String) :
    Members.get? name entry.sentMembers =
      (Members.get? name entry.payload).or (Members.get? name entry.keyMembers) :=
  Members.get?_foldl_insert hplain.ordered name

/-- Under a reserved name only the key is sent. -/
theorem get?_sentMembers_of_reserved {name : String} (hreserved : isReserved name = true) :
    Members.get? name entry.sentMembers = Members.get? name entry.keyMembers := by
  rw [hplain.get?_sentMembers, hplain.get?_payload_of_reserved hreserved]
  rfl

/-- What is sent without reserved names is the payload. -/
theorem filter_sentMembers :
    (entry.sentMembers.filter fun member => !isReserved member.1) = entry.payload := by
  have hsent : Members.Ordered entry.sentMembers :=
    Members.ordered_foldl_insert ordered_keyMembers
  refine Members.ext_of_ordered (hsent.filter _) hplain.ordered fun name => ?_
  rw [Members.get?_filter fun name => !isReserved name]
  cases hreserved : isReserved name with
  | true => rw [hplain.get?_payload_of_reserved hreserved]; rfl
  | false =>
    -- the key has a reserved name, so this is another one
    have hname : name ≠ "$key" := by
      rintro rfl
      cases hreserved
    rw [hplain.get?_sentMembers, get?_keyMembers_of_ne hname, Option.or_none]
    rfl

/-- The members that are sent make the entry again. -/
theorem ofMembers_sentMembers :
    ofMembers entry.sentMembers = { entry with version := none, resourceName := none } := by
  have hkey : (Members.get? "$key" entry.sentMembers).bind scalarText? = entry.key := by
    rw [hplain.get?_sentMembers_of_reserved rfl, keyMembers]
    cases entry.key with
    | none => rfl
    | some key => rfl
  have hversion : (Members.get? "$etag" entry.sentMembers).bind scalarText? = none := by
    rw [hplain.get?_sentMembers_of_reserved rfl, get?_keyMembers_of_ne (by decide)]
    rfl
  have hname : (Members.get? "$name" entry.sentMembers).bind scalarText? = none := by
    rw [hplain.get?_sentMembers_of_reserved rfl, get?_keyMembers_of_ne (by decide)]
    rfl
  rw [ofMembers, hkey, hversion, hname, hplain.filter_sentMembers]

/-- An object that is sent is read as a resource and not as a feed. -/
theorem decode_encode (hreads : entry.toJson.ReadsBack) :
    decode (Text.toBytes entry.encode) =
      .ok { entry with version := none, resourceName := none } := by
  have hdocument : document (Text.toBytes entry.encode) = .ok (.object entry.sentMembers) := by
    have hread : Json.ofBytes? (Text.toBytes entry.encode) = some entry.toJson := hreads
    rw [document, hread, toJson_eq]
  have hresources : Members.get? "$resources" entry.sentMembers = none := by
    rw [hplain.get?_sentMembers_of_reserved rfl, get?_keyMembers_of_ne (by decide)]
  rw [decode_of_object hdocument, hresources, ← hplain.ofMembers_sentMembers]
  rfl

end IsPlain

/-! ### Entries that were read -/

theorem isPlain_ofMembers {members : Members Json} (hordered : Members.Ordered members) :
    (ofMembers members).IsPlain where
  ordered := hordered.filter _
  unreserved := by
    intro member hmem
    simpa using (List.mem_filter.mp hmem).2

/-- An object of a well-formed document has its members in order. -/
theorem isPlain_of_entryOfJson {floats : Float → Prop} {depth : Nat} {json : Json}
    (hwellFormed : json.WellFormed floats depth) (hread : entryOfJson json = .ok entry) :
    entry.IsPlain := by
  cases json with
  | object members =>
    cases hread
    cases depth with
    | zero => cases hwellFormed
    | succ depth => exact isPlain_ofMembers hwellFormed.1
  | _ => cases hread

theorem isPlain_of_decode {body : Text.Bytes} (hread : decode body = .ok entry) :
    entry.IsPlain := by
  cases hjson : document body with
  | error failure =>
    unfold decode at hread
    rw [hjson] at hread
    cases hread
  | ok json =>
    have hwellFormed : json.WellFormed Json.anyFloat Json.depthLimit := by
      unfold document at hjson
      split at hjson
      · rename_i read hbytes
        cases hjson
        exact Json.wellFormed_of_ofBytes? hbytes
      · cases hjson
    cases json with
    | object members =>
      obtain ⟨hordered, hmembers⟩ := hwellFormed
      rw [decode_of_object hjson] at hread
      split at hread
      · -- a feed: its first resource is a value inside of the document
        rename_i first rest hresources
        obtain ⟨resources, hresources, hitems⟩ := Option.bind_eq_some_iff.mp hresources
        have hmember := Json.wellFormedMembers_iff.mp hmembers _ (Members.mem_of_get? hresources)
        cases resources with
        | array items =>
          cases hitems
          exact isPlain_of_entryOfJson
            (Json.wellFormedItems_iff.mp hmember first List.mem_cons_self) hread
        | _ => cases hitems
      · cases hread
      · cases hread
        exact isPlain_ofMembers hordered
    | _ =>
      unfold decode at hread
      rw [hjson] at hread
      cases hread

/-- The object of an entry is read back if its floating-point numbers are, its integers fit 64 bits
    and its payload does not nest too deep.  Nothing else can get lost. -/
theorem readsBack_toJson
    (hpayload : Json.WellFormedMembers Json.FloatReadsBack 126 entry.payload) :
    entry.toJson.ReadsBack := by
  apply Json.readsBack_of_wellFormed
  refine ⟨Members.ordered_foldl_insert ordered_keyMembers,
    Json.wellFormedMembers_iff.mpr fun member hmem => ?_⟩
  rcases Members.mem_foldl_insert hmem with hkey | hmember
  · -- the key is text
    cases hentry : entry.key with
    | none =>
      rw [hentry] at hkey
      cases hkey
    | some key =>
      rw [hentry] at hkey
      cases List.mem_singleton.mp hkey
      exact trivial
  · exact Json.wellFormedMembers_iff.mp hpayload member hmember

/-! ### Main statement -/

/-- **Entries round-trip.**  Let the printed object of an entry be read back as that object, as it
    is if its floating-point numbers are read back, its integers fit 64 bits and it does not nest
    too deep.

    If no name of the payload is reserved, and the names are in order as those of every object are,
    then decoding what the entry is encoded as gives the entry without its version and its name.
    And if the entry was decoded from any bytes, then decoding it again after it was encoded gives
    the same key and the same payload. -/
theorem encode_round_trips (entry : Entry) :
    (Json.WellFormedMembers Json.FloatReadsBack 126 entry.payload → entry.toJson.ReadsBack) ∧
    (entry.toJson.ReadsBack →
      (Members.Ordered entry.payload →
        (∀ member ∈ entry.payload, isReserved member.1 = false) →
        decode (Text.toBytes entry.encode) =
          .ok { entry with version := none, resourceName := none }) ∧
      ∀ body : Text.Bytes, decode body = .ok entry →
        ∃ again, decode (Text.toBytes entry.encode) = .ok again ∧ again.key = entry.key ∧
          again.payload = entry.payload) := by
  refine ⟨readsBack_toJson, fun hreads => ⟨?_, ?_⟩⟩
  · intro hordered hunreserved
    exact IsPlain.decode_encode ⟨hordered, hunreserved⟩ hreads
  · intro body hdecoded
    exact ⟨_, (isPlain_of_decode hdecoded).decode_encode hreads, rfl, rfl⟩

namespace Postcard

/-- Members of all shapes but floating-point numbers. -/
def payload : Members Json :=
  [("Address", .object [("City", .text "Zürich"), ("Lines", .array [.text "c/o \"Tom\"\n", .null])]),
    ("Paid", .bool false), ("Postage", .integer (-3)), ("Tags", .array [])]

/-- An entry with a version and a name, which are not sent. -/
def card : Entry :=
  ⟨some "P1", some "v9", some "postcard", payload⟩

/-- A feed with the resource, which has another member that is ignored. -/
def feed : Json :=
  .object [("$resources", .array [.object ([("$descriptor", .text "A postcard"),
    ("$etag", .text "v9"), ("$key", .text "P1"), ("$name", .text "postcard")] ++ payload)])]

theorem ordered_payload : Members.Ordered payload := by
  unfold Members.Ordered payload
  decide

theorem wellFormed_payload (depth : Nat) :
    Json.WellFormedMembers Json.FloatReadsBack (depth + 2) payload := by
  have haddress : Members.Ordered
      [("City", Json.text "Zürich"), ("Lines", .array [.text "c/o \"Tom\"\n", .null])] := by
    unfold Members.Ordered
    decide
  have hpostage : -9223372036854775808 ≤ (-3 : Int) ∧ (-3 : Int) < limitUInt64 := by decide
  exact ⟨⟨haddress, trivial, ⟨trivial, trivial, trivial⟩, trivial⟩, trivial, hpostage, trivial,
    trivial⟩

theorem wellFormed_feed : feed.WellFormed Json.FloatReadsBack Json.depthLimit := by
  have hresource : Members.Ordered ([("$descriptor", Json.text "A postcard"),
      ("$etag", .text "v9"), ("$key", .text "P1"), ("$name", .text "postcard")] ++ payload) := by
    unfold Members.Ordered payload
    decide
  exact ⟨List.pairwise_singleton _ _, ⟨⟨hresource, trivial, trivial, trivial, trivial,
    wellFormed_payload 122⟩, trivial⟩, trivial⟩

/-- The postcard comes back, and so it does if it was read from a feed. -/
theorem card_comes_back :
    decode (Text.toBytes card.encode) = .ok { card with version := none, resourceName := none } ∧
      decode (Text.toBytes feed.render) = .ok card ∧
      ∃ again, decode (Text.toBytes card.encode) = .ok again ∧ again.key = card.key ∧
        again.payload = card.payload := by
  obtain ⟨hreads, hround⟩ := encode_round_trips card
  obtain ⟨hsent, hread⟩ := hround (hreads (wellFormed_payload _))
  have hfeed : decode (Text.toBytes feed.render) = .ok card := by
    have hdocument : document (Text.toBytes feed.render) = .ok feed :=
      document_of_wellFormed wellFormed_feed
    rw [decode_of_object hdocument]
    rfl
  exact ⟨hsent ordered_payload (by decide), hfeed, hread _ hfeed⟩

end Postcard

end Entry

end ResourceFeed
