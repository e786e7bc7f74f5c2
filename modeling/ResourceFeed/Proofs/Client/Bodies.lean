import ResourceFeed.Client.Operations
import ResourceFeed.Proofs.Feed.Codec

/-! # What a server reads in a body

    The body of a change is the text of an entry that has a payload and
    nothing else.  A server that decodes it has this payload again: the values
    of fields do not nest, and their names are in order.  Two things are left
    to the record: that its floating-point numbers are read back from their
    text, and that none of its names is reserved for the feed.
-/

namespace ResourceFeed

/-! ### Values of fields -/

/-- What a field holds is no record. -/
theorem FieldType.valueOf_ne_record : ∀ (type : FieldType) (content : type.Content)
    (fields : List (String × Value)), type.valueOf content ≠ .record fields
  | .plain wire, content, fields => by cases wire <;> nofun
  | .optional inner, content, fields => by
    cases (content : Option inner.Content) with
    | none => nofun
    | some content => exact valueOf_ne_record inner content fields

/-- Every finite floating-point number of a record is read back from its text. -/
def Record.FloatsReadBack (record : Record) : Prop :=
  ∀ member ∈ record, ∀ number, member.2 = .float number → Decimal.isFinite number = true →
    Json.FloatReadsBack number

/-- No name of a record is reserved for the feed. -/
def Record.Unreserved (record : Record) : Prop :=
  ∀ member ∈ record, Entry.isReserved member.1 = false

theorem wellFormed_toJson (value : Value) (depth : Nat) (hflat : ∀ fields, value ≠ .record fields)
    (hfloat : ∀ number, value = .float number → Decimal.isFinite number = true →
      Json.FloatReadsBack number) :
    value.toJson.WellFormed Json.FloatReadsBack depth := by
  cases value with
  | null | bool | text | instant => exact trivial
  | int value =>
    have hlow := value.le_toInt
    have hhigh := value.toInt_lt
    exact ⟨by omega, by unfold limitUInt64; omega⟩
  | float number =>
    rw [Value.toJson]
    split
    · rename_i hfinite
      exact hfloat number rfl hfinite
    · exact trivial
  | record fields => exact absurd rfl (hflat fields)

/-! ### Bodies -/

namespace Client

/-- The payload of a record of fields is read back. -/
theorem wellFormed_payload {cells : List Cell} {record : Record}
    (hrecord : record = Members.ofList (cells.map Cell.named))
    (hfloats : record.FloatsReadBack) (depth : Nat) :
    Json.WellFormedMembers Json.FloatReadsBack depth (payload record) := by
  refine Json.wellFormedMembers_iff.mpr (List.forall_mem_map.mpr fun member hmem => ?_)
  obtain ⟨cell, -, rfl⟩ := List.mem_map.mp (Members.mem_of_mem_ofList (hrecord ▸ hmem))
  exact wellFormed_toJson cell.value depth (cell.field.type.valueOf_ne_record cell.content)
    (hfloats _ hmem)

/-- The body for a record of fields is read as its payload. -/
theorem decode_payload {cells : List Cell} {record : Record}
    (hrecord : record = Members.ofList (cells.map Cell.named)) (hfloats : record.FloatsReadBack)
    (hnames : record.Unreserved) :
    Entry.decode (Text.toBytes (Entry.ofPayload (payload record)).encode) =
      .ok (Entry.ofPayload (payload record)) := by
  have hordered : Members.Ordered (payload record) :=
    List.pairwise_map.mpr (hrecord ▸ Members.ofList_ordered _)
  have hplain : (Entry.ofPayload (payload record)).IsPlain :=
    ⟨hordered, List.forall_mem_map.mpr hnames⟩
  exact hplain.decode_encode (Entry.readsBack_toJson (wellFormed_payload hrecord hfloats _))

end Client

end ResourceFeed
