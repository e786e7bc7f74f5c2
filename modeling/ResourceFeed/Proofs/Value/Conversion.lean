import ResourceFeed.Value.Text

/-! # Values and JSON

    Every value has a JSON form and every JSON value a value, but neither side
    has all that the other one has.  JSON has no instants and no numbers that
    are not finite; values have no arrays and no integers beyond 64 bits with
    sign.  Nothing else is lost: what holds none of these comes back as it was,
    however deep records are nested, and what holds one of them does not.
-/

namespace ResourceFeed

/-! ### What both sides have -/

mutual

/-- Nothing in a JSON value is an array, and its numbers are integers that fit 64 bits with sign or
    finite. -/
def Json.IsShared : Json → Prop
  | .null | .bool _ | .text _ => True
  | .integer value => FitsInt64 value
  | .float value => Decimal.isFinite value = true
  | .array _ => False
  | .object members => Json.AreShared members

/-- The same of all members. -/
def Json.AreShared : List (String × Json) → Prop
  | [] => True
  | (_, json) :: rest => json.IsShared ∧ Json.AreShared rest

end

namespace Value

mutual

/-- Nothing in a value is an instant, and its numbers are finite. -/
def IsShared : Value → Prop
  | .null | .bool _ | .int _ | .text _ => True
  | .float value => Decimal.isFinite value = true
  | .instant _ => False
  | .record fields => AreShared fields

/-- The same of all fields. -/
def AreShared : List (String × Value) → Prop
  | [] => True
  | (_, value) :: rest => value.IsShared ∧ AreShared rest

end

/-! ### From JSON and back -/

/-- An integer comes back if it fits 64 bits with sign; any other becomes a floating-point number. -/
theorem toJson_ofJson_integer_iff (number : Int) :
    (ofJson (.integer number)).toJson = .integer number ↔ FitsInt64 number := by
  by_cases hfits : FitsInt64 number
  · have hword : int64OfInt? number = some (Int64.ofInt number) := if_pos hfits
    have hback : (Int64.ofInt number).toInt = number := int64OfInt?_eq_some_iff.mp hword
    rw [ofJson, hword]
    exact iff_of_true (congrArg Json.integer hback) hfits
  · -- the floating-point number has another form than the integer, whatever it is
    have hword : int64OfInt? number = none := if_neg hfits
    rw [ofJson, hword]
    refine iff_of_false ?_ hfits
    simp only [toJson]
    split <;> exact Json.noConfusion

/-- A floating-point number has a JSON form of its own if it is finite. -/
theorem toJson_float_iff (number : Float) :
    (Value.float number).toJson = .float number ↔ Decimal.isFinite number = true := by
  rw [toJson]
  by_cases hfinite : Decimal.isFinite number = true
  · rw [if_pos hfinite]
    exact iff_of_true rfl hfinite
  · rw [if_neg hfinite]
    exact iff_of_false Json.noConfusion hfinite

mutual

theorem toJson_ofJson_iff : ∀ json : Json, (ofJson json).toJson = json ↔ json.IsShared
  | .null => iff_of_true rfl trivial
  | .bool _ => iff_of_true rfl trivial
  | .integer number => toJson_ofJson_integer_iff number
  | .float number => toJson_float_iff number
  | .text _ => iff_of_true rfl trivial
  | .array _ => iff_of_false Json.noConfusion id
  | .object members => by
    rw [ofJson, toJson, Json.object.injEq]
    exact toJsonFields_ofJsonMembers_iff members

theorem toJsonFields_ofJsonMembers_iff : ∀ members : List (String × Json),
    toJsonFields (ofJsonMembers members) = members ↔ Json.AreShared members
  | [] => iff_of_true rfl trivial
  | (name, json) :: rest => by
    rw [ofJsonMembers, toJsonFields, List.cons.injEq, Prod.mk.injEq, eq_self_iff_true, true_and]
    exact and_congr (toJson_ofJson_iff json) (toJsonFields_ofJsonMembers_iff rest)

end

/-! ### To JSON and back -/

theorem ofJson_toJson_float_iff (number : Float) :
    ofJson (Value.float number).toJson = .float number ↔ Decimal.isFinite number = true := by
  rw [toJson]
  by_cases hfinite : Decimal.isFinite number = true
  · rw [if_pos hfinite]
    exact iff_of_true rfl hfinite
  · rw [if_neg hfinite]
    exact iff_of_false Value.noConfusion hfinite

mutual

theorem ofJson_toJson_iff : ∀ value : Value, ofJson value.toJson = value ↔ value.IsShared
  | .null => iff_of_true rfl trivial
  | .bool _ => iff_of_true rfl trivial
  | .int word => by
    have hword : int64OfInt? word.toInt = some word := int64OfInt?_eq_some_iff.mpr rfl
    rw [toJson, ofJson, hword]
    exact iff_of_true rfl trivial
  | .float number => ofJson_toJson_float_iff number
  | .text _ => iff_of_true rfl trivial
  | .instant _ => iff_of_false Value.noConfusion id
  | .record fields => by
    rw [toJson, ofJson, Value.record.injEq]
    exact ofJsonMembers_toJsonFields_iff fields

theorem ofJsonMembers_toJsonFields_iff : ∀ fields : List (String × Value),
    ofJsonMembers (toJsonFields fields) = fields ↔ AreShared fields
  | [] => iff_of_true rfl trivial
  | (name, value) :: rest => by
    rw [toJsonFields, ofJsonMembers, List.cons.injEq, Prod.mk.injEq, eq_self_iff_true, true_and]
    exact and_congr (ofJson_toJson_iff value) (ofJsonMembers_toJsonFields_iff rest)

end

/-! ### Main statement -/

/-- **What is lost between values and JSON**: a JSON value comes back from its value exactly if it
    holds no array, no integer beyond 64 bits with sign and no number that is not finite, which no
    JSON text spells; and a value comes back from its JSON form exactly if it holds no instant and
    no number that is not finite. -/
theorem conversion_is_lossless_iff :
    (∀ json : Json, (ofJson json).toJson = json ↔ json.IsShared) ∧
      ∀ value : Value, ofJson value.toJson = value ↔ value.IsShared :=
  ⟨toJson_ofJson_iff, ofJson_toJson_iff⟩

end Value

end ResourceFeed
