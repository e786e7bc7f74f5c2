import ResourceFeed.Value.Basic

/-! # Equality of values

    `Value.equal` is symmetric and transitive.  It is not reflexive, because
    a floating-point number that is not a number differs from itself, and it
    is coarser than identity, because the two zeros are equal.

    For floating-point numbers both laws follow from what it takes to be
    equal: to be identical, or to be two zeros.
-/

namespace ResourceFeed

/-! ### Floating-point numbers -/

section floats
open Float.Model (UnpackedFloat)

/-- Two finite numbers compare as equal only if they have the same size. -/
theorem sizes_eq_of_compare {m n : Nat} {e f : Int}
    (hequal : (compare e f).then (compare m n) = .eq) : m = n ∧ e = f := by
  obtain ⟨hexponents, hmantissas⟩ := Ordering.then_eq_eq.mp hequal
  exact ⟨Std.LawfulEqCmp.eq_of_compare hmantissas, Std.LawfulEqCmp.eq_of_compare hexponents⟩

/-- Two numbers compare as equal only if they are identical or both are zeros. -/
theorem eq_or_zeros_of_compare {a b : UnpackedFloat} (hequal : a.compare b = some .eq) :
    a = b ∨ ∃ s t, a = .zero s ∧ b = .zero t := by
  cases a with
  | notANumber => cases hequal
  | infinity s =>
    -- an infinity is only as large as itself
    cases b with
    | infinity t => cases s <;> cases t <;> first | exact .inl rfl | cases hequal
    | notANumber => cases s <;> cases hequal
    | zero t => cases s <;> cases hequal
    | finite t n f hn => cases s <;> cases hequal
  | zero s =>
    cases b with
    | zero t => exact .inr ⟨s, t, rfl, rfl⟩
    | notANumber => cases hequal
    | infinity t => cases t <;> cases hequal
    | finite t n f hn => cases t <;> cases hequal
  | finite s m e hm =>
    cases b with
    | finite t n f hn =>
      cases s <;> cases t
      · obtain ⟨rfl, rfl⟩ := sizes_eq_of_compare (Ordering.swap_eq_eq.mp (Option.some.inj hequal))
        exact .inl rfl
      · cases hequal
      · cases hequal
      · obtain ⟨rfl, rfl⟩ := sizes_eq_of_compare (Option.some.inj hequal)
        exact .inl rfl
    | notANumber => cases s <;> cases hequal
    | infinity t => cases s <;> cases t <;> cases hequal
    | zero t => cases s <;> cases hequal

theorem float_beq_iff {a b : Float} :
    (a == b) = true ↔ a.toModel.unpack.compare b.toModel.unpack = some .eq := by
  show (a.toModel.unpack.compare b.toModel.unpack == some .eq) = true ↔ _
  exact beq_iff_eq

theorem float_beq_symm {a b : Float} (hab : (a == b) = true) : (b == a) = true := by
  rw [float_beq_iff] at hab ⊢
  rcases eq_or_zeros_of_compare hab with hsame | ⟨s, t, ha, hb⟩
  · rw [hsame] at hab ⊢
    exact hab
  · rw [ha, hb]
    rfl

theorem float_beq_trans {a b c : Float} (hab : (a == b) = true) (hbc : (b == c) = true) :
    (a == c) = true := by
  rw [float_beq_iff] at hab hbc ⊢
  rcases eq_or_zeros_of_compare hab with hsame | ⟨s, t, ha, hb⟩
  · rw [hsame]
    exact hbc
  rcases eq_or_zeros_of_compare hbc with hsame | ⟨t, u, hb, hc⟩
  · rw [← hsame]
    exact hab
  · rw [ha, hc]
    rfl

/-- Only what is not a number differs from itself. -/
theorem float_beq_self (x : Float) : (x == x) = !x.isNaN := by
  rw [Bool.eq_iff_iff, float_beq_iff, Bool.not_eq_true']
  show _ ↔ x.toModel.unpack.isNaN = false
  cases x.toModel.unpack with
  | notANumber => exact ⟨nofun, nofun⟩
  | infinity s => cases s <;> exact ⟨fun _ => rfl, fun _ => rfl⟩
  | zero s => exact ⟨fun _ => rfl, fun _ => rfl⟩
  | finite s m e hm =>
    have hsame : (compare e e).then (compare m m) = .eq :=
      Ordering.then_eq_eq.mpr ⟨Std.ReflCmp.compare_self, Std.ReflCmp.compare_self⟩
    cases s with
    | negative =>
      have hswapped : ((compare e e).then (compare m m)).swap = .eq :=
        Ordering.swap_eq_eq.mpr hsame
      exact ⟨fun _ => rfl, fun _ => congrArg some hswapped⟩
    | positive => exact ⟨fun _ => rfl, fun _ => congrArg some hsame⟩

end floats

/-! ### Values -/

namespace Value

/-- Two values are equal as one sort, or as records with equal fields. -/
inductive Equals : Value → Value → Prop where
  | null : Equals .null .null
  | bool (value : Bool) : Equals (.bool value) (.bool value)
  | int (value : Int64) : Equals (.int value) (.int value)
  | float {a b : Float} (h : (a == b) = true) : Equals (.float a) (.float b)
  | text (value : String) : Equals (.text value) (.text value)
  | instant (value : Calendar.Instant) : Equals (.instant value) (.instant value)
  | record {a b : List (String × Value)} (h : equalFields a b = true) :
      Equals (.record a) (.record b)

theorem equals_of_equal {a b : Value} (h : a.equal b = true) : Equals a b := by
  unfold equal at h
  split at h
  · exact .null
  · exact eq_of_beq h ▸ .bool _
  · exact eq_of_beq h ▸ .int _
  · exact .float h
  · exact eq_of_beq h ▸ .text _
  · exact eq_of_beq h ▸ .instant _
  · exact .record h
  · cases h

/-- Records are equal if their first fields are and the rest is. -/
theorem equalFields_cons {name name' : String} {value value' : Value}
    {rest rest' : List (String × Value)} :
    equalFields ((name, value) :: rest) ((name', value') :: rest') = true ↔
      name = name' ∧ value.equal value' = true ∧ equalFields rest rest' = true := by
  rw [equalFields, Bool.and_eq_true, Bool.and_eq_true, beq_iff_eq, and_assoc]

mutual

/-- Equality is symmetric. -/
theorem equal_symm {a b : Value} (h : a.equal b = true) : b.equal a = true := by
  cases equals_of_equal h with
  | null | bool | int | text | instant => exact h
  | float h => exact float_beq_symm h
  | record h => exact equalFields_symm h
termination_by sizeOf a

theorem equalFields_symm {a b : List (String × Value)} (h : equalFields a b = true) :
    equalFields b a = true := by
  match a, b with
  | [], [] => exact h
  | (name, value) :: rest, (name', value') :: rest' =>
    obtain ⟨hname, hvalue, hrest⟩ := equalFields_cons.mp h
    exact equalFields_cons.mpr ⟨hname.symm, equal_symm hvalue, equalFields_symm hrest⟩
  | [], _ :: _ => cases h
  | _ :: _, [] => cases h
termination_by sizeOf a

end

mutual

/-- Equality is transitive. -/
theorem equal_trans {a b c : Value} (hab : a.equal b = true) (hbc : b.equal c = true) :
    a.equal c = true := by
  cases equals_of_equal hab with
  | null | bool | int | text | instant => exact hbc
  | float hab =>
    cases equals_of_equal hbc with
    | float hbc => exact float_beq_trans hab hbc
  | record hab =>
    cases equals_of_equal hbc with
    | record hbc => exact equalFields_trans hab hbc
termination_by sizeOf a

theorem equalFields_trans {a b c : List (String × Value)} (hab : equalFields a b = true)
    (hbc : equalFields b c = true) : equalFields a c = true := by
  match a, b, c with
  | [], [], _ => exact hbc
  | (name, value) :: rest, (name', value') :: rest', (name'', value'') :: rest'' =>
    obtain ⟨hname, hvalue, hrest⟩ := equalFields_cons.mp hab
    obtain ⟨hname', hvalue', hrest'⟩ := equalFields_cons.mp hbc
    exact equalFields_cons.mpr ⟨hname.trans hname', equal_trans hvalue hvalue',
      equalFields_trans hrest hrest'⟩
  | _ :: _, _ :: _, [] => cases hbc
  | [], _ :: _, _ => cases hab
  | _ :: _, [], _ => cases hab
termination_by sizeOf a

end

end Value
end ResourceFeed
