/-! # Limits of integers

    Integers are exact throughout; where they are held in a number of bits,
    one of the ranges below says which of them fit.  The integers that
    `int64OfInt?` takes are those of the words of 64 bits, each of its own
    word: `int64OfInt?_eq_some_iff`.
-/

namespace ResourceFeed

/-- Whether an integer fits 32 bits with sign. -/
abbrev FitsInt32 (value : Int) : Prop :=
  -2147483648 ≤ value ∧ value < 2147483648

/-- Whether an integer fits 64 bits with sign. -/
abbrev FitsInt64 (value : Int) : Prop :=
  -9223372036854775808 ≤ value ∧ value < 9223372036854775808

/-- One more than the greatest number of 32 bits without sign. -/
abbrev limitUInt32 : Nat := 4294967296

/-- One more than the greatest number of 64 bits without sign. -/
abbrev limitUInt64 : Nat := 18446744073709551616

/-- An integer as one of 64 bits, if it fits. -/
def int64OfInt? (value : Int) : Option Int64 :=
  if FitsInt64 value then some (Int64.ofInt value) else none

/-! ## Laws -/

/-- Every word of 64 bits is in the range of those words. -/
theorem fitsInt64_toInt (word : Int64) : FitsInt64 word.toInt :=
  ⟨word.le_toInt, word.toInt_lt⟩

theorem int64OfInt?_eq_some_iff {value : Int} {word : Int64} :
    int64OfInt? value = some word ↔ word.toInt = value := by
  constructor
  · intro h
    rw [int64OfInt?] at h
    split at h
    · rename_i fits
      rw [← Option.some.inj h]
      exact Int64.toInt_ofInt_of_le fits.1 fits.2
    · exact nomatch h
  · rintro rfl
    rw [int64OfInt?, if_pos (fitsInt64_toInt word), Int64.ofInt_toInt]

end ResourceFeed
