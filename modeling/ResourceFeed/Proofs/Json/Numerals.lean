import ResourceFeed.Json.Reading
import ResourceFeed.Proofs.Json.Tokens

/-! # Printed integers

    An integer is printed as its decimal digits, perhaps behind a minus sign.
    The first digit is no zero unless it is the only one, so the machine takes
    all of them, and the digits are collected to the integer again if it fits
    64 bits.
-/

namespace ResourceFeed.Json

/-! ### Decimal digits -/

/-- Decimal digits with a value do not begin with a zero. -/
theorem exists_toDigits {n : Nat} (hpositive : 0 < n) :
    ∃ first rest, Nat.toDigits 10 n = first :: rest ∧ first ≠ '0' := by
  induction n using Nat.strongRecOn with
  | ind n ih =>
    by_cases hsmall : n < 10
    · refine ⟨n.digitChar, [], Nat.toDigits_of_lt_base hsmall, ?_⟩
      have hdigit : ∀ digit : Fin 10, 0 < digit.val → digit.val.digitChar ≠ '0' := by decide
      exact hdigit ⟨n, hsmall⟩ hpositive
    · obtain ⟨first, rest, hdigits, hfirst⟩ := ih (n / 10) (by omega) (by omega)
      refine ⟨first, rest ++ [(n % 10).digitChar], ?_, hfirst⟩
      rw [Nat.toDigits_of_base_le (by omega) (by omega), hdigits]
      rfl

theorem isDigit_toDigits {n : Nat} {c : Char} (hmem : c ∈ Nat.toDigits 10 n) : c.isDigit = true :=
  Nat.isDigit_of_mem_toDigits (by decide) (by decide) hmem

/-- Reading on in digits does not make a number smaller. -/
theorem le_ofDigitChars (digits : List Char) (start : Nat) :
    start ≤ Nat.ofDigitChars 10 digits start := by
  induction digits generalizing start with
  | nil => exact Nat.le_refl start
  | cons digit rest ih =>
    rw [Nat.ofDigitChars_cons]
    have hrest := ih (10 * start + (digit.toNat - '0'.toNat))
    omega

/-- All digits are collected if the number fits. -/
theorem collect_eq {digits : List Char} {start : Nat}
    (hfits : Nat.ofDigitChars 10 digits start < limitUInt64) :
    collect start digits = (Nat.ofDigitChars 10 digits start, []) := by
  induction digits generalizing start with
  | nil => rfl
  | cons digit rest ih =>
    rw [Nat.ofDigitChars_cons] at hfits ⊢
    have hnext : 10 * start + (digit.toNat - 48) < limitUInt64 :=
      Nat.lt_of_le_of_lt (le_ofDigitChars rest _) hfits
    rw [collect, if_pos hnext]
    exact ih hfits

theorem collect_toDigits {n : Nat} (hfits : n < limitUInt64) :
    collect 0 (Nat.toDigits 10 n) = (n, []) := by
  have hvalue : Nat.ofDigitChars 10 (Nat.toDigits 10 n) 0 = n := Nat.ofDigitChars_ten_toDigits
  rw [collect_eq (by rw [hvalue]; exact hfits), hvalue]

/-! ### Tokens of integers -/

namespace Token

/-- Digits after the first one scan as they come. -/
theorem scans_digits {digits : List Char} (hdigits : ∀ c ∈ digits, c.isDigit = true)
    (negative : Bool) (before : List Char) :
    Scans (.numeral negative (.whole before)) digits []
      (.numeral negative (.whole (digits.reverse ++ before))) := by
  induction digits generalizing before with
  | nil => exact Scans.nil _
  | cons digit rest ih =>
    obtain ⟨hdigit, hrest⟩ := List.forall_mem_cons.mp hdigits
    have hnext : step? (.numeral negative (.whole before)) digit =
        some ([], .numeral negative (.whole (digit :: before))) := by
      rw [step?, NumeralState.next?, if_pos hdigit]
    rw [List.reverse_cons, List.append_assoc]
    exact Scans.cons hnext (ih hrest (digit :: before))

/-- A digit that is no zero begins a numeral. -/
theorem step?_between {digit : Char} (hdigit : digit.isDigit = true) (hzero : digit ≠ '0') :
    step? .between digit = some ([], .numeral false (.whole [digit])) := by
  rw [step?]
  unfold begin?
  split
  case h_14 => rw [if_pos hdigit]
  case h_13 => exact absurd rfl hzero
  all_goals exact absurd hdigit (by decide)

/-- And goes on with one after a minus sign. -/
theorem step?_minus {digit : Char} (hdigit : digit.isDigit = true) (hzero : digit ≠ '0') :
    step? (.numeral true .minus) digit = some ([], .numeral true (.whole [digit])) := by
  have hother : (digit == '0') = false := beq_false_of_ne hzero
  rw [step?, NumeralState.next?, hother, if_neg Bool.false_ne_true, if_pos hdigit]

/-- A whole number. -/
def wholeNumeral (negative : Bool) (n : Nat) : Numeral :=
  ⟨negative, Nat.toDigits 10 n, none, none⟩

/-- The digits of a positive number scan to its numeral where one begins. -/
theorem scans_toDigits {before : State} {negative : Bool} {n : Nat} (hpositive : 0 < n)
    (hbegin : ∀ digit : Char, digit.isDigit = true → digit ≠ '0' →
      step? before digit = some ([], .numeral negative (.whole [digit]))) :
    ∃ state, Scans before (Nat.toDigits 10 n) [] (.numeral negative state) ∧
      state.finish? negative = some (wholeNumeral negative n) := by
  obtain ⟨first, rest, hdigits, hfirst⟩ := exists_toDigits hpositive
  have hall : ∀ c ∈ first :: rest, c.isDigit = true := by
    rw [← hdigits]
    exact fun c hmem => isDigit_toDigits hmem
  obtain ⟨hdigit, hrest⟩ := List.forall_mem_cons.mp hall
  refine ⟨.whole (rest.reverse ++ [first]), ?_, ?_⟩
  · rw [hdigits]
    exact Scans.cons (hbegin first hdigit hfirst) (scans_digits hrest negative [first])
  · rw [NumeralState.finish?, List.reverse_append, List.reverse_reverse, wholeNumeral, hdigits]
    rfl

/-- A printed integer is one numeral. -/
theorem ofChars?_toString (value : Int) :
    ofChars? (toString value).toList =
      some [.numeral (wholeNumeral (decide (value < 0)) value.natAbs)] := by
  rw [Decimal.toList_toString]
  by_cases hnegative : value < 0
  · rw [if_pos hnegative, decide_eq_true hnegative]
    obtain ⟨state, hscans, hfinish⟩ := scans_toDigits (show 0 < value.natAbs by omega)
      fun digit hdigit hfirst => step?_minus hdigit hfirst
    have hall : Scans .between ('-' :: Nat.toDigits 10 value.natAbs) [] (.numeral true state) :=
      Scans.cons rfl hscans
    exact (hall.spells_of_completes (completes_numeral hfinish)).ofChars?
  · rw [if_neg hnegative, decide_eq_false hnegative]
    by_cases hzero : value.natAbs = 0
    · rw [hzero]
      rfl
    · obtain ⟨state, hscans, hfinish⟩ := scans_toDigits (Nat.pos_of_ne_zero hzero)
        fun digit hdigit hfirst => step?_between hdigit hfirst
      exact (hscans.spells_of_completes (completes_numeral hfinish)).ofChars?

end Token

/-- And it has the value of the integer, if that fits. -/
theorem toJson?_wholeNumeral {value : Int} (hlow : -9223372036854775808 ≤ value)
    (hhigh : value < limitUInt64) :
    (Token.wholeNumeral (decide (value < 0)) value.natAbs).toJson? = some (.integer value) := by
  have hlimit : (limitUInt64 : Int) = 18446744073709551616 := rfl
  have hfits : value.natAbs < 18446744073709551616 := by omega
  unfold Numeral.toJson?
  rw [Token.wholeNumeral, collect_toDigits hfits]
  simp only [Option.isNone_none, List.isEmpty_nil, Bool.true_and]
  by_cases hnegative : value < 0
  · have hpositive : 0 < value.natAbs := by omega
    have hword : FitsInt64 value := by
      constructor <;> omega
    have hvalue : -(value.natAbs : Int) = value := by omega
    rw [hvalue, decide_eq_true hnegative, decide_eq_true hpositive, decide_eq_true hword]
    rfl
  · have hvalue : (value.natAbs : Int) = value := by omega
    simp only [hnegative, decide_false, Bool.not_false, if_true]
    rw [hvalue]

end ResourceFeed.Json
