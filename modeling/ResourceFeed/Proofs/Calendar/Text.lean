import ResourceFeed.Calendar.Reading
import ResourceFeed.Proofs.Calendar.Date

/-! # Instants and their text

    An instant in the years 0 to 9999 is read back from its text.  An instant
    in any other year is not: its text begins with a sign, which the spelling
    with an offset does not allow, and ends in `Z`, which no other spelling
    takes.
-/

namespace ResourceFeed.Calendar

open Text (Reader)

/-- What a reader takes off a text is given to the next one. -/
theorem bind_of_reads {α β : Type} {reader : Reader α} {next : α → Reader β}
    {text rest : List Char} {value : α} (hreads : reader text = some (value, rest)) :
    (reader >>= next) text = next value rest := by
  show (reader text).bind (fun taken => next taken.1 taken.2) = _
  rw [hreads]
  rfl

/-! ### Numbers of a width -/

section padded
variable {width n : Nat}

theorem isDigit_of_mem_padded {c : Char} (hc : c ∈ (padded width n).toList) :
    c.isDigit = true := by
  rw [padded, String.toList_ofList, List.mem_append] at hc
  rcases hc with hc | hc
  · rw [List.eq_of_mem_replicate hc]
    decide
  · exact Nat.isDigit_of_mem_toDigits (by decide) (by decide) hc

theorem length_padded (hwidth : 0 < width) (hn : n < 10 ^ width) :
    (padded width n).toList.length = width := by
  have hdigits : (Nat.toDigits 10 n).length ≤ width :=
    (Nat.length_toDigits_le_iff (by decide) hwidth).mpr hn
  rw [padded, String.toList_ofList, List.length_append, List.length_replicate]
  omega

/-- The value of a padded number with more zeros behind it. -/
theorem natural?_padded_append (width n zeros : Nat) :
    Decimal.natural? ((padded width n).toList ++ List.replicate zeros '0') =
      some (10 ^ zeros * n) := by
  have hvalue : Nat.ofDigitChars 10 ((padded width n).toList ++ List.replicate zeros '0') 0 =
      10 ^ zeros * n := by
    rw [padded, String.toList_ofList, Nat.ofDigitChars_append, Nat.ofDigitChars_append,
      Nat.ofDigitChars_replicate_zero, Nat.ofDigitChars_replicate_zero, Nat.mul_zero,
      Nat.ofDigitChars_ten_toDigits]
  have hdigits : ((padded width n).toList ++ List.replicate zeros '0').all Char.isDigit = true := by
    rw [List.all_eq_true]
    intro c hc
    rcases List.mem_append.mp hc with hc | hc
    · exact isDigit_of_mem_padded hc
    · rw [List.eq_of_mem_replicate hc]
      decide
  have hsome : ((padded width n).toList ++ List.replicate zeros '0').isEmpty = false := by
    rw [padded, String.toList_ofList, List.isEmpty_eq_false_iff]
    simp [Nat.toDigits_ne_nil]
  rw [Decimal.natural?, hsome, hdigits, ← Nat.ofDigitChars_eq_foldl, hvalue]
  rfl

theorem natural?_padded (width n : Nat) :
    Decimal.natural? (padded width n).toList = some n := by
  have hread := natural?_padded_append width n 0
  rwa [List.replicate_zero, List.append_nil, Nat.pow_zero, Nat.one_mul] at hread

/-- A number of the right width is read, whatever follows. -/
theorem number_padded (hwidth : 0 < width) (hn : n < 10 ^ width) (rest : List Char) :
    Reader.number width (some width) ((padded width n).toList ++ rest) = some (n, rest) := by
  have hlength := length_padded hwidth hn
  have hrun : ((padded width n).toList ++ rest).takeWhile Char.isDigit =
      (padded width n).toList ++ rest.takeWhile Char.isDigit :=
    List.takeWhile_append_of_pos fun c hc => isDigit_of_mem_padded hc
  have htaken : ((padded width n).toList ++ rest.takeWhile Char.isDigit).take width =
      (padded width n).toList := List.take_left' hlength
  have hdigits : Reader.digits width (some width) ((padded width n).toList ++ rest) =
      some ((padded width n).toList, rest) := by
    unfold Reader.digits
    simp only [hrun, htaken]
    rw [if_neg (by omega), List.drop_left]
  unfold Reader.number
  rw [bind_of_reads hdigits, natural?_padded]
  rfl

end padded

/-! ### Fractions -/

/-- A fraction of a certain width is read up to the end of its digits. -/
theorem fraction_padded {width n : Nat} (hwidth : 0 < width) (hnine : width ≤ 9)
    (hn : n < 10 ^ width) :
    Reader.fraction ('.' :: ((padded width n).toList ++ ['Z'])) =
      some (10 ^ (9 - width) * n, ['Z']) := by
  have hlength := length_padded hwidth hn
  have hrun : ((padded width n).toList ++ ['Z']).takeWhile Char.isDigit =
      (padded width n).toList := by
    rw [List.takeWhile_append_of_pos fun c hc => isDigit_of_mem_padded hc]
    exact List.append_nil _
  have hnanos : ((padded width n).toList ++ List.replicate 9 '0').take 9 =
      (padded width n).toList ++ List.replicate (9 - width) '0' := by
    rw [List.take_append, hlength, List.take_of_length_le (by omega), List.take_replicate,
      Nat.min_eq_left (by omega)]
  have hsome : (padded width n).toList.isEmpty = false := by
    rw [List.isEmpty_eq_false_iff, ← List.length_pos_iff]
    omega
  unfold Reader.fraction
  simp only [hrun, hnanos, natural?_padded_append, Option.bind_some, hsome, List.drop_left]
  rfl

theorem fraction_fractionText {nanos : Nat} (hnanos : nanos < secondNanos) :
    Reader.fraction ((fractionText nanos).toList ++ ['Z']) = some (nanos, ['Z']) := by
  unfold secondNanos at hnanos
  -- the digits that are left out are zeros
  have hdigits : ∀ width n, 0 < width → width ≤ 9 → n < 10 ^ width →
      10 ^ (9 - width) * n = nanos →
      Reader.fraction (("." ++ padded width n).toList ++ ['Z']) = some (nanos, ['Z']) := by
    intro width n hwidth hnine hn hvalue
    rw [← hvalue, String.toList_append]
    exact fraction_padded hwidth hnine hn
  unfold fractionText
  by_cases hnone : nanos = 0
  · rw [if_pos hnone, hnone]
    rfl
  rw [if_neg hnone]
  by_cases hmillis : nanos % 1000000 = 0
  · rw [if_pos hmillis]
    exact hdigits 3 (nanos / 1000000) (by decide) (by decide) (by omega) (by omega)
  rw [if_neg hmillis]
  by_cases hmicros : nanos % 1000 = 0
  · rw [if_pos hmicros]
    exact hdigits 6 (nanos / 1000) (by decide) (by decide) (by omega) (by omega)
  rw [if_neg hmicros]
  exact hdigits 9 nanos (by decide) (by decide) (by omega) (by omega)

/-! ### Instants in the years 0 to 9999 -/

namespace Instant

/-- An instant that a clock can show: its nanoseconds are those of a second, or of the leap second
    at the end of a minute. -/
def IsProper (t : Instant) : Prop :=
  t.nanos < secondNanos ∨ t.nanos < 2 * secondNanos ∧ t.seconds % 60 = 59

instance (t : Instant) : Decidable t.IsProper :=
  inferInstanceAs (Decidable (_ ∨ _))

/-- The year of the instant has four digits and no sign. -/
def HasPlainYear (t : Instant) : Prop :=
  0 ≤ t.date.year ∧ t.date.year ≤ 9999

instance (t : Instant) : Decidable t.HasPlainYear :=
  inferInstanceAs (Decidable (_ ∧ _))

/-- The seconds of the day of an instant. -/
def ofDay (t : Instant) : Nat :=
  (t.seconds % daySeconds).toNat

theorem ofDay_lt (t : Instant) : t.ofDay < 86400 := by
  unfold ofDay daySeconds
  omega

/-- Whether an instant is in a leap second. -/
def isLeap (t : Instant) : Bool :=
  decide (secondNanos ≤ t.nanos)

/-- The second that a clock shows. -/
def second (t : Instant) : Nat :=
  if t.isLeap then t.ofDay % 60 + 1 else t.ofDay % 60

/-- The nanoseconds of the second that a clock shows. -/
def nanosOfSecond (t : Instant) : Nat :=
  if t.isLeap then t.nanos - secondNanos else t.nanos

/-- The text of an instant, in parts. -/
theorem toList_text (t : Instant) :
    t.text.toList = (yearText t.date.year).toList ++ ('-' :: ((padded 2 t.date.month).toList ++
      ('-' :: ((padded 2 t.date.day).toList ++ ('T' :: ((padded 2 (t.ofDay / 3600)).toList ++
        (':' :: ((padded 2 (t.ofDay / 60 % 60)).toList ++ (':' :: ((padded 2 t.second).toList ++
          ((fractionText t.nanosOfSecond).toList ++ ['Z']))))))))))) := by
  have hdash : "-".toList = ['-'] := rfl
  have htime : "T".toList = ['T'] := rfl
  have hcolon : ":".toList = [':'] := rfl
  have hzone : "Z".toList = ['Z'] := rfl
  rw [text]
  simp only [String.toList_append, hdash, htime, hcolon, hzone, List.append_assoc,
    List.singleton_append]
  rfl

/-- The second that a clock shows is 60 in a leap second only. -/
theorem second_eq {t : Instant} (hproper : t.IsProper) :
    t.second ≤ 60 ∧ (t.second = 60 ↔ t.isLeap = true) ∧
      t.nanosOfSecond < secondNanos := by
  unfold IsProper at hproper
  unfold second nanosOfSecond
  have hminute : t.ofDay % 60 = (t.seconds % 60).toNat := by
    unfold ofDay daySeconds
    omega
  by_cases hleap : secondNanos ≤ t.nanos
  · have hisLeap : t.isLeap = true := decide_eq_true hleap
    simp only [hisLeap, if_true, iff_true]
    omega
  · have hisLeap : t.isLeap = false := decide_eq_false hleap
    simp only [hisLeap, Bool.false_eq_true, if_false, iff_false]
    omega

theorem eq_of_parts {a b : Instant} (hseconds : a.seconds = b.seconds)
    (hnanos : a.nanos = b.nanos) : a = b := by
  cases a
  cases b
  cases hseconds
  cases hnanos
  rfl

/-- The instant is the one at its time of its date. -/
theorem ofParts_eq {t : Instant} (hproper : t.IsProper) :
    ofParts t.date (t.ofDay / 3600) (t.ofDay / 60 % 60) t.second t.nanosOfSecond = t := by
  obtain ⟨-, hsixty, -⟩ := second_eq hproper
  have hday : ((t.ofDay : Nat) : Int) = t.seconds % 86400 := by
    unfold ofDay daySeconds
    omega
  have hdate : t.date.number = t.seconds / 86400 := Date.number_ofNumber _
  obtain ⟨hseconds, hnanos⟩ :
      (ofParts t.date (t.ofDay / 3600) (t.ofDay / 60 % 60) t.second t.nanosOfSecond).seconds =
          t.seconds ∧
        (ofParts t.date (t.ofDay / 3600) (t.ofDay / 60 % 60) t.second t.nanosOfSecond).nanos =
          t.nanos := by
    unfold ofParts daySeconds
    simp only [hdate]
    by_cases hleap : t.isLeap = true
    · have hshown := hsixty.mpr hleap
      have hsecond : t.second = t.ofDay % 60 + 1 := if_pos hleap
      have hrest : t.nanosOfSecond = t.nanos - secondNanos := if_pos hleap
      have hnanos : secondNanos ≤ t.nanos := of_decide_eq_true hleap
      simp only [hshown, beq_self_eq_true, if_true]
      omega
    · have hshown : (t.second == 60) = false := beq_false_of_ne fun h => hleap (hsixty.mp h)
      have hsecond : t.second = t.ofDay % 60 := if_neg hleap
      have hrest : t.nanosOfSecond = t.nanos := if_neg hleap
      simp only [hshown, Bool.false_eq_true, if_false]
      omega
  exact eq_of_parts hseconds hnanos

end Instant

/-! ### Reading the text of an instant -/

theorem char_cons (c : Char) (rest : List Char) :
    Text.Reader.char c (c :: rest) = some ((), rest) := if_pos rfl

theorem oneOf_cons {cs : List Char} {c : Char} (hc : c ∈ cs) (rest : List Char) :
    Text.Reader.oneOf cs (c :: rest) = some (c, rest) := if_pos (decide_eq_true hc)

/-- No offset is read as such. -/
theorem offset_zone : offset ['Z'] = some (0, []) := by
  rw [offset, bind_of_reads (oneOf_cons (by decide) [])]
  rfl

/-- Parts of an instant that the calendar and the clock have make an instant. -/
theorem instantOf_eq {date : Date} {hour minute second nanos : Nat} (hdate : date.isValid = true)
    (hhour : hour < 24) (hminute : minute < 60) (hsecond : second ≤ 60) (rest : List Char) :
    instantOf date hour minute second nanos 0 rest =
      some (Instant.ofParts date hour minute second nanos, rest) := by
  have hvalid : (date.isValid && hour < 24 && minute < 60 && second ≤ 60) = true := by
    simp [hdate, hhour, hminute, hsecond]
  have honly : Text.Reader.only (date.isValid && hour < 24 && minute < 60 && second ≤ 60) rest =
      some ((), rest) := by
    rw [hvalid]
    rfl
  rw [instantOf, bind_of_reads honly]
  simp only [Int.sub_zero]
  rfl

/-- The text of an instant in the years 0 to 9999 is read as the instant. -/
theorem withOffset_text {t : Instant} (hproper : t.IsProper) (hyear : t.HasPlainYear) :
    withOffset t.text.toList = some (t, []) := by
  obtain ⟨hsecond, -, hnanos⟩ := Instant.second_eq hproper
  have hday := t.ofDay_lt
  have hvalid : t.date.isValid = true := by
    apply Date.isValid_ofNumber
    · exact Int.le_trans (by decide) hyear.1
    · exact Int.le_trans hyear.2 (by decide)
  obtain ⟨hmonthOfYear, hdayOfMonth⟩ := Date.bounds_of_isValid hvalid
  have hnatAbs : (t.date.year.natAbs : Int) = t.date.year := by
    obtain ⟨hfirst, -⟩ := hyear
    omega
  have hdate : (⟨t.date.year.natAbs, t.date.month, t.date.day⟩ : Date) = t.date := by
    rw [hnatAbs]
  have hyearText : yearText t.date.year = padded 4 t.date.year.natAbs := by
    obtain ⟨hfirst, hlast⟩ := hyear
    rw [yearText, if_neg (by omega), if_neg (by omega)]
  have hfour : t.date.year.natAbs < 10 ^ 4 := by
    obtain ⟨-, hlast⟩ := hyear
    omega
  rw [t.toList_text, hyearText, withOffset,
    bind_of_reads (number_padded (by decide) hfour _), bind_of_reads (char_cons '-' _),
    bind_of_reads (number_padded (by decide) (by omega) _), bind_of_reads (char_cons '-' _),
    bind_of_reads (number_padded (by decide) (by omega) _),
    bind_of_reads (oneOf_cons (by decide) _),
    bind_of_reads (number_padded (by decide) (by omega) _), bind_of_reads (char_cons ':' _),
    bind_of_reads (number_padded (by decide) (by omega) _), bind_of_reads (char_cons ':' _),
    bind_of_reads (number_padded (by decide) (by omega) _),
    bind_of_reads (fraction_fractionText hnanos), bind_of_reads offset_zone, hdate,
    instantOf_eq hvalid (by omega) (by omega) hsecond, Instant.ofParts_eq hproper]

/-! ### What the text of an instant begins and ends with -/

theorem isBlank_of_isDigit {c : Char} (hc : c.isDigit = true) : Text.isBlank c = false := by
  have hrange : 48 ≤ c.toNat ∧ c.toNat ≤ 57 := by
    simp only [Char.isDigit, Bool.and_eq_true, decide_eq_true_eq] at hc
    exact hc
  unfold Text.isBlank
  simp only [Bool.or_eq_false_iff, Bool.and_eq_false_iff, decide_eq_false_iff_not,
    beq_eq_false_iff_ne]
  omega

/-- Nothing is trimmed at the front of a text that begins with another character than a blank. -/
theorem trimStart_eq_self {first : Char} {text : List Char} (hfirst : text.head? = some first)
    (hblank : Text.isBlank first = false) : Text.trimStart text = text := by
  cases text with
  | nil => rfl
  | cons c rest =>
    obtain rfl := Option.some.inj hfirst
    exact List.dropWhile_cons_of_neg (by rw [hblank]; exact Bool.false_ne_true)

/-- A text that begins and ends with other characters than blanks is left by trimming. -/
theorem trimChars_eq_self {first last : Char} {text : List Char} (hfirst : text.head? = some first)
    (hlast : text.getLast? = some last) (hfirstBlank : Text.isBlank first = false)
    (hlastBlank : Text.isBlank last = false) : Text.trimChars text = text := by
  have hreverse : text.reverse.head? = some last := by rw [List.head?_reverse, hlast]
  rw [Text.trimChars, trimStart_eq_self hfirst hfirstBlank,
    trimStart_eq_self hreverse hlastBlank, List.reverse_reverse]

/-- A year begins with a digit, or with a sign outside of 0 to 9999. -/
theorem head_yearText (year : Int) :
    ∃ first rest, (yearText year).toList = first :: rest ∧ Text.isBlank first = false ∧
      first ≠ '/' ∧ (¬(0 ≤ year ∧ year ≤ 9999) → first.isDigit = false) := by
  unfold yearText
  by_cases hbefore : year < 0
  · rw [if_pos hbefore]
    exact ⟨'-', _, String.toList_append, by decide, by decide, fun _ => by decide⟩
  rw [if_neg hbefore]
  by_cases hafter : 9999 < year
  · rw [if_pos hafter]
    exact ⟨'+', _, String.toList_append, by decide, by decide, fun _ => by decide⟩
  rw [if_neg hafter]
  cases hdigits : (padded 4 year.natAbs).toList with
  | nil =>
    have hnone := natural?_padded 4 year.natAbs
    rw [hdigits] at hnone
    cases hnone
  | cons first rest =>
    have hdigit : first.isDigit = true := by
      apply isDigit_of_mem_padded
      rw [hdigits]
      exact List.mem_cons_self
    refine ⟨first, rest, rfl, isBlank_of_isDigit hdigit, ?_, fun hother => by omega⟩
    rintro rfl
    cases hdigit

/-- The text of an instant begins as its year does. -/
theorem Instant.head_text (t : Instant) :
    ∃ first, t.text.toList.head? = some first ∧ Text.isBlank first = false ∧ first ≠ '/' ∧
      (¬ t.HasPlainYear → first.isDigit = false) := by
  obtain ⟨first, rest, hyear, hfirst⟩ := head_yearText t.date.year
  refine ⟨first, ?_, hfirst⟩
  rw [t.toList_text, hyear]
  rfl

/-- It ends in `Z`. -/
theorem Instant.getLast_text (t : Instant) : t.text.toList.getLast? = some 'Z' := by
  rw [text, String.toList_append]
  exact List.getLast?_concat

/-- It is tried in all spellings but the one with milliseconds. -/
theorem instant?_text_eq (t : Instant) :
    instant? t.text =
      (Text.Reader.all? withOffset t.text.toList
        <|> Text.Reader.all? (withoutOffset (Text.Reader.char 'T')) t.text.toList
        <|> Text.Reader.all? (withoutOffset Text.Reader.blanks) t.text.toList
        <|> Text.Reader.all? dateAlone t.text.toList) := by
  obtain ⟨first, hfirst, hblank, hslash, -⟩ := t.head_text
  have htrim : Text.trimChars t.text.toList = t.text.toList :=
    trimChars_eq_self hfirst t.getLast_text hblank (by decide)
  have hprefix : "/Date(".toList.isPrefixOf t.text.toList = false := by
    obtain ⟨rest, htext⟩ := List.head?_eq_some_iff.mp hfirst
    rw [htext]
    show (('/' == first) && _) = false
    rw [beq_false_of_ne (Ne.symm hslash), Bool.false_and]
  have hmillis : between? "/Date(".toList ")/".toList t.text.toList = none := by
    rw [between?, hprefix]
    exact if_neg fun h => Bool.false_ne_true h.1
  rw [instant?, htrim, hmillis]

/-- **Instants are read back.** The text of an instant in the years 0 to 9999 spells it. -/
theorem instant?_text {t : Instant} (hproper : t.IsProper) (hyear : t.HasPlainYear) :
    instant? t.text = some t := by
  have hread : Text.Reader.all? withOffset t.text.toList = some t := by
    rw [Text.Reader.all?, StateT.run, withOffset_text hproper hyear]
  rw [instant?_text_eq, hread]
  rfl

/-! ### Instants in other years -/

namespace Reader

/-- Whatever a reader takes, a character of a certain kind stays. -/
def Spares {α : Type} (c : Char) (reader : Reader α) : Prop :=
  ∀ text value rest, reader text = some (value, rest) → c ∈ text → c ∈ rest

section spares
variable {α β : Type} {c : Char}

theorem Spares.bind {reader : Reader α} {next : α → Reader β} (hreader : Spares c reader)
    (hnext : ∀ value, Spares c (next value)) : Spares c (reader >>= next) := by
  intro text value rest hreads hc
  cases hfirst : reader text with
  | none =>
    have hnone : (reader >>= next) text = none := by
      show (reader text).bind _ = none
      rw [hfirst]
      rfl
    rw [hnone] at hreads
    cases hreads
  | some taken =>
    obtain ⟨first, between⟩ := taken
    rw [bind_of_reads hfirst] at hreads
    exact hnext first between value rest hreads (hreader text first between hfirst hc)

theorem spares_pure (value : α) : Spares c (pure value : Reader α) := by
  intro text other rest hreads hc
  cases hreads
  exact hc

theorem spares_refuse : Spares c (Text.Reader.refuse : Reader α) := nofun

theorem spares_only (condition : Bool) : Spares c (Text.Reader.only condition) := by
  unfold Text.Reader.only
  split
  · exact spares_pure ()
  · exact spares_refuse

theorem spares_lift? (value : Option α) : Spares c (Text.Reader.lift? value) := by
  cases value with
  | none => exact spares_refuse
  | some value => exact spares_pure value

theorem spares_char {other : Char} (hne : other ≠ c) : Spares c (Text.Reader.char other) := by
  intro text value rest hreads hc
  cases text with
  | nil => cases hreads
  | cons first behind =>
    rw [Text.Reader.char] at hreads
    split at hreads
    · rename_i hfirst
      cases hreads
      rcases List.mem_cons.mp hc with rfl | hc
      · exact absurd hfirst.symm hne
      · exact hc
    · cases hreads

/-- A character that is not among those taken is still there. -/
theorem mem_drop_of_prefix {taken text : List Char} (htaken : taken <+: text) (hother : c ∉ taken)
    (hc : c ∈ text) : c ∈ text.drop taken.length := by
  obtain ⟨rest, rfl⟩ := htaken
  rw [List.drop_left]
  exact (List.mem_append.mp hc).resolve_left hother

theorem not_mem_takeWhile {p : Char → Bool} (hother : p c = false) (text : List Char) :
    c ∉ text.takeWhile p := by
  intro hc
  have htaken : p c = true := List.all_eq_true.mp List.all_takeWhile c hc
  rw [hother] at htaken
  cases htaken

theorem spares_blanks (hblank : Text.isBlank c = false) : Spares c Text.Reader.blanks := by
  intro text value rest hreads hc
  cases hreads
  rw [← List.takeWhile_append_dropWhile (p := Text.isBlank) (l := text), List.mem_append] at hc
  exact hc.resolve_left (not_mem_takeWhile hblank text)

theorem spares_digits (hdigit : c.isDigit = false) (least : Nat) (most : Option Nat) :
    Spares c (digits least most) := by
  intro text value rest hreads hc
  have hrun := not_mem_takeWhile hdigit text
  have hprefix : text.takeWhile Char.isDigit <+: text := List.takeWhile_prefix _
  cases most with
  | none =>
    simp only [digits] at hreads
    split at hreads
    · cases hreads
    cases hreads
    exact mem_drop_of_prefix hprefix hrun hc
  | some most =>
    have htake := List.take_prefix most (text.takeWhile Char.isDigit)
    simp only [digits] at hreads
    split at hreads
    · cases hreads
    cases hreads
    exact mem_drop_of_prefix (htake.trans hprefix) (fun h => hrun (htake.subset h)) hc

theorem spares_number (hdigit : c.isDigit = false) (least : Nat) (most : Option Nat) :
    Spares c (number least most) :=
  (spares_digits hdigit least most).bind fun _ => spares_lift? _

theorem spares_fraction (hdigit : c.isDigit = false) (hpoint : c ≠ '.') : Spares c fraction := by
  intro text value rest hreads hc
  unfold fraction at hreads
  split at hreads
  · rename_i behind
    have hbehind : c ∈ behind := (List.mem_cons.mp hc).resolve_left hpoint
    obtain ⟨nanos, -, hrest⟩ := Option.bind_eq_some_iff.mp hreads
    split at hrest
    · cases hrest
    cases hrest
    exact mem_drop_of_prefix (List.takeWhile_prefix _) (not_mem_takeWhile hdigit behind) hbehind
  · cases hreads
    exact hc

/-- A reader that takes all but spares a character refuses every text that has it. -/
theorem all?_of_spares {reader : Reader α} (hspares : Spares c reader) {text : List Char}
    (hc : c ∈ text) : Text.Reader.all? reader text = none := by
  unfold Text.Reader.all?
  split
  · rename_i value hreads
    cases hspares text value [] hreads hc
  · rfl

end spares

end Reader

section zone
open Reader

theorem spares_shortNumber : Spares 'Z' shortNumber :=
  (spares_blanks (by decide)).bind fun _ => spares_number (by decide) _ _

theorem spares_year : Spares 'Z' year := by
  refine (spares_blanks (by decide)).bind fun _ => ?_
  have hyear : ∀ (most : Option Nat) (toYear : Nat → Int),
      Spares 'Z' (number 1 most >>= fun n => (pure (toYear n) : Reader Int)) :=
    fun most toYear => (spares_number (by decide) 1 most).bind fun _ => spares_pure _
  intro text value rest hreads hc
  have hget : (get : Reader (List Char)) text = some (text, text) := rfl
  rw [bind_of_reads hget] at hreads
  -- a sign is dropped before the digits are read
  split at hreads
  · exact hyear none (fun n => n) _ value rest hreads
      ((List.mem_cons.mp hc).resolve_left (by decide))
  · exact hyear none (fun n => -n) _ value rest hreads
      ((List.mem_cons.mp hc).resolve_left (by decide))
  · exact hyear (some 4) (fun n => n) _ value rest hreads hc

theorem spares_shortDate : Spares 'Z' shortDate := by
  refine spares_year.bind fun year => ?_
  refine (spares_char (by decide)).bind fun _ => ?_
  refine spares_shortNumber.bind fun month => ?_
  refine (spares_char (by decide)).bind fun _ => ?_
  exact spares_shortNumber.bind fun day => spares_pure _

theorem spares_instantOf (date : Date) (hour minute second nanos : Nat) (offset : Int) :
    Spares 'Z' (instantOf date hour minute second nanos offset) :=
  (spares_only _).bind fun _ => spares_pure _

theorem spares_withoutOffset {separator : Reader Unit} (hseparator : Spares 'Z' separator) :
    Spares 'Z' (withoutOffset separator) := by
  refine spares_shortDate.bind fun date => ?_
  refine hseparator.bind fun _ => ?_
  refine spares_shortNumber.bind fun hour => ?_
  refine (spares_char (by decide)).bind fun _ => ?_
  refine spares_shortNumber.bind fun minute => ?_
  refine (spares_char (by decide)).bind fun _ => ?_
  refine spares_shortNumber.bind fun second => ?_
  refine (spares_fraction (by decide) (by decide)).bind fun nanos => ?_
  exact spares_instantOf date hour minute second nanos 0

theorem spares_dateAlone : Spares 'Z' dateAlone :=
  spares_shortDate.bind fun date => spares_instantOf date 0 0 0 0 0

end zone

/-- A text that does not begin with a digit has no spelling with an offset. -/
theorem withOffset_of_head {first : Char} {text : List Char} (hfirst : text.head? = some first)
    (hdigit : first.isDigit = false) : Text.Reader.all? withOffset text = none := by
  obtain ⟨rest, rfl⟩ := List.head?_eq_some_iff.mp hfirst
  have hdigits : Reader.digits 4 (some 4) (first :: rest) = none := by
    unfold Reader.digits
    rw [List.takeWhile_cons_of_neg (by rw [hdigit]; exact Bool.false_ne_true)]
    rfl
  have hnone : withOffset (first :: rest) = none := by
    show ((Reader.digits 4 (some 4) (first :: rest)).bind _).bind _ = none
    rw [hdigits]
    rfl
  rw [Text.Reader.all?, StateT.run, hnone]

/-- The text of an instant in another year than 0 to 9999 spells no instant. -/
theorem instant?_text_of_other_year {t : Instant} (hyear : ¬ t.HasPlainYear) :
    instant? t.text = none := by
  obtain ⟨first, hfirst, -, -, hdigit⟩ := t.head_text
  have hzone : 'Z' ∈ t.text.toList := List.mem_of_getLast? t.getLast_text
  rw [instant?_text_eq, withOffset_of_head hfirst (hdigit hyear),
    Reader.all?_of_spares (spares_withoutOffset (Reader.spares_char (by decide))) hzone,
    Reader.all?_of_spares (spares_withoutOffset (Reader.spares_blanks (by decide))) hzone,
    Reader.all?_of_spares spares_dateAlone hzone]
  rfl

end ResourceFeed.Calendar
