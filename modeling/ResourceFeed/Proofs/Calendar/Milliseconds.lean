import ResourceFeed.Proofs.Calendar.Text

/-! # Instants in milliseconds

    The spelling `/Date(ms)/` gives an instant as milliseconds of universal
    time.  A sign ends the number, and what follows the sign is ignored; only
    a sign in front of the number belongs to it.  So every number of
    milliseconds that the calendar has is read as that instant, and a number
    outside of the calendar is no instant.
-/

namespace ResourceFeed.Calendar

/-! ### Blanks around a text -/

theorem trimStart_append {blanks text : List Char} {first : Char}
    (hblanks : ∀ c ∈ blanks, Text.isBlank c = true) (hfirst : text.head? = some first)
    (hblank : Text.isBlank first = false) : Text.trimStart (blanks ++ text) = text := by
  rw [Text.trimStart, List.dropWhile_append_of_pos hblanks]
  exact trimStart_eq_self hfirst hblank

/-- Blanks around a text are trimmed. -/
theorem trimChars_append {front text back : List Char} {first last : Char}
    (hfront : ∀ c ∈ front, Text.isBlank c = true) (hback : ∀ c ∈ back, Text.isBlank c = true)
    (hfirst : text.head? = some first) (hlast : text.getLast? = some last)
    (hfirstBlank : Text.isBlank first = false) (hlastBlank : Text.isBlank last = false) :
    Text.trimChars (front ++ text ++ back) = text := by
  have hreverse : text.reverse.head? = some last := by rw [List.head?_reverse, hlast]
  have hhead : (text ++ back).head? = some first := by rw [List.head?_append, hfirst]; rfl
  have hbackReverse : ∀ c ∈ back.reverse, Text.isBlank c = true :=
    fun c hc => hback c (List.mem_reverse.mp hc)
  rw [Text.trimChars, List.append_assoc, trimStart_append hfront hhead hfirstBlank,
    List.reverse_append, trimStart_append hbackReverse hreverse hlastBlank, List.reverse_reverse]

/-- What stands between a beginning and an end is found again. -/
theorem between?_append (opening body closing : List Char) :
    between? opening closing (opening ++ body ++ closing) = some body := by
  have hbegins : opening.isPrefixOf (opening ++ body ++ closing) = true := by
    rw [List.isPrefixOf_iff_prefix, List.append_assoc]
    exact List.prefix_append _ _
  have hdrop : (opening ++ body ++ closing).drop opening.length = body ++ closing := by
    rw [List.append_assoc, List.drop_left]
  have hsuffix : closing.isSuffixOf (body ++ closing) = true := by
    rw [List.isSuffixOf_iff_suffix]
    exact List.suffix_append _ _
  have hlength : (opening ++ body ++ closing).length - opening.length - closing.length =
      body.length := by
    rw [List.length_append, List.length_append]
    omega
  rw [between?, hdrop, if_pos ⟨hbegins, hsuffix⟩, hlength, List.take_left]

/-! ### The number of milliseconds -/

/-- Whether a character is a sign. -/
def isSign (c : Char) : Bool :=
  c == '+' || c == '-'

theorem isSign_of_isDigit {c : Char} (hdigit : c.isDigit = true) : isSign c = false := by
  rw [← Bool.not_eq_true, isSign, Bool.or_eq_true, beq_iff_eq, beq_iff_eq]
  rintro (rfl | rfl) <;> cases hdigit

/-- A sign ends the first piece between signs. -/
theorem head?_pieces {digits behind : List Char} (hdigits : ∀ c ∈ digits, isSign c = false)
    (hbehind : ∀ c ∈ behind.head?, isSign c = true) :
    ∃ others, Text.pieces isSign (digits ++ behind) = digits :: others := by
  rw [Text.pieces_eq_splitOnP]
  cases behind with
  | nil =>
    rw [List.append_nil]
    exact ⟨[], List.splitOnP_eq_singleton hdigits⟩
  | cons sign behind =>
    have hsign : isSign sign = true := hbehind sign rfl
    rw [List.splitOnP_append_cons digits behind hsign, List.splitOnP_eq_singleton hdigits]
    exact ⟨_, rfl⟩

/-- The milliseconds of a text whose first piece that is not empty is a number. -/
theorem millis?_of_digits {body : List Char} {n : Nat}
    (hfound : (Text.pieces isSign body).find? (!·.isEmpty) = some (Nat.toDigits 10 n)) :
    millis? body =
      if FitsInt64 n then some (if body.head? = some '-' then -(n : Int) else n) else none := by
  have hpieces : Text.pieces (fun c => c == '+' || c == '-') body = Text.pieces isSign body := rfl
  unfold millis?
  rw [hpieces, hfound, Option.bind_eq_bind, Option.bind_some, Decimal.natural?_toDigits,
    Option.bind_eq_bind, Option.bind_some]
  by_cases hfits : FitsInt64 n
  · rw [if_pos hfits, decide_eq_true hfits]
    rfl
  · rw [if_neg hfits, decide_eq_false hfits]
    rfl

section body
variable {offset : List Char} (hoffset : ∀ c ∈ offset.head?, isSign c = true)
include hoffset

/-- The digits of a number are the first piece that is not empty. -/
theorem find?_pieces_toDigits (n : Nat) :
    (Text.pieces isSign (Nat.toDigits 10 n ++ offset)).find? (!·.isEmpty) =
      some (Nat.toDigits 10 n) := by
  have hdigits : ∀ c ∈ Nat.toDigits 10 n, isSign c = false := fun c hc =>
    isSign_of_isDigit (Nat.isDigit_of_mem_toDigits (by decide) (by decide) hc)
  obtain ⟨others, hpieces⟩ := head?_pieces hdigits hoffset
  rw [hpieces]
  exact List.find?_cons_of_pos (by simp [Nat.toDigits_ne_nil])

/-- A number in front of an offset is read with its own sign, if its size fits 64 bits. -/
theorem millis?_toString (millis : Int) :
    millis? ((toString millis).toList ++ offset) =
      if FitsInt64 millis.natAbs then some millis else none := by
  have hfound := find?_pieces_toDigits hoffset millis.natAbs
  rw [Decimal.toList_toString]
  by_cases hnegative : millis < 0
  · -- in front of the minus sign there is an empty piece
    have hvalue : -(millis.natAbs : Int) = millis := by omega
    have hbehind : (Text.pieces isSign ('-' :: Nat.toDigits 10 millis.natAbs ++ offset)).find?
        (!·.isEmpty) = some (Nat.toDigits 10 millis.natAbs) := hfound
    have hminus : ('-' :: Nat.toDigits 10 millis.natAbs ++ offset).head? = some '-' := rfl
    rw [if_pos hnegative, millis?_of_digits hbehind, if_pos hminus, hvalue]
  · have hvalue : (millis.natAbs : Int) = millis := by omega
    have hplus : (Nat.toDigits 10 millis.natAbs ++ offset).head? ≠ some '-' := by
      obtain ⟨first, rest, hdigits⟩ :=
        List.exists_cons_of_ne_nil (@Nat.toDigits_ne_nil millis.natAbs 10)
      have hdigit : first.isDigit = true := Nat.isDigit_of_mem_toDigits (by decide) (by decide)
        (hdigits ▸ List.mem_cons_self)
      rw [hdigits]
      intro hminus
      cases hminus
      cases hdigit
    rw [if_neg hnegative, millis?_of_digits hfound, if_neg hplus, hvalue]

end body

/-! ### The calendar in milliseconds -/

/-- The first millisecond of the calendar. -/
def firstMilli : Int :=
  (Date.mk firstYear 1 1).number * 86400000

/-- The last millisecond of the calendar. -/
def lastMilli : Int :=
  (Date.mk lastYear 12 31).number * 86400000 + 86399999

theorem firstMilli_eq : firstMilli = -8334601228800000 := by decide

theorem lastMilli_eq : lastMilli = 8210266876799999 := by decide

/-- Every millisecond of the calendar fits 64 bits. -/
theorem fitsInt64_of_calendar {millis : Int} (hfirst : firstMilli ≤ millis)
    (hlast : millis ≤ lastMilli) : FitsInt64 millis.natAbs := by
  rw [firstMilli_eq] at hfirst
  rw [lastMilli_eq] at hlast
  constructor <;> omega

/-- The calendar has the instants from its first millisecond to its last one. -/
theorem ofMillis?_eq (millis : Int) :
    Instant.ofMillis? millis =
      if firstMilli ≤ millis ∧ millis ≤ lastMilli then
        some ⟨millis / 1000, (millis % 1000).toNat * 1000000⟩
      else none := by
  have hday : millis / 1000 / daySeconds = millis / 86400000 := by
    rw [daySeconds]
    omega
  have hfirst : firstYear ≤ (Date.ofNumber (millis / 86400000)).year ↔ firstMilli ≤ millis := by
    rw [Date.le_year_ofNumber_iff, firstMilli]
    omega
  have hlast : (Date.ofNumber (millis / 86400000)).year ≤ lastYear ↔ millis ≤ lastMilli := by
    have hnext : (Date.mk (lastYear + 1) 1 1).number = (Date.mk lastYear 12 31).number + 1 := by
      decide
    rw [← Int.not_lt, ← Int.add_one_le_iff, Date.le_year_ofNumber_iff, hnext, lastMilli]
    omega
  have hvalid : (Instant.mk (millis / 1000) ((millis % 1000).toNat * 1000000)).isValid = true ↔
      firstMilli ≤ millis ∧ millis ≤ lastMilli := by
    rw [Instant.isValid, Instant.date, hday, Bool.and_eq_true, decide_eq_true_eq,
      decide_eq_true_eq, hfirst, hlast]
  rw [Instant.ofMillis?]
  exact if_congr hvalid rfl rfl

/-! ### Main statement -/

/-- **Milliseconds are read as universal time.**  Between `/Date(` and `)/`
    stands a number of milliseconds in decimal, perhaps followed by a sign and
    an offset, and there may be blanks around the whole.  If the calendar has
    the number, the text spells the instant so many milliseconds after the
    beginning of 1970, whatever the offset is; and if it does not, the text
    spells no instant. -/
theorem instant?_of_milliseconds (millis : Int) {front offset back : String}
    (hfront : ∀ c ∈ front.toList, Text.isBlank c = true)
    (hoffset : ∀ c ∈ offset.toList.head?, c = '+' ∨ c = '-')
    (hback : ∀ c ∈ back.toList, Text.isBlank c = true) :
    (firstMilli ≤ millis ∧ millis ≤ lastMilli →
      ∃ t, instant? (front ++ "/Date(" ++ toString millis ++ offset ++ ")/" ++ back) = some t ∧
        t.nanos < secondNanos ∧ t.seconds * secondNanos + t.nanos = millis * 1000000) ∧
    (¬ (firstMilli ≤ millis ∧ millis ≤ lastMilli) →
      instant? (front ++ "/Date(" ++ toString millis ++ offset ++ ")/" ++ back) = none) := by
  have hsign : ∀ c ∈ offset.toList.head?, isSign c = true := by
    intro c hc
    rcases hoffset c hc with rfl | rfl <;> rfl
  have htrim : Text.trimChars
      (front ++ "/Date(" ++ toString millis ++ offset ++ ")/" ++ back).toList =
        "/Date(".toList ++ ((toString millis).toList ++ offset.toList) ++ ")/".toList := by
    have hchars : (front ++ "/Date(" ++ toString millis ++ offset ++ ")/" ++ back).toList =
        front.toList ++ ("/Date(".toList ++ ((toString millis).toList ++ offset.toList) ++
          ")/".toList) ++ back.toList := by
      simp only [String.toList_append, List.append_assoc]
    rw [hchars]
    have hfirst : ("/Date(".toList ++ ((toString millis).toList ++ offset.toList) ++
        ")/".toList).head? = some '/' := rfl
    have hlast : ("/Date(".toList ++ ((toString millis).toList ++ offset.toList) ++
        ")/".toList).getLast? = some '/' := by
      rw [List.getLast?_append]
      rfl
    exact trimChars_append hfront hback hfirst hlast (by decide) (by decide)
  have hread : instant? (front ++ "/Date(" ++ toString millis ++ offset ++ ")/" ++ back) =
      if firstMilli ≤ millis ∧ millis ≤ lastMilli then
        some ⟨millis / 1000, (millis % 1000).toNat * 1000000⟩ else none := by
    rw [instant?, htrim, between?_append]
    simp only [millis?_toString hsign]
    -- a number whose size does not fit is far outside of the calendar
    by_cases hfits : FitsInt64 millis.natAbs
    · rw [if_pos hfits, Option.bind_some, ofMillis?_eq]
    · rw [if_neg hfits, Option.bind_none, if_neg fun hin => hfits (fitsInt64_of_calendar hin.1 hin.2)]
  rw [hread]
  refine ⟨fun hin => ⟨_, if_pos hin, ?_, ?_⟩, fun hout => if_neg hout⟩
  · rw [secondNanos]
    simp only
    omega
  · rw [secondNanos]
    simp only
    omega

/-- The last millisecond of 1969, with an offset that begins like a number, and the first one behind
    the calendar. -/
theorem instant?_of_minus_one :
    (∀ c ∈ " ".toList, Text.isBlank c = true) ∧ (∀ c ∈ "-0800".toList.head?, c = '+' ∨ c = '-') ∧
    (∃ t, instant? " /Date(-1-0800)/ " = some t ∧ t.nanos < secondNanos ∧
      t.seconds * secondNanos + t.nanos = -1000000) ∧
    instant? " /Date(8210266876800000-0800)/ " = none := by
  have hblank : ∀ c ∈ " ".toList, Text.isBlank c = true :=
    List.all_eq_true.mp (by decide : " ".toList.all Text.isBlank = true)
  have hsign : ∀ c ∈ "-0800".toList.head?, c = '+' ∨ c = '-' := by
    intro c hc
    cases hc
    exact .inr rfl
  have hin : firstMilli ≤ -1 ∧ -1 ≤ lastMilli := by decide
  have hout : ¬ (firstMilli ≤ 8210266876800000 ∧ 8210266876800000 ≤ lastMilli) := by decide
  obtain ⟨t, hread, hnanos, hinstant⟩ := (instant?_of_milliseconds (-1) hblank hsign hblank).1 hin
  exact ⟨hblank, hsign, ⟨t, hread, hnanos, hinstant⟩,
    (instant?_of_milliseconds 8210266876800000 hblank hsign hblank).2 hout⟩

end ResourceFeed.Calendar
