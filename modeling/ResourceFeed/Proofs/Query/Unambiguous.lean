import ResourceFeed.Proofs.Query.Nodes
import ResourceFeed.Proofs.Query.Spelling

/-! # The text of a predicate tells which predicate it is

    Where the left operand of an operator ends is not marked in the text of a
    predicate.  It is found all the same: names and numbers go on up to the
    next space or parenthesis, text constants up to the next quotation mark,
    and everything else is in parentheses of its own.  So a text that is
    followed by something is taken apart in one way only, and this, by
    induction on the predicate, is `Spelled.append_inj`.

    Two things are spelled alike on purpose: both conjunctions, and a truth
    value and the number one or zero.  `canonical` identifies them.
-/

namespace ResourceFeed

/-! ### Predicates that can be read back -/

/-- A letter, a digit or an underscore; all characters beyond ASCII are taken for letters. -/
def IsWordChar (c : Char) : Prop :=
  c.isAlphanum = true ∨ c = '_' ∨ 128 ≤ c.toNat

instance (c : Char) : Decidable (IsWordChar c) :=
  inferInstanceAs (Decidable (c.isAlphanum = true ∨ c = '_' ∨ 128 ≤ c.toNat))

theorem isWordChar_of_all {word : List Char} (h : word.all (fun c => IsWordChar c) = true) :
    ∀ c ∈ word, IsWordChar c := by
  intro c hc
  exact of_decide_eq_true (List.all_eq_true.mp h c hc)

/-- A name that begins with an ASCII letter and goes on with letters, digits and underscores, and
    that is not the word for null. -/
structure IsIdentifier (name : String) : Prop where
  shape : ∃ first rest, name.toList = first :: rest ∧ first.isAlpha = true ∧
    ∀ c ∈ rest, IsWordChar c
  not_null : name ≠ "NULL"

namespace Expr

/-- Predicates of operators that the server knows, over members with proper names and over
    constants; text constants have no quotation mark in them. -/
inductive IsLegible : Expr → Prop where
  | field {name : String} (hname : IsIdentifier name) : IsLegible (.field name)
  | null : IsLegible (.constant .null)
  | bool (value : Bool) : IsLegible (.constant (.bool value))
  | int (value : Int64) : IsLegible (.constant (.int value))
  | text {text : String} (htext : '\x27' ∉ text.toList) : IsLegible (.constant (.text text))
  | binary {operator : Operator} {left right : Expr}
      (hoperator : operator ∈ Operator.translatable)
      (hleft : IsLegible left) (hright : IsLegible right) :
      IsLegible (.binary operator left right)

end Expr

/-- The operator that stands for all of its spelling. -/
def Operator.canonical : Operator → Operator
  | .andAlso => .and
  | operator => operator

/-- The operator that a word stands for. -/
def Operator.ofWord? : String → Option Operator
  | "and" => some .and
  | "or" => some .or
  | "eq" => some .eq
  | "ne" => some .ne
  | "lt" => some .lt
  | "le" => some .le
  | "gt" => some .gt
  | "ge" => some .ge
  | _ => none

theorem Operator.ofWord?_keyword {operator : Operator} {word : String}
    (h : operator.keyword = .ok word) : Operator.ofWord? word = some operator.canonical := by
  cases operator <;> cases h <;> rfl

/-- The predicate that stands for all of its spelling: with one conjunction, and with one and zero
    for the truth values. -/
def Expr.canonical : Expr → Expr
  | .constant (.bool value) => .constant (.int (if value then 1 else 0))
  | .binary operator left right => .binary operator.canonical left.canonical right.canonical
  | expr => expr

namespace Expr

/-- What is identified is spelled alike. -/
theorem predicateText_canonical (predicate : Expr) :
    predicate.canonical.predicateText = predicate.predicateText := by
  induction predicate using Expr.predicateText.induct with
  | case4 value =>
    cases value with
    | bool value => cases value <;> rfl
    | _ => rfl
  | case5 operator left right ihleft ihright =>
    have hword : operator.canonical.keyword = operator.keyword := by
      cases operator <;> rfl
    rw [canonical, predicateText, predicateText, hword, ihleft, ihright]
  | _ => rfl

end Expr

/-! ### Words -/

theorem isDigit_of_mem_nat {n : Nat} {c : Char} (h : c ∈ (toString n).toList) :
    c.isDigit = true := by
  rw [Nat.toString_eq_ofList_toDigits, String.toList_ofList] at h
  exact Nat.isDigit_of_mem_toDigits (by decide) (by decide) h

theorem toString_negSucc (n : Nat) : toString (Int.negSucc n) = "-" ++ toString (n + 1) := rfl

/-- The text of an integer is made of digits and of the minus sign. -/
theorem isDigit_of_mem_int {value : Int} {c : Char} (h : c ∈ (toString value).toList) :
    c.isDigit = true ∨ c = '-' := by
  cases value with
  | ofNat n => exact .inl (isDigit_of_mem_nat h)
  | negSucc n =>
    rw [toString_negSucc, String.toList_append] at h
    rcases List.mem_append.mp h with h | h
    · exact .inr (List.mem_singleton.mp h)
    · exact .inl (isDigit_of_mem_nat h)

theorem integer_ne_nil (value : Int) : (toString value).toList ≠ [] := by
  have hnat : ∀ n : Nat, (toString n).toList ≠ [] := by
    intro n
    rw [Nat.toString_eq_ofList_toDigits, String.toList_ofList]
    exact Nat.toDigits_ne_nil
  cases value with
  | ofNat n => exact hnat n
  | negSucc n =>
    rw [toString_negSucc, String.toList_append]
    exact List.append_ne_nil_of_right_ne_nil _ (hnat (n + 1))

/-- Different integers are written differently. -/
theorem integer_injective {a b : Int} (h : toString a = toString b) : a = b := by
  have hsign : ∀ m n : Nat, toString (Int.ofNat m) ≠ toString (Int.negSucc n) := by
    intro m n h
    have hminus : '-' ∈ (toString m).toList := by
      have hm : toString m = toString (Int.negSucc n) := h
      rw [hm, toString_negSucc, String.toList_append]
      exact List.mem_append_left _ (by decide)
    exact absurd (isDigit_of_mem_nat hminus) (by decide)
  cases a with
  | ofNat m =>
    cases b with
    | ofNat n => rw [number_injective h]
    | negSucc n => exact absurd h (hsign m n)
  | negSucc m =>
    cases b with
    | ofNat n => exact absurd h.symm (hsign n m)
    | negSucc n =>
      rw [toString_negSucc, toString_negSucc, ← String.toList_inj, String.toList_append,
        String.toList_append] at h
      have hsucc := number_injective (String.toList_inj.mp (List.append_cancel_left h))
      rw [Nat.succ.inj hsucc]

/-- The letters come after the digits. -/
theorem not_isAlpha_of_isDigit {c : Char} (h : c.isDigit = true) : c.isAlpha = false := by
  have hlast : c.toNat ≤ '9'.toNat := (Char.isDigit_iff_toNat.mp h).2
  have hletter : ∀ first : Char, '9'.toNat < first.toNat → ¬ first.val ≤ c.val := by
    intro first hfirst hle
    have hnat : first.toNat ≤ c.toNat := UInt32.le_iff_toNat_le.mp hle
    omega
  have hupper : c.isUpper = false :=
    decide_eq_false fun hrange => hletter 'A' (by decide) hrange.1
  have hlower : c.isLower = false :=
    Bool.and_eq_false_imp.mpr fun hle => absurd (of_decide_eq_true hle) (hletter 'a' (by decide))
  exact Bool.or_eq_false_iff.mpr ⟨hupper, hlower⟩

/-- Names and the word for null begin with a letter, integers do not. -/
theorem not_isAlpha_of_int {value : Int} {first : Char} {rest : List Char}
    (h : (toString value).toList = first :: rest) : first.isAlpha = false := by
  have hmem : first ∈ (toString value).toList := h ▸ List.mem_cons_self
  rcases isDigit_of_mem_int hmem with hdigit | rfl
  · exact not_isAlpha_of_isDigit hdigit
  · rfl

/-- An expression that is spelled as a single word. -/
inductive IsWord : Expr → List Char → Prop where
  | field {name : String} (hname : IsIdentifier name) : IsWord (.field name) name.toList
  | null : IsWord (.constant .null) "NULL".toList
  | int (value : Int64) : IsWord (.constant (.int value)) (toString value.toInt).toList

namespace IsWord

variable {expr other : Expr} {word otherWord : List Char}

/-- A word does not begin with a parenthesis or a quotation mark. -/
theorem first (h : IsWord expr word) :
    ∃ first rest, word = first :: rest ∧ first ≠ '(' ∧ first ≠ '\x27' := by
  cases h with
  | field hname =>
    obtain ⟨first, rest, hlist, halpha, -⟩ := hname.shape
    refine ⟨first, rest, hlist, ?_, ?_⟩
    · rintro rfl
      exact absurd halpha (by decide)
    · rintro rfl
      exact absurd halpha (by decide)
  | null => exact ⟨'N', ['U', 'L', 'L'], by decide, by decide, by decide⟩
  | int value =>
    obtain ⟨first, rest, hlist⟩ := List.exists_cons_of_ne_nil (integer_ne_nil value.toInt)
    have hfirst := isDigit_of_mem_int (hlist ▸ List.mem_cons_self)
    refine ⟨first, rest, hlist, ?_, ?_⟩
    · rintro rfl
      exact absurd hfirst (by decide)
    · rintro rfl
      exact absurd hfirst (by decide)

/-- What a word is made of. -/
theorem isWordChar (h : IsWord expr word) : ∀ c ∈ word, IsWordChar c ∨ c = '-' := by
  intro c hc
  cases h with
  | field hname =>
    obtain ⟨first, rest, hlist, halpha, hrest⟩ := hname.shape
    rw [hlist] at hc
    rcases List.mem_cons.mp hc with rfl | hc
    · exact .inl (.inl (by rw [Char.isAlphanum, halpha, Bool.true_or]))
    · exact .inl (hrest c hc)
  | null => exact .inl (isWordChar_of_all rfl c hc)
  | int value =>
    rcases isDigit_of_mem_int hc with hdigit | hminus
    · exact .inl (.inl (by rw [Char.isAlphanum, hdigit, Bool.or_true]))
    · exact .inr hminus

/-- A word goes on up to the next space or closing parenthesis. -/
theorem not_end (h : IsWord expr word) : ∀ c ∈ word, ¬ (c = ' ' ∨ c = ')') := by
  intro c hc
  have hchar := h.isWordChar c hc
  rintro (rfl | rfl)
  · exact absurd hchar (by decide)
  · exact absurd hchar (by decide)

/-- A word stands for one expression. -/
theorem unique (h : IsWord expr word) (hother : IsWord other otherWord) (heq : word = otherWord) :
    expr = other := by
  cases h with
  | field hname =>
    obtain ⟨first, rest, hlist, halpha, -⟩ := hname.shape
    cases hother with
    | field hname' => rw [String.toList_inj.mp heq]
    | null => exact absurd (String.toList_inj.mp heq) hname.not_null
    | int value => exact absurd (not_isAlpha_of_int (heq ▸ hlist)) (by simp [halpha])
  | null =>
    cases hother with
    | field hname => exact absurd (String.toList_inj.mp heq.symm) hname.not_null
    | null => rfl
    | int value =>
      have hlist : (toString value.toInt).toList = 'N' :: ['U', 'L', 'L'] := heq ▸ by decide
      exact absurd (not_isAlpha_of_int hlist) (by decide)
  | int value =>
    cases hother with
    | field hname =>
      obtain ⟨first, rest, hlist, halpha, -⟩ := hname.shape
      exact absurd (not_isAlpha_of_int (heq.trans hlist)) (by simp [halpha])
    | null =>
      have hlist : (toString value.toInt).toList = 'N' :: ['U', 'L', 'L'] := heq.trans (by decide)
      exact absurd (not_isAlpha_of_int hlist) (by decide)
    | int value' => rw [Int64.toInt_inj.mp (integer_injective (String.toList_inj.mp heq))]

end IsWord

/-! ### Taking a text apart -/

/-- Two words that are followed by a stop, or by nothing, end at the same place. -/
theorem append_inj_of_stops {stop : Char → Prop} {w w' u v : List Char}
    (hw : ∀ c ∈ w, ¬ stop c) (hw' : ∀ c ∈ w', ¬ stop c)
    (hu : ∀ c ∈ u.head?, stop c) (hv : ∀ c ∈ v.head?, stop c) (h : w ++ u = w' ++ v) :
    w = w' ∧ u = v := by
  induction w generalizing w' with
  | nil =>
    cases w' with
    | nil => exact ⟨rfl, h⟩
    | cons c rest =>
      have hhead : u = c :: (rest ++ v) := h
      exact absurd (hu c (by simp [hhead])) (hw' c List.mem_cons_self)
  | cons c rest ih =>
    cases w' with
    | nil =>
      have hhead : v = c :: (rest ++ u) := h.symm
      exact absurd (hv c (by simp [hhead])) (hw c List.mem_cons_self)
    | cons c' rest' =>
      obtain ⟨hc, hrest⟩ := List.cons.inj h
      obtain ⟨hw, huv⟩ := ih (fun d hd => hw d (List.mem_cons_of_mem _ hd))
        (fun d hd => hw' d (List.mem_cons_of_mem _ hd)) hrest
      exact ⟨by rw [hc, hw], huv⟩

/-- What a predicate in canonical form is spelled like. -/
inductive Spelled : Expr → List Char → Prop where
  | word {expr : Expr} {word : List Char} (hword : IsWord expr word) : Spelled expr word
  | quoted {text : String} (htext : '\x27' ∉ text.toList) :
      Spelled (.constant (.text text)) ('\x27' :: (text.toList ++ ['\x27']))
  | binary {operator : Operator} {word : String} {left right : Expr} {leftText rightText : List Char}
      (hcanonical : operator.canonical = operator) (hword : operator.keyword = .ok word)
      (hleft : Spelled left leftText) (hright : Spelled right rightText) :
      Spelled (.binary operator left right)
        ('(' :: (leftText ++ ' ' :: (word.toList ++ ' ' :: (rightText ++ [')']))))

/-- The words of operators have no space in them. -/
theorem space_not_mem_keyword {operator : Operator} {word : String}
    (h : operator.keyword = .ok word) : ∀ c ∈ word.toList, ¬ c = ' ' := by
  have hchars : ∀ c ∈ word.toList, IsWordChar c := by
    cases operator <;> cases h <;> exact isWordChar_of_all rfl
  intro c hc
  have hchar := hchars c hc
  rintro rfl
  exact absurd hchar (by decide)

/-- A text that is followed by the end of an operand is taken apart in one way. -/
theorem Spelled.append_inj {predicate other : Expr} {text otherText rest otherRest : List Char}
    (h : Spelled predicate text) (hother : Spelled other otherText)
    (hrest : ∀ c ∈ rest.head?, c = ' ' ∨ c = ')')
    (hotherRest : ∀ c ∈ otherRest.head?, c = ' ' ∨ c = ')')
    (heq : text ++ rest = otherText ++ otherRest) : predicate = other ∧ rest = otherRest := by
  induction h generalizing other otherText rest otherRest with
  | word hword =>
    obtain ⟨first, tail, rfl, hparenthesis, hquote⟩ := hword.first
    cases hother with
    | word hword' =>
      obtain ⟨hwords, hrests⟩ :=
        append_inj_of_stops hword.not_end hword'.not_end hrest hotherRest heq
      exact ⟨hword.unique hword' hwords, hrests⟩
    | quoted => exact absurd (List.cons.inj heq).1 hquote
    | binary => exact absurd (List.cons.inj heq).1 hparenthesis
  | @quoted constant hconstant =>
    cases hother with
    | word hword =>
      obtain ⟨first, tail, rfl, -, hquote⟩ := hword.first
      exact absurd (List.cons.inj heq).1.symm hquote
    | @quoted constant' hconstant' =>
      -- the constants go on up to the first quotation mark behind them
      have htail : constant.toList ++ '\x27' :: rest = constant'.toList ++ '\x27' :: otherRest := by
        simpa using heq
      have hquotes : ∀ c ∈ constant.toList, ¬ c = '\x27' :=
        fun c hc hquote => hconstant (hquote ▸ hc)
      have hquotes' : ∀ c ∈ constant'.toList, ¬ c = '\x27' :=
        fun c hc hquote => hconstant' (hquote ▸ hc)
      obtain ⟨hconstants, hrests⟩ :=
        append_inj_of_stops hquotes hquotes' (by simp) (by simp) htail
      exact ⟨by rw [String.toList_inj.mp hconstants], (List.cons.inj hrests).2⟩
    | binary => exact absurd (List.cons.inj heq).1 (by decide)
  | @binary operator word left right leftText rightText hcanonical hword hleft hright ihleft ihright =>
    cases hother with
    | word hword =>
      obtain ⟨first, tail, rfl, hparenthesis, -⟩ := hword.first
      exact absurd (List.cons.inj heq).1.symm hparenthesis
    | quoted => exact absurd (List.cons.inj heq).1 (by decide)
    | @binary operator' word' left' right' leftText' rightText' hcanonical' hword' hleft' hright' =>
      have htail : leftText ++ ' ' :: (word.toList ++ ' ' :: (rightText ++ ')' :: rest))
          = leftText' ++ ' ' :: (word'.toList ++ ' ' :: (rightText' ++ ')' :: otherRest)) := by
        simpa using heq
      obtain ⟨hlefts, htail⟩ := ihleft hleft' (by simp) (by simp) htail
      -- the word of the operator goes on up to the next space
      have htail := (List.cons.inj htail).2
      obtain ⟨hwords, htail⟩ := append_inj_of_stops (space_not_mem_keyword hword)
        (space_not_mem_keyword hword') (by simp) (by simp) htail
      have hoperators : operator = operator' := by
        have hread := Operator.ofWord?_keyword hword
        rw [String.toList_inj.mp hwords, Operator.ofWord?_keyword hword', hcanonical,
          hcanonical'] at hread
        exact (Option.some.inj hread).symm
      obtain ⟨hrights, htail⟩ := ihright hright' (by simp) (by simp) (List.cons.inj htail).2
      exact ⟨by rw [hoperators, hlefts, hrights], (List.cons.inj htail).2⟩

/-! ### Main statement -/

/-- A predicate that can be read back has a text, which spells its canonical form. -/
theorem Expr.IsLegible.spelled {predicate : Expr} (h : predicate.IsLegible) :
    ∃ text, predicate.predicateText = .ok text ∧ Spelled predicate.canonical text.toList := by
  induction h with
  | @field name hname => exact ⟨name, rfl, .word (.field hname)⟩
  | null => exact ⟨"NULL", rfl, .word .null⟩
  | bool value =>
    cases value with
    | true => exact ⟨"1", rfl, .word (.int 1)⟩
    | false => exact ⟨"0", rfl, .word (.int 0)⟩
  | int value => exact ⟨toString value.toInt, rfl, .word (.int value)⟩
  | @text text htext =>
    refine ⟨"'" ++ text ++ "'", rfl, ?_⟩
    have hlist : ("'" ++ text ++ "'").toList = '\x27' :: (text.toList ++ ['\x27']) := by
      simp [String.toList_append]
    rw [hlist]
    exact .quoted htext
  | @binary operator left right hoperator _ _ ihleft ihright =>
    obtain ⟨word, hword⟩ := Operator.keyword_of_translatable hoperator
    obtain ⟨leftText, hleft, hleftSpelled⟩ := ihleft
    obtain ⟨rightText, hright, hrightSpelled⟩ := ihright
    refine ⟨"(" ++ leftText ++ " " ++ word ++ " " ++ rightText ++ ")", ?_, ?_⟩
    · rw [Expr.predicateText, hword, hleft, hright]
      rfl
    · have hlist : ("(" ++ leftText ++ " " ++ word ++ " " ++ rightText ++ ")").toList =
          '(' :: (leftText.toList ++ ' ' :: (word.toList ++ ' ' :: (rightText.toList ++ [')']))) := by
        simp [String.toList_append]
      have hcanonical : operator.canonical.canonical = operator.canonical ∧
          operator.canonical.keyword = .ok word := by
        cases operator <;> exact ⟨rfl, hword⟩
      rw [hlist]
      exact .binary hcanonical.1 hcanonical.2 hleftSpelled hrightSpelled

/-- **The text of a predicate is unambiguous**: among predicates of the operators that the server
    knows, over members with proper names and over constants without quotation marks, two have the
    same text if and only if they are the same but for the conjunction that is used and for truth
    values in the place of one and zero. -/
theorem predicateText_eq_iff {predicate other : Expr} (h : predicate.IsLegible)
    (hother : other.IsLegible) :
    predicate.predicateText = other.predicateText ↔ predicate.canonical = other.canonical := by
  constructor
  · intro htexts
    obtain ⟨text, htext, hspelled⟩ := h.spelled
    obtain ⟨otherText, hotherText, hotherSpelled⟩ := hother.spelled
    rw [htext, hotherText] at htexts
    cases htexts
    exact (hspelled.append_inj hotherSpelled (by simp) (by simp) (rfl : _ ++ [] = _)).1
  · intro hcanonical
    rw [← predicate.predicateText_canonical, ← other.predicateText_canonical, hcanonical]

/-- The open contacts of a name that looks like the rest of a predicate. -/
def openAndNamed (conjunction : Operator) (isOpen : Value) : Expr :=
  .binary conjunction
    (.binary .eq (.field "Last_Name") (.constant (.text "Tom) and (Open eq NULL")))
    (.binary .eq (.field "Open") (.constant isOpen))

/-- Such contacts have the same text for both conjunctions and for a truth value and a number. -/
theorem predicateText_eq_of_openAndNamed :
    (openAndNamed .andAlso (.bool true)).IsLegible ∧ (openAndNamed .and (.int 1)).IsLegible ∧
    (openAndNamed .andAlso (.bool true)).predicateText
      = (openAndNamed .and (.int 1)).predicateText := by
  have hlast : (Expr.field "Last_Name").IsLegible :=
    .field ⟨⟨'L', "ast_Name".toList, by decide, by decide, isWordChar_of_all rfl⟩, by decide⟩
  have hopen : (Expr.field "Open").IsLegible :=
    .field ⟨⟨'O', "pen".toList, by decide, by decide, isWordChar_of_all rfl⟩, by decide⟩
  have hname : (Expr.binary .eq (.field "Last_Name")
      (.constant (.text "Tom) and (Open eq NULL"))).IsLegible :=
    .binary (by decide) hlast (.text (by decide))
  have hbool : (openAndNamed .andAlso (.bool true)).IsLegible :=
    .binary (by decide) hname (.binary (by decide) hopen (.bool true))
  have hint : (openAndNamed .and (.int 1)).IsLegible :=
    .binary (by decide) hname (.binary (by decide) hopen (.int 1))
  exact ⟨hbool, hint, (predicateText_eq_iff hbool hint).mpr rfl⟩

end ResourceFeed
