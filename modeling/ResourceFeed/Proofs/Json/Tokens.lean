import Mathlib.Data.List.Basic
import ResourceFeed.Json.Printer
import ResourceFeed.Json.Token

/-! # The tokens of printed text

    The printer writes no blanks, so the tokens of a printed value are found
    piece by piece.  A piece *scans*: from a state of the machine it leads to
    another state with some tokens, whatever comes before and after it.
    Brackets, separators and strings scan from between two tokens to between
    two tokens.  A numeral or a word is only finished by what comes after it,
    so it is known as a token if nothing can come that would continue it:
    behind a printed value comes a comma, a closing bracket or the end.
-/

namespace ResourceFeed.Json

namespace Token

/-! ### Pieces of text -/

/-- Some characters lead from a state to another one, with tokens on the way. -/
def Scans (before : State) (chars : List Char) (tokens : List Token) (after : State) : Prop :=
  ∀ found rest, ofCharsFrom? before found (chars ++ rest) =
    ofCharsFrom? after (tokens.reverse ++ found) rest

section scans
variable {before middle after : State} {chars others : List Char} {tokens further : List Token}

theorem Scans.nil (state : State) : Scans state [] [] state :=
  fun _ _ => rfl

/-- One character scans as the machine takes it. -/
theorem scans_of_step {c : Char} (hstep : step? before c = some (tokens, after)) :
    Scans before [c] tokens after := by
  intro found rest
  rw [List.singleton_append, ofCharsFrom?, hstep]
  rfl

/-- Two pieces scan one after the other. -/
theorem Scans.append (hfirst : Scans before chars tokens middle)
    (hsecond : Scans middle others further after) :
    Scans before (chars ++ others) (tokens ++ further) after := by
  intro found rest
  rw [List.append_assoc, hfirst, hsecond, List.reverse_append, List.append_assoc]

/-- A character that completes no token goes before a piece. -/
theorem Scans.cons {c : Char} (hstep : step? before c = some ([], middle))
    (hrest : Scans middle others further after) : Scans before (c :: others) further after :=
  (scans_of_step hstep).append hrest

end scans

/-! ### Strings -/

/-- A character as the printer writes it: most control characters by their number. -/
def printedPart (c : Char) : StringPart :=
  match c with
  | '\x08' | '\x0c' | '\n' | '\r' | '\t' => .char c
  | c => if c.toNat < 0x20 then .unit c.toNat else .char c

/-- A text as the printer writes it. -/
def printedParts (text : String) : List StringPart :=
  text.toList.map printedPart

/-- Two hexadecimal digits stand for a number below 32. -/
theorem hexDigits_twoDigits : ∀ code : Fin 32, (charText.twoDigits code).toList.map hexDigit? =
    [some (code.val / 16), some (code.val % 16)] := by
  decide

theorem exists_twoDigits {code : Nat} (hcode : code < 0x20) :
    ∃ high low, (charText.twoDigits code).toList = [high, low] ∧
      hexDigit? high = some (code / 16) ∧ hexDigit? low = some (code % 16) := by
  have hdigits := hexDigits_twoDigits ⟨code, hcode⟩
  have hlength : (charText.twoDigits code).toList.length = 2 := by
    rw [← List.length_map (f := hexDigit?), hdigits]
    rfl
  obtain ⟨high, low, hchars⟩ := List.length_eq_two.mp hlength
  simp only [hchars, List.map_cons, List.map_nil, List.cons.injEq] at hdigits
  exact ⟨high, low, hchars, hdigits.1, hdigits.2.1⟩

/-- The number of a control character scans as one code unit. -/
theorem scans_unit {code : Nat} (hcode : code < 0x20) (parts : List StringPart) :
    Scans (.string parts) ("\\u00" ++ charText.twoDigits code).toList []
      (.string (.unit code :: parts)) := by
  obtain ⟨high, low, hdigits, hhigh, hlow⟩ := exists_twoDigits hcode
  have hchars : ("\\u00" ++ charText.twoDigits code).toList =
      ['\\', 'u', '0', '0', high, low] := by
    rw [String.toList_append, hdigits]
    rfl
  have hfirst : step? (.unit parts 2 0) high = some ([], .unit parts 1 (code / 16)) := by
    unfold step?
    rw [hhigh]
    simp
  have hsecond : step? (.unit parts 1 (code / 16)) low =
      some ([], .string (.unit code :: parts)) := by
    unfold step?
    rw [hlow]
    simp only [Option.map_some, Nat.le_refl, if_true, Nat.div_add_mod]
  rw [hchars]
  -- a backslash, the letter and two zeros, and then the two digits that matter
  have hfront : Scans (.string parts) ['\\', 'u', '0', '0'] [] (.unit parts 2 0) :=
    Scans.cons rfl (Scans.cons rfl (Scans.cons rfl (Scans.cons rfl (Scans.nil _))))
  exact hfront.append (Scans.cons hfirst (scans_of_step hsecond))

/-- A character scans as it is printed. -/
theorem scans_char (c : Char) (parts : List StringPart) :
    Scans (.string parts) (charText c).toList [] (.string (printedPart c :: parts)) := by
  have hnamed : ∀ letter named, step? (.string parts) '\\' = some ([], .escape parts) →
      step? (.escape parts) letter = some ([], .string (.char named :: parts)) →
      Scans (.string parts) ['\\', letter] [] (.string (.char named :: parts)) :=
    fun letter named hslash hletter => Scans.cons hslash (scans_of_step hletter)
  unfold charText
  split
  · exact hnamed '"' _ rfl rfl
  · exact hnamed '\\' _ rfl rfl
  · exact hnamed 'b' _ rfl rfl
  · exact hnamed 'f' _ rfl rfl
  · exact hnamed 'n' _ rfl rfl
  · exact hnamed 'r' _ rfl rfl
  · exact hnamed 't' _ rfl rfl
  · rename_i hquote hslash hback hfeed hline hreturn htab
    have hpart : printedPart c = if c.toNat < 0x20 then .unit c.toNat else .char c := by
      unfold printedPart
      split
      · exact absurd rfl hback
      · exact absurd rfl hfeed
      · exact absurd rfl hline
      · exact absurd rfl hreturn
      · exact absurd rfl htab
      · rfl
    rw [hpart]
    by_cases hcontrol : c.toNat < 0x20
    · rw [if_pos hcontrol, if_pos hcontrol]
      exact scans_unit hcontrol parts
    · rw [if_neg hcontrol, if_neg hcontrol]
      have hchar : c.toString.toList = [c] := String.toList_singleton c
      rw [hchar]
      apply scans_of_step
      have hq : (c == '"') = false := beq_false_of_ne hquote
      have hs : (c == '\\') = false := beq_false_of_ne hslash
      unfold step?
      simp only [hq, hs, hcontrol, Bool.false_eq_true, if_false]

/-- Characters scan as they are printed one after the other. -/
theorem scans_chars (chars : List Char) (parts : List StringPart) :
    Scans (.string parts) (chars.flatMap fun c => (charText c).toList) []
      (.string ((chars.map printedPart).reverse ++ parts)) := by
  induction chars generalizing parts with
  | nil => exact Scans.nil _
  | cons c rest ih =>
    rw [List.flatMap_cons, List.map_cons, List.reverse_cons, List.append_assoc]
    exact (scans_char c parts).append (ih (printedPart c :: parts))

/-- A printed text scans as one string. -/
theorem scans_stringText (text : String) :
    Scans .between (stringText text).toList [.string (printedParts text)] .between := by
  have hchars : (stringText text).toList =
      '"' :: ((text.toList.flatMap fun c => (charText c).toList) ++ ['"']) := by
    rw [stringText, String.toList_append, String.toList_append, String.toList_join,
      List.flatMap_map]
    rfl
  have hclose : step? (.string (printedParts text).reverse) '"' =
      some ([.string (printedParts text)], .between) := by
    show some ([Token.string (printedParts text).reverse.reverse], State.between) = _
    rw [List.reverse_reverse]
  have hinner := scans_chars text.toList []
  rw [List.append_nil] at hinner
  rw [hchars]
  exact Scans.cons rfl (hinner.append (scans_of_step hclose))

/-! ### What is finished by what comes after it -/

/-- What may come after a printed value. -/
def isClosing (c : Char) : Bool :=
  c == ',' || c == ']' || c == '\x7d'

/-- Nothing but what may come after a printed value comes first, if anything comes. -/
def Closes (rest : List Char) : Prop :=
  ∀ c ∈ rest.head?, isClosing c = true

/-- A state is about to complete a token: the end of the text completes it, and so does everything
    that may come after a printed value. -/
structure Completes (state : State) (token : Token) : Prop where
  finished : finish? state = some [token]
  closed : ∀ c, isClosing c = true →
    step? state c = (begin? c).map fun (tokens, after) => (token :: tokens, after)

/-- Some characters spell tokens if something follows that may come after a printed value. -/
def Spells (chars : List Char) (tokens : List Token) : Prop :=
  ∀ found rest, Closes rest → ofCharsFrom? .between found (chars ++ rest) =
    ofCharsFrom? .between (tokens.reverse ++ found) rest

section spells
variable {state : State} {chars others : List Char} {tokens further : List Token} {token : Token}

theorem Scans.spells (hscans : Scans .between chars tokens .between) : Spells chars tokens :=
  fun found rest _ => hscans found rest

/-- A piece that leaves a token about to be completed spells this token. -/
theorem Scans.spells_of_completes (hscans : Scans .between chars [] state)
    (hcompletes : Completes state token) : Spells chars [token] := by
  intro found rest hcloses
  rw [hscans]
  cases rest with
  | nil =>
    rw [ofCharsFrom?, ofCharsFrom?, hcompletes.finished]
    simp [finish?]
  | cons c rest =>
    have hclosing : isClosing c = true := hcloses c rfl
    rw [ofCharsFrom?, ofCharsFrom?, hcompletes.closed c hclosing]
    show _ = (begin? c).bind _
    cases hbegin : begin? c with
    | none => rfl
    | some result =>
      obtain ⟨tokens, after⟩ := result
      show ofCharsFrom? after ((token :: tokens).reverse ++ found) rest =
        ofCharsFrom? after (tokens.reverse ++ ([token].reverse ++ found)) rest
      simp

/-- A piece that is complete goes before others that are spelled. -/
theorem Scans.append_spells (hscans : Scans .between chars tokens .between)
    (hspells : Spells others further) : Spells (chars ++ others) (tokens ++ further) := by
  intro found rest hcloses
  rw [List.append_assoc, hscans, hspells _ _ hcloses, List.reverse_append, List.append_assoc]

/-- What is spelled goes before what begins with something that may come after it. -/
theorem Spells.append {c : Char} (hspells : Spells chars tokens) (hclosing : isClosing c = true)
    (hothers : Spells (c :: others) further) :
    Spells (chars ++ c :: others) (tokens ++ further) := by
  intro found rest hcloses
  have hfirst : Closes (c :: others ++ rest) := by
    intro first hfirst
    cases hfirst
    exact hclosing
  rw [List.append_assoc, hspells _ _ hfirst, hothers _ _ hcloses, List.reverse_append,
    List.append_assoc]

/-- The tokens of a text that is spelled. -/
theorem Spells.ofChars? (hspells : Spells chars tokens) : ofChars? chars = some tokens := by
  have hend : Closes [] := fun c hc => by cases hc
  have hall := hspells [] [] hend
  rw [List.append_nil] at hall
  rw [Token.ofChars?, hall]
  simp [ofCharsFrom?, finish?]

end spells

/-! ### Words and numerals -/

/-- What may come after a printed value is one of three characters. -/
theorem eq_of_isClosing {c : Char} (hclosing : isClosing c = true) :
    c = ',' ∨ c = ']' ∨ c = '\x7d' := by
  unfold isClosing at hclosing
  simpa [or_assoc] using hclosing

/-- A word is about to be completed after its last letter. -/
theorem completes_word {letters : List Char} {word : Word}
    (hword : word? letters.reverse = some (.word word)) :
    Completes (.word letters) (.word word) where
  finished := by
    rw [finish?, hword]
    rfl
  closed := by
    intro c hclosing
    have hletter : c.isAlpha = false := by
      rcases eq_of_isClosing hclosing with rfl | rfl | rfl <;> rfl
    rw [step?, hletter, hword]
    cases begin? c with
    | none => rfl
    | some result => rfl

theorem spells_null : Spells "null".toList [.word .null] := by
  have hscans : Scans .between "null".toList [] (.word ['l', 'l', 'u', 'n']) :=
    Scans.cons rfl (Scans.cons rfl (Scans.cons rfl (scans_of_step rfl)))
  exact hscans.spells_of_completes (completes_word rfl)

theorem spells_truth (value : Bool) :
    Spells (if value then "true" else "false").toList [.word (if value then .true else .false)] := by
  cases value with
  | true =>
    have hscans : Scans .between "true".toList [] (.word ['e', 'u', 'r', 't']) :=
      Scans.cons rfl (Scans.cons rfl (Scans.cons rfl (scans_of_step rfl)))
    exact hscans.spells_of_completes (completes_word rfl)
  | false =>
    have hscans : Scans .between "false".toList [] (.word ['e', 's', 'l', 'a', 'f']) :=
      Scans.cons rfl (Scans.cons rfl (Scans.cons rfl (Scans.cons rfl (scans_of_step rfl))))
    exact hscans.spells_of_completes (completes_word rfl)

/-- A numeral goes on with nothing that may come after a printed value. -/
theorem next?_of_isClosing (state : NumeralState) {c : Char} (hclosing : isClosing c = true) :
    state.next? c = none := by
  rcases eq_of_isClosing hclosing with rfl | rfl | rfl <;> cases state <;> rfl

/-- A numeral that may end is about to be completed. -/
theorem completes_numeral {negative : Bool} {state : NumeralState} {numeral : Numeral}
    (hfinish : state.finish? negative = some numeral) :
    Completes (.numeral negative state) (.numeral numeral) where
  finished := by
    rw [finish?, hfinish]
    rfl
  closed := by
    intro c hclosing
    have hdigit : c.isDigit = false := by
      rcases eq_of_isClosing hclosing with rfl | rfl | rfl <;> rfl
    rw [step?, next?_of_isClosing state hclosing, hfinish, hdigit]
    cases begin? c with
    | none => rfl
    | some result => rfl

/-- A text that has tokens scans to its last state. -/
theorem exists_scans {state : State} {chars : List Char} {found result : List Token}
    (hread : ofCharsFrom? state found chars = some result) :
    ∃ tokens after last, Scans state chars tokens after ∧ finish? after = some last ∧
      result = found.reverse ++ tokens ++ last := by
  induction chars generalizing state found with
  | nil =>
    obtain ⟨last, hlast, hresult⟩ := Option.map_eq_some_iff.mp hread
    refine ⟨[], state, last, Scans.nil state, hlast, ?_⟩
    rw [← hresult, List.append_nil]
  | cons c rest ih =>
    obtain ⟨⟨tokens, middle⟩, hstep, hread⟩ := Option.bind_eq_some_iff.mp hread
    obtain ⟨further, after, last, hscans, hlast, hresult⟩ := ih hread
    refine ⟨tokens ++ further, after, last, (scans_of_step hstep).append hscans, hlast, ?_⟩
    rw [hresult, List.reverse_append, List.reverse_reverse]
    simp only [List.append_assoc]

/-- A word is no numeral. -/
theorem word?_ne_numeral {letters : List Char} {numeral : Numeral} :
    word? letters ≠ some (.numeral numeral) := by
  unfold word?
  split <;> simp

/-- A text whose only token is a numeral spells it in front of whatever may come after a value. -/
theorem spells_of_numeral {chars : List Char} {numeral : Numeral}
    (hread : ofChars? chars = some [.numeral numeral]) : Spells chars [.numeral numeral] := by
  obtain ⟨tokens, after, last, hscans, hlast, hresult⟩ := exists_scans hread
  rw [List.reverse_nil, List.nil_append] at hresult
  cases after with
  | between =>
    -- blanks at the end have completed the numeral already
    cases hlast
    rw [List.append_nil] at hresult
    exact (hresult ▸ hscans).spells
  | word letters =>
    obtain ⟨token, htoken, rfl⟩ := Option.map_eq_some_iff.mp hlast
    have htokens : [Token.numeral numeral].getLast? = some token := by
      rw [hresult, List.getLast?_concat]
    cases htokens
    exact absurd htoken word?_ne_numeral
  | numeral negative state =>
    obtain ⟨written, hfinish, rfl⟩ := Option.map_eq_some_iff.mp hlast
    have hlength := congrArg List.length hresult
    rw [List.length_append, List.length_singleton, List.length_singleton] at hlength
    have htokens : tokens = [] := List.eq_nil_of_length_eq_zero (by omega)
    subst htokens
    cases hresult
    exact hscans.spells_of_completes (completes_numeral hfinish)
  | string parts => cases hlast
  | escape parts => cases hlast
  | unit parts left code => cases hlast

end Token

end ResourceFeed.Json
