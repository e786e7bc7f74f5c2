/-! # Splitting text

    A text with separators falls into pieces: one more than it has separators,
    some of them possibly empty.  Joining the pieces with the separator gives
    the text back.
-/

namespace ResourceFeed.Text

/-- The pieces of a text between the characters that satisfy `separates`. -/
def pieces (separates : Char → Bool) : List Char → List (List Char)
  | [] => [[]]
  | c :: rest =>
    if separates c then [] :: pieces separates rest
    else match pieces separates rest with
      | piece :: others => (c :: piece) :: others
      | [] => [[c]]

/-- Texts with a separator between each two. -/
def join (separator : Char) : List (List Char) → List Char
  | [] => []
  | [piece] => piece
  | piece :: rest => piece ++ separator :: join separator rest

/-- What stands before the first of a character, and what stands after it if there is one. -/
def splitFirst (separator : Char) : List Char → List Char × Option (List Char)
  | [] => ([], none)
  | c :: rest =>
    if c = separator then ([], some rest)
    else
      let (front, back) := splitFirst separator rest
      (c :: front, back)

/-! ## Laws -/

theorem pieces_ne_nil (separates : Char → Bool) (text : List Char) :
    pieces separates text ≠ [] := by
  cases text with
  | nil => simp [pieces]
  | cons c rest =>
    simp only [pieces]
    split
    · simp
    · split <;> simp

/-- Joining the pieces of a text gives the text back. -/
theorem join_pieces (separator : Char) (text : List Char) :
    join separator (pieces (· == separator) text) = text := by
  induction text with
  | nil => rfl
  | cons c rest ih =>
    simp only [pieces]
    split
    · rename_i h
      have h : c = separator := by simpa using h
      obtain ⟨piece, others, hp⟩ := List.exists_cons_of_ne_nil (pieces_ne_nil (· == separator) rest)
      rw [hp] at ih ⊢
      rw [join, List.nil_append, ih, h]
      simp
    · split
      · rename_i piece others hp
        rw [hp] at ih
        cases others with
        | nil => simpa [join] using ih
        | cons _ _ => simpa [join] using ih
      · rename_i hp
        exact absurd hp (pieces_ne_nil _ _)

/-- The pieces of a text are those of any list. -/
theorem pieces_eq_splitOnP (separates : Char → Bool) (text : List Char) :
    pieces separates text = text.splitOnP separates := by
  induction text with
  | nil => rfl
  | cons c rest ih =>
    rw [pieces, List.splitOnP_cons_eq_if_modifyHead]
    obtain ⟨first, others, hpieces⟩ := List.exists_cons_of_ne_nil (pieces_ne_nil separates rest)
    rw [← ih, hpieces]
    rfl

/-- The first separator ends what stands before it. -/
theorem splitFirst_eq (separator : Char) (text : List Char) :
    splitFirst separator text =
      (text.takeWhile (· != separator), (text.dropWhile (· != separator)).tail?) := by
  induction text with
  | nil => rfl
  | cons c rest ih =>
    rw [splitFirst, ih]
    by_cases hc : c = separator
    · simp [hc]
    · simp [hc]

/-- Between its separators a text has none. -/
theorem not_mem_of_mem_pieces {separator : Char} {text piece : List Char}
    (hpiece : piece ∈ pieces (· == separator) text) : separator ∉ piece := by
  induction text generalizing piece with
  | nil =>
    rw [List.mem_singleton.mp hpiece]
    exact List.not_mem_nil
  | cons c rest ih =>
    rw [pieces] at hpiece
    by_cases hc : c = separator
    · rw [if_pos (beq_iff_eq.mpr hc)] at hpiece
      rcases List.mem_cons.mp hpiece with rfl | hrest
      · exact List.not_mem_nil
      · exact ih hrest
    · obtain ⟨first, others, hpieces⟩ :=
        List.exists_cons_of_ne_nil (pieces_ne_nil (· == separator) rest)
      rw [if_neg (by simpa using hc), hpieces] at hpiece
      rw [hpieces] at ih
      rcases List.mem_cons.mp hpiece with rfl | hothers
      · rw [List.mem_cons, not_or]
        exact ⟨fun h => hc h.symm, ih List.mem_cons_self⟩
      · exact ih (List.mem_cons_of_mem _ hothers)

end ResourceFeed.Text
