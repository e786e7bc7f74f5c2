import ResourceFeed.Text.Utf8

/-! # Every text is read back from its bytes

    A character is encoded in one to four bytes.  Its first byte tells how
    many there are, and the bits of the others are put behind those of the
    first.  Some second bytes are refused: those that would begin a character
    that needs fewer bytes, a surrogate, or a number that is no character.
    The bytes of a character are never among them, so the reader finds no
    fault in the bytes of a text.
-/

namespace ResourceFeed.Text

namespace Utf8

/-! ### The bytes of a text -/

theorem toList_loop (bytes : ByteArray) (place : Nat) (found : List UInt8) :
    ByteArray.toList.loop bytes place found =
      found.reverse ++ bytes.data.toList.drop place := by
  fun_induction ByteArray.toList.loop bytes place found with
  | case1 place found hplace ih =>
    have hlength : place < bytes.data.toList.length := by simpa using hplace
    have hbyte : bytes.get! place = bytes.data.toList[place] := by
      have hget : bytes.get! place = bytes.data[place]! := by
        cases bytes
        rfl
      rw [hget, getElem!_pos bytes.data place hplace, Array.getElem_toList]
    rw [ih, List.drop_eq_getElem_cons hlength, hbyte, List.reverse_cons, List.append_assoc]
    rfl
  | case2 place found hplace =>
    have hlength : bytes.data.toList.length ≤ place := by simpa using hplace
    rw [List.drop_eq_nil_of_le hlength, List.append_nil]

/-- The bytes of a text are those of its characters. -/
theorem toBytes_eq (text : String) : toBytes text = text.toList.flatMap String.utf8EncodeChar := by
  have hlist : ∀ bytes : ByteArray, bytes.toList = bytes.data.toList := fun bytes =>
    toList_loop bytes 0 []
  have hchars : text.toUTF8 = (text.toList.flatMap String.utf8EncodeChar).toByteArray := by
    have hsame : (String.ofList text.toList).toUTF8 = text.toUTF8 := by rw [String.ofList_toList]
    rw [← hsame]
    rfl
  rw [toBytes, hlist, hchars, List.toList_data_toByteArray]

/-! ### One byte -/

section byte
variable {lead bits value : Nat} {low high : UInt8} {pending next : Pending} {byte : UInt8}
  {rest : Bytes}

/-- The first of two bytes. -/
theorem step_firstOfTwo (hlow : 2 ≤ lead) (hhigh : lead < 0x20) :
    step .idle (UInt8.ofNat (lead + 0xc0)) = ([], .within 1 lead 0x80 0xbf) := by
  have hbyte : (UInt8.ofNat (lead + 0xc0)).toNat = lead + 0xc0 := by
    rw [UInt8.toNat_ofNat']
    omega
  have hlead : (lead + 0xc0) % 0x20 = lead := by omega
  unfold step first
  simp only [hbyte, hlead]
  rw [if_neg (by omega), if_neg (by omega), if_pos (by omega)]

/-- The first of three bytes. -/
theorem step_firstOfThree (hhigh : lead < 0x10) :
    step .idle (UInt8.ofNat (lead + 0xe0)) =
      ([], .within 2 lead (if lead = 0 then 0xa0 else 0x80) (if lead = 0xd then 0x9f else 0xbf)) := by
  have hbyte : (UInt8.ofNat (lead + 0xe0)).toNat = lead + 0xe0 := by
    rw [UInt8.toNat_ofNat']
    omega
  have hlead : (lead + 0xe0) % 0x10 = lead := by omega
  unfold step first
  simp only [hbyte, hlead]
  rw [if_neg (by omega), if_neg (by omega), if_neg (by omega), if_pos (by omega)]
  simp

/-- The first of four bytes. -/
theorem step_firstOfFour (hhigh : lead < 5) :
    step .idle (UInt8.ofNat (lead + 0xf0)) =
      ([], .within 3 lead (if lead = 0 then 0x90 else 0x80) (if lead = 4 then 0x8f else 0xbf)) := by
  have hbyte : (UInt8.ofNat (lead + 0xf0)).toNat = lead + 0xf0 := by
    rw [UInt8.toNat_ofNat']
    omega
  have hlead : (lead + 0xf0) % 0x08 = lead := by omega
  unfold step first
  simp only [hbyte, hlead]
  rw [if_neg (by omega), if_neg (by omega), if_neg (by omega), if_neg (by omega),
    if_pos (by omega)]
  simp

/-- A byte that is allowed after the first one adds six bits. -/
theorem step_bits (missing : Nat) (hbits : bits < 0x40) (hlow : low.toNat ≤ bits + 0x80)
    (hhigh : bits + 0x80 ≤ high.toNat) :
    step (.within missing value low high) (UInt8.ofNat (bits + 0x80)) =
      if missing ≤ 1 then ([some (Char.ofNat (value * 0x40 + bits))], .idle)
      else ([], .within (missing - 1) (value * 0x40 + bits) 0x80 0xbf) := by
  have hbyte : (UInt8.ofNat (bits + 0x80)).toNat = bits + 0x80 := by
    rw [UInt8.toNat_ofNat']
    omega
  have hallowed : (low ≤ UInt8.ofNat (bits + 0x80) && UInt8.ofNat (bits + 0x80) ≤ high) = true := by
    rw [Bool.and_eq_true, decide_eq_true_eq, decide_eq_true_eq, UInt8.le_iff_toNat_le,
      UInt8.le_iff_toNat_le, hbyte]
    exact ⟨hlow, hhigh⟩
  have hvalue : (bits + 0x80) % 0x40 = bits := by omega
  unfold step
  simp only
  rw [if_pos hallowed, hbyte, hvalue]

/-- Only the second byte of a character may be limited further than this. -/
theorem allowed (hbits : bits < 0x40) :
    (0x80 : UInt8).toNat ≤ bits + 0x80 ∧ bits + 0x80 ≤ (0xbf : UInt8).toNat := by
  have hlow : (0x80 : UInt8).toNat = 0x80 := rfl
  have hhigh : (0xbf : UInt8).toNat = 0xbf := rfl
  omega

/-- A byte that completes nothing. -/
theorem piecesFrom_of_pending (hstep : step pending byte = ([], next)) :
    piecesFrom pending (byte :: rest) = piecesFrom next rest := by
  rw [piecesFrom, hstep]
  rfl

/-- A byte that completes a character. -/
theorem piecesFrom_of_char {c : Char} (hstep : step pending byte = ([some c], .idle)) :
    piecesFrom pending (byte :: rest) = some c :: piecesFrom .idle rest := by
  rw [piecesFrom, hstep]
  rfl

/-- Six bits that are not the last ones. -/
theorem piecesFrom_more {missing : Nat} (hbits : bits < 0x40) (hlow : low.toNat ≤ bits + 0x80)
    (hhigh : bits + 0x80 ≤ high.toNat) :
    piecesFrom (.within (missing + 2) value low high) (UInt8.ofNat (bits + 0x80) :: rest) =
      piecesFrom (.within (missing + 1) (value * 0x40 + bits) 0x80 0xbf) rest := by
  apply piecesFrom_of_pending
  rw [step_bits (missing + 2) hbits hlow hhigh, if_neg (by omega)]
  rfl

/-- The last six bits. -/
theorem piecesFrom_last (hbits : bits < 0x40) :
    piecesFrom (.within 1 value 0x80 0xbf) (UInt8.ofNat (bits + 0x80) :: rest) =
      some (Char.ofNat (value * 0x40 + bits)) :: piecesFrom .idle rest := by
  apply piecesFrom_of_char
  rw [step_bits 1 hbits (allowed hbits).1 (allowed hbits).2, if_pos (Nat.le_refl 1)]

end byte

/-! ### One character -/

section character
variable {lead second third last : Nat} (rest : Bytes)

theorem piecesFrom_one (hlast : last < 0x80) :
    piecesFrom .idle (UInt8.ofNat last :: rest) =
      some (Char.ofNat last) :: piecesFrom .idle rest := by
  have hbyte : (UInt8.ofNat last).toNat = last := by
    rw [UInt8.toNat_ofNat']
    omega
  apply piecesFrom_of_char
  unfold step first
  simp only [hbyte]
  rw [if_pos hlast]

theorem piecesFrom_two (hlow : 2 ≤ lead) (hhigh : lead < 0x20) (hlast : last < 0x40) :
    piecesFrom .idle (UInt8.ofNat (lead + 0xc0) :: UInt8.ofNat (last + 0x80) :: rest) =
      some (Char.ofNat (lead * 0x40 + last)) :: piecesFrom .idle rest := by
  rw [piecesFrom_of_pending (step_firstOfTwo hlow hhigh), piecesFrom_last hlast]

/-- Three bytes make a character if two would not do and the character is no surrogate. -/
theorem piecesFrom_three (hlead : lead < 0x10) (hsecond : second < 0x40) (hlast : last < 0x40)
    (hlong : lead = 0 → 0x20 ≤ second) (hsurrogate : lead = 0xd → second < 0x20) :
    piecesFrom .idle (UInt8.ofNat (lead + 0xe0) :: UInt8.ofNat (second + 0x80) ::
        UInt8.ofNat (last + 0x80) :: rest) =
      some (Char.ofNat ((lead * 0x40 + second) * 0x40 + last)) :: piecesFrom .idle rest := by
  have hlow : (if lead = 0 then 0xa0 else 0x80 : UInt8).toNat ≤ second + 0x80 := by
    split
    · rename_i hzero
      exact Nat.add_le_add_right (hlong hzero) 0x80
    · exact (allowed hsecond).1
  have hhigh : second + 0x80 ≤ (if lead = 0xd then 0x9f else 0xbf : UInt8).toNat := by
    split
    · rename_i hbefore
      exact Nat.le_of_lt_succ (Nat.add_lt_add_right (hsurrogate hbefore) 0x80)
    · exact (allowed hsecond).2
  rw [piecesFrom_of_pending (step_firstOfThree hlead), piecesFrom_more hsecond hlow hhigh,
    piecesFrom_last hlast]

/-- Four bytes make a character if three would not do and there is such a character. -/
theorem piecesFrom_four (hlead : lead < 5) (hsecond : second < 0x40) (hthird : third < 0x40)
    (hlast : last < 0x40) (hlong : lead = 0 → 0x10 ≤ second) (hend : lead = 4 → second < 0x10) :
    piecesFrom .idle (UInt8.ofNat (lead + 0xf0) :: UInt8.ofNat (second + 0x80) ::
        UInt8.ofNat (third + 0x80) :: UInt8.ofNat (last + 0x80) :: rest) =
      some (Char.ofNat (((lead * 0x40 + second) * 0x40 + third) * 0x40 + last)) ::
        piecesFrom .idle rest := by
  have hlow : (if lead = 0 then 0x90 else 0x80 : UInt8).toNat ≤ second + 0x80 := by
    split
    · rename_i hzero
      exact Nat.add_le_add_right (hlong hzero) 0x80
    · exact (allowed hsecond).1
  have hhigh : second + 0x80 ≤ (if lead = 4 then 0x8f else 0xbf : UInt8).toNat := by
    split
    · rename_i hfour
      exact Nat.le_of_lt_succ (Nat.add_lt_add_right (hend hfour) 0x80)
    · exact (allowed hsecond).2
  rw [piecesFrom_of_pending (step_firstOfFour hlead), piecesFrom_more hsecond hlow hhigh,
    piecesFrom_more hthird (allowed hthird).1 (allowed hthird).2, piecesFrom_last hlast]

/-- The bytes of a character are read as this character. -/
theorem piecesFrom_encode (c : Char) :
    piecesFrom .idle (String.utf8EncodeChar c ++ rest) = some c :: piecesFrom .idle rest := by
  have hval : c.val.toNat = c.toNat := rfl
  have hvalid : c.toNat < 0xd800 ∨ 0xdfff < c.toNat ∧ c.toNat < 0x110000 := c.valid
  have hchar : ∀ n, n = c.toNat → Char.ofNat n = c := by
    rintro n rfl
    exact Char.ofNat_toNat c
  have hbits : ∀ n, n % 0x40 < 0x40 := fun n => Nat.mod_lt n (by decide)
  unfold String.utf8EncodeChar
  simp only [hval]
  by_cases hone : c.toNat ≤ 0x7f
  · rw [if_pos hone, List.singleton_append, piecesFrom_one rest (by omega), Char.ofNat_toNat]
  rw [if_neg hone]
  by_cases htwo : c.toNat ≤ 0x7ff
  · rw [if_pos htwo]
    simp only [List.cons_append, List.nil_append]
    rw [piecesFrom_two rest (by omega) (by omega) (hbits _), hchar _ (by omega)]
  rw [if_neg htwo]
  by_cases hthree : c.toNat ≤ 0xffff
  · rw [if_pos hthree]
    simp only [List.cons_append, List.nil_append]
    rw [piecesFrom_three rest (by omega) (hbits _) (hbits _) (by omega) (by omega),
      hchar _ (by omega)]
  · rw [if_neg hthree]
    simp only [List.cons_append, List.nil_append]
    rw [piecesFrom_four rest (by omega) (hbits _) (hbits _) (hbits _) (by omega) (by omega),
      hchar _ (by omega)]

end character

/-- The bytes of characters are read as these characters. -/
theorem pieces_encode (chars : List Char) :
    pieces (chars.flatMap String.utf8EncodeChar) = chars.map some := by
  induction chars with
  | nil => rfl
  | cons c rest ih =>
    rw [pieces] at ih
    rw [pieces, List.flatMap_cons, piecesFrom_encode, ih, List.map_cons]

end Utf8

/-- Every text is read back from its bytes. -/
theorem ofBytes?_toBytes (text : String) : ofBytes? (toBytes text) = some text := by
  have hread : (text.toList.map some).mapM id = some text.toList := by
    rw [List.mapM_map]
    exact (List.mapM_pure (f := id)).trans (congrArg some (List.map_id text.toList))
  rw [ofBytes?, Utf8.toBytes_eq, Utf8.pieces_encode, hread, Option.map_some, String.ofList_toList]

end ResourceFeed.Text
