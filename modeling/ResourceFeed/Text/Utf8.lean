/-! # Text as bytes

    A body arrives as bytes and is read as UTF-8.  The reader walks the bytes
    once and reports, from left to right, each character and each *fault*: a
    longest run of bytes that begins some character and continues it no
    further.  A strict reading refuses every fault, a lenient one writes the
    replacement character for it, so a stray byte gives one replacement and an
    encoded surrogate gives three.
-/

namespace ResourceFeed.Text

/-- The bytes of a message body. -/
abbrev Bytes := List UInt8

/-- The bytes of a text. -/
def toBytes (text : String) : Bytes :=
  text.toUTF8.toList

namespace Utf8

/-- What a reader has seen of the character it is in the middle of. -/
inductive Pending where
  /-- Between two characters. -/
  | idle
  /-- `missing` bytes are still due, the next of them from `low` to `high`;
      `value` holds the bits seen so far. -/
  | within (missing : Nat) (value : Nat) (low high : UInt8)

/-- A character, or `none` for a fault. -/
abbrev Piece := Option Char

/-- A byte where a character begins. -/
def first (byte : UInt8) : List Piece × Pending :=
  let b := byte.toNat
  if b < 0x80 then ([some (Char.ofNat b)], .idle)
  else if b < 0xc2 then ([none], .idle)
  else if b < 0xe0 then ([], .within 1 (b % 0x20) 0x80 0xbf)
  else if b < 0xf0 then
    ([], .within 2 (b % 0x10) (if b == 0xe0 then 0xa0 else 0x80) (if b == 0xed then 0x9f else 0xbf))
  else if b < 0xf5 then
    ([], .within 3 (b % 0x08) (if b == 0xf0 then 0x90 else 0x80) (if b == 0xf4 then 0x8f else 0xbf))
  else ([none], .idle)

/-- One byte after what is pending.  A byte that does not continue the pending
    character ends it as a fault and is read again where a character begins. -/
def step (pending : Pending) (byte : UInt8) : List Piece × Pending :=
  match pending with
  | .idle => first byte
  | .within missing value low high =>
    if low ≤ byte && byte ≤ high then
      let value := value * 0x40 + byte.toNat % 0x40
      if missing ≤ 1 then ([some (Char.ofNat value)], .idle)
      else ([], .within (missing - 1) value 0x80 0xbf)
    else
      let (pieces, pending) := first byte
      (none :: pieces, pending)

/-- The pieces of the bytes that follow what is pending. -/
def piecesFrom (pending : Pending) : Bytes → List Piece
  | [] =>
    match pending with
    | .idle => []
    | .within .. => [none]
  | byte :: rest =>
    let (pieces, pending) := step pending byte
    pieces ++ piecesFrom pending rest

/-- The characters and faults of a body, in order. -/
def pieces (bytes : Bytes) : List Piece :=
  piecesFrom .idle bytes

end Utf8

/-- The text of a body without faults. -/
def ofBytes? (bytes : Bytes) : Option String :=
  ((Utf8.pieces bytes).mapM id).map String.ofList

/-- The text of any body: each fault becomes the replacement character. -/
def ofBytesLossy (bytes : Bytes) : String :=
  String.ofList ((Utf8.pieces bytes).map fun piece => piece.getD '\ufffd')

/-! ## Laws -/

/-- The bytes of characters below 128, one for each. -/
def asciiBytes (text : String) : Bytes :=
  text.toList.map fun c => UInt8.ofNat c.toNat

theorem pieces_ascii {chars : List Char} (h : ∀ c ∈ chars, c.toNat < 0x80) :
    Utf8.pieces (chars.map fun c => UInt8.ofNat c.toNat) = chars.map some := by
  induction chars with
  | nil => rfl
  | cons c rest ih =>
    have hc := h c List.mem_cons_self
    have hbyte : (UInt8.ofNat c.toNat).toNat = c.toNat := by
      rw [UInt8.toNat_ofNat']
      omega
    have hfirst : Utf8.first (UInt8.ofNat c.toNat) = ([some c], .idle) := by
      unfold Utf8.first
      simp only [hbyte]
      rw [if_pos hc, Char.ofNat_toNat]
    have hrest := ih fun other hother => h other (List.mem_cons_of_mem _ hother)
    unfold Utf8.pieces at hrest
    show (Utf8.first (UInt8.ofNat c.toNat)).1
      ++ Utf8.piecesFrom (Utf8.first (UInt8.ofNat c.toNat)).2 _ = _
    rw [hfirst, hrest, List.map_cons, List.singleton_append]

/-- A text of characters below 128 is read back from its bytes. -/
theorem ofBytes?_asciiBytes {text : String} (h : text.toList.all fun c => c.toNat < 0x80) :
    ofBytes? (asciiBytes text) = some text := by
  have hread : ∀ chars : List Char, (chars.map some).mapM id = some chars := by
    intro chars
    induction chars with
    | nil => rfl
    | cons c rest ih =>
      rw [List.map_cons, List.mapM_cons, ih]
      rfl
  have hchars : ∀ c ∈ text.toList, c.toNat < 0x80 := by
    intro c hc
    exact of_decide_eq_true (List.all_eq_true.mp h c hc)
  unfold ofBytes? asciiBytes
  rw [pieces_ascii hchars, hread, Option.map_some, String.ofList_toList]

end ResourceFeed.Text
