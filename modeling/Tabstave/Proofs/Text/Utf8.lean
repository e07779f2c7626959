import Mathlib.Data.List.Basic
import Tabstave.Text.Encoding.Basic

/-!
# Decoding what was encoded

A text is a sequence of characters, and is got back from their code points (`textOf_eq_ok_iff`).

Each character takes the bytes that the standard library gives it (`encodeChar_eq`), so the bytes
that are valid UTF-8 are those of the texts (`isValidUTF8_iff`).

Decoding goes byte by byte: a byte below `0x80` is a character, another begins one, and those after
it go on with it. Put together along the bytes of a character these steps give the character back
(`decodeFrom_encodeChar`), and character by character the text (`decode_encode`). A byte order mark
in front is itself the bytes of a character, so what is left without it are the bytes of a text as
well (`exists_decode_utf8Mark`).
-/

namespace Tabstave.Text

/-! ### Characters and code points -/

theorem character?_toNat (c : Char) : character? c.toNat = some c := by
  have valid : c.toNat.isValidChar := c.valid
  rw [character?, if_pos valid, Char.ofNat_toNat]

/-- A text is got back from its code points. -/
theorem characters?_codes (text : List Char) : characters? (codes text) = some text := by
  induction text with
  | nil => rfl
  | cons c text ih =>
    rw [characters?, codes] at ih
    rw [characters?, codes, List.map_cons, List.mapM_cons, character?_toNat, ih]
    rfl

/-- Code points are those of a text only if the text is got back from them. -/
theorem eq_codes_of_characters? {points : List Nat} {text : List Char}
    (h : characters? points = some text) : points = codes text := by
  induction points generalizing text with
  | nil =>
    cases h
    rfl
  | cons code points ih =>
    rw [characters?, List.mapM_cons, Option.bind_eq_bind, Option.bind_eq_some_iff] at h
    obtain ⟨c, first, h⟩ := h
    rw [Option.bind_eq_bind, Option.bind_eq_some_iff] at h
    obtain ⟨rest, later, h⟩ := h
    cases h
    rw [character?] at first
    split_ifs at first with valid
    cases first
    have same : (Char.ofNat code).toNat = code := by
      rw [Char.ofNat, dif_pos valid]
      rfl
    rw [ih later, codes, codes, List.map_cons, same]

namespace Encoding

theorem textOf_codes (text : List Char) : textOf (codes text) = .ok text := by
  rw [textOf, characters?_codes]

/-- Code points are taken for the text whose code points they are. -/
theorem textOf_eq_ok_iff {points : List Nat} {text : List Char} :
    textOf points = .ok text ↔ points = codes text := by
  constructor
  · intro h
    rw [textOf] at h
    split at h <;> cases h
    next found => exact eq_codes_of_characters? found
  · rintro rfl
    exact textOf_codes text

end Encoding

namespace Utf8

/-! ### The bytes of a character -/

theorem toNat_lt (c : Char) : c.toNat < 0xd800 ∨ 0xdfff < c.toNat ∧ c.toNat < 0x110000 :=
  c.valid

/-- The bytes of a character are those of the standard library. -/
theorem encodeChar_eq (c : Char) : encodeChar c = String.utf8EncodeChar c := by
  have valid := toNat_lt c
  have code : c.val.toNat = c.toNat := rfl
  simp only [encodeChar, String.utf8EncodeChar, code, Nat.div_one, Nat.add_comm]
  by_cases one : c.toNat < 0x80
  · rw [if_pos one, if_pos (by omega)]
  by_cases two : c.toNat < 0x800
  · have lead : c.toNat / 0x40 % 0x20 = c.toNat / 0x40 := Nat.mod_eq_of_lt (by omega)
    rw [if_neg one, if_pos two, if_neg (by omega), if_pos (by omega), lead]
  by_cases three : c.toNat < 0x10000
  · have lead : c.toNat / 0x1000 % 0x10 = c.toNat / 0x1000 := Nat.mod_eq_of_lt (by omega)
    rw [if_neg one, if_neg two, if_pos three, if_neg (by omega), if_neg (by omega),
      if_pos (by omega), lead]
  · have lead : c.toNat / 0x40000 % 8 = c.toNat / 0x40000 := Nat.mod_eq_of_lt (by omega)
    rw [if_neg one, if_neg two, if_neg three, if_neg (by omega), if_neg (by omega),
      if_neg (by omega), lead]

theorem toByteArray_encode (text : List Char) : (encode text).toByteArray = text.utf8Encode := by
  rw [encode, funext encodeChar_eq]
  rfl

/-- The bytes that are valid UTF-8 are those of the texts. -/
theorem isValidUTF8_iff {bytes : List UInt8} :
    bytes.toByteArray.IsValidUTF8 ↔ ∃ text, encode text = bytes := by
  constructor
  · rintro ⟨text, same⟩
    rw [← toByteArray_encode] at same
    have lists := congrArg (·.data.toList) same
    simp only [List.toList_data_toByteArray] at lists
    exact ⟨text, lists.symm⟩
  · rintro ⟨text, rfl⟩
    exact ⟨text, toByteArray_encode text⟩

theorem toNat_ofNat {n : Nat} (small : n < 0x100) : (UInt8.ofNat n).toNat = n := by
  rw [UInt8.toNat_ofNat', Nat.mod_eq_of_lt small]

/-! ### Steps of decoding -/

section Steps

variable {final : Bool} {position : Nat} {character : Pending} {n : Nat} {rest : List UInt8}

/-- The decoded rest with a character in front. -/
def consChar (c : Char) : List Char × Nat → List Char × Nat
  | (text, stop) => (c :: text, stop)

theorem decodeFrom_ascii (ascii : n < 0x80) :
    decodeFrom final position none (.ofNat n :: rest) =
      (decodeFrom final (position + 1) none rest).map (consChar (.ofNat n)) := by
  rw [decodeFrom]
  dsimp only
  rw [toNat_ofNat (by omega), if_pos ascii]
  rfl

theorem decodeFrom_lead (high : 0x80 ≤ n) (small : n < 0x100)
    (begins : pending? position n = some character) :
    decodeFrom final position none (.ofNat n :: rest) =
      decodeFrom final (position + 1) (some character) rest := by
  rw [decodeFrom]
  dsimp only
  rw [toNat_ofNat small, if_neg (by omega), begins]

theorem decodeFrom_middle (low : character.low ≤ 0x80 + n) (high : 0x80 + n ≤ character.high)
    (small : n < 0x40) (more : 1 < character.missing) :
    decodeFrom final position (some character) (.ofNat (0x80 + n) :: rest) =
      decodeFrom final (position + 1)
        (some ⟨character.start, character.missing - 1, character.code * 0x40 + n, 0x80, 0xbf⟩)
        rest := by
  rw [decodeFrom]
  dsimp only
  rw [toNat_ofNat (by omega), decide_eq_true low, decide_eq_true high, Bool.and_true, if_pos rfl,
    if_neg (by omega), Nat.add_sub_cancel_left]

theorem decodeFrom_last (low : character.low ≤ 0x80 + n) (high : 0x80 + n ≤ character.high)
    (small : n < 0x40) (one : character.missing = 1) :
    decodeFrom final position (some character) (.ofNat (0x80 + n) :: rest) =
      (decodeFrom final (position + 1) none rest).map
        (consChar (.ofNat (character.code * 0x40 + n))) := by
  rw [decodeFrom]
  dsimp only
  rw [toNat_ofNat (by omega), decide_eq_true low, decide_eq_true high, Bool.and_true, if_pos rfl,
    if_pos (Nat.le_of_eq one), Nat.add_sub_cancel_left]
  rfl

end Steps

/-! ### Decoding -/

theorem pending?_two {start n : Nat} (low : 2 ≤ n) (high : n < 0x20) :
    pending? start (0xc0 + n) = some ⟨start, 1, n, 0x80, 0xbf⟩ := by
  rw [pending?, if_neg (by omega), if_pos (by omega), Nat.add_sub_cancel_left]

theorem pending?_three {start n : Nat} (high : n < 0x10) :
    pending? start (0xe0 + n) =
      some ⟨start, 2, n, if n = 0 then 0xa0 else 0x80, if n = 0xd then 0x9f else 0xbf⟩ := by
  have lowest : 0xe0 + n = 0xe0 ↔ n = 0 := by omega
  have surrogate : 0xe0 + n = 0xed ↔ n = 0xd := by omega
  rw [pending?, if_neg (by omega), if_neg (by omega), if_pos (by omega), Nat.add_sub_cancel_left]
  simp only [lowest, surrogate]

theorem pending?_four {start n : Nat} (high : n < 5) :
    pending? start (0xf0 + n) =
      some ⟨start, 3, n, if n = 0 then 0x90 else 0x80, if n = 4 then 0x8f else 0xbf⟩ := by
  have lowest : 0xf0 + n = 0xf0 ↔ n = 0 := by omega
  have highest : 0xf0 + n = 0xf4 ↔ n = 4 := by omega
  rw [pending?, if_neg (by omega), if_neg (by omega), if_neg (by omega), if_pos (by omega),
    Nat.add_sub_cancel_left]
  simp only [lowest, highest]

/-- The bytes of a character are decoded to it. -/
theorem decodeFrom_encodeChar (final : Bool) (position : Nat) (c : Char) (rest : List UInt8) :
    decodeFrom final position none (encodeChar c ++ rest) =
      (decodeFrom final (position + (encodeChar c).length) none rest).map (consChar c) := by
  have valid := toNat_lt c
  simp only [encodeChar, Nat.div_one]
  -- The first byte has the highest bits of the code, and each of the others adds six.
  by_cases one : c.toNat < 0x80
  · rw [if_pos one, List.singleton_append, decodeFrom_ascii one, Char.ofNat_toNat]
    rfl
  by_cases two : c.toNat < 0x800
  · have sum : c.toNat / 0x40 * 0x40 + c.toNat % 0x40 = c.toNat := by omega
    rw [if_neg one, if_pos two, List.cons_append, List.singleton_append,
      decodeFrom_lead (by omega) (by omega) (pending?_two (by omega) (by omega)),
      decodeFrom_last (by dsimp only; omega) (by dsimp only; omega) (by omega) rfl, sum,
      Char.ofNat_toNat]
    rfl
  by_cases three : c.toNat < 0x10000
  · have sum : (c.toNat / 0x1000 * 0x40 + c.toNat / 0x40 % 0x40) * 0x40 + c.toNat % 0x40 =
        c.toNat := by omega
    rw [if_neg one, if_neg two, if_pos three, List.cons_append, List.cons_append,
      List.singleton_append, decodeFrom_lead (by omega) (by omega) (pending?_three (by omega)),
      decodeFrom_middle (by dsimp only; split_ifs <;> omega) (by dsimp only; split_ifs <;> omega)
        (by omega) (by dsimp only; omega),
      decodeFrom_last (by dsimp only; omega) (by dsimp only; omega) (by omega) rfl, sum,
      Char.ofNat_toNat]
    rfl
  · have sum : ((c.toNat / 0x40000 * 0x40 + c.toNat / 0x1000 % 0x40) * 0x40 +
        c.toNat / 0x40 % 0x40) * 0x40 + c.toNat % 0x40 = c.toNat := by omega
    rw [if_neg one, if_neg two, if_neg three, List.cons_append, List.cons_append,
      List.cons_append, List.singleton_append,
      decodeFrom_lead (by omega) (by omega) (pending?_four (by omega)),
      decodeFrom_middle (by dsimp only; split_ifs <;> omega) (by dsimp only; split_ifs <;> omega)
        (by omega) (by dsimp only; omega),
      decodeFrom_middle (by dsimp only; omega) (by dsimp only; omega) (by omega)
        (by dsimp only; omega),
      decodeFrom_last (by dsimp only; omega) (by dsimp only; omega) (by omega) rfl, sum,
      Char.ofNat_toNat]
    rfl

theorem encode_cons (c : Char) (text : List Char) :
    encode (c :: text) = encodeChar c ++ encode text :=
  List.flatMap_cons

theorem exists_decodeFrom_encode (position : Nat) (text : List Char) :
    ∃ stop, decodeFrom true position none (encode text) = .ok (text, stop) := by
  induction text generalizing position with
  | nil => exact ⟨position, rfl⟩
  | cons c text ih =>
    obtain ⟨stop, rest⟩ := ih (position + (encodeChar c).length)
    refine ⟨stop, ?_⟩
    rw [encode_cons, decodeFrom_encodeChar, rest]
    rfl

/-- **A text is read back from its bytes.** -/
theorem decode_encode (text : List Char) : decode (encode text) = .ok text := by
  obtain ⟨stop, decoded⟩ := exists_decodeFrom_encode 0 text
  rw [decode, decoded]
  rfl

/-- A text whose bytes begin with those of a character begins with the character. -/
theorem eq_cons_of_encode {text : List Char} {c : Char} {rest : List UInt8}
    (begins : encode text = encodeChar c ++ rest) :
    ∃ later, text = c :: later ∧ encode later = rest := by
  obtain ⟨stop, decoded⟩ := exists_decodeFrom_encode 0 text
  rw [begins, decodeFrom_encodeChar] at decoded
  cases later : decodeFrom true (0 + (encodeChar c).length) none rest with
  | error flaw => rw [later] at decoded; cases decoded
  | ok result =>
    rw [later] at decoded
    cases decoded
    exact ⟨result.1, rfl, List.append_cancel_left ((encode_cons c result.1).symm.trans begins)⟩

/-! ### Lengths -/

theorem length_encode_toList (s : String) : (encode s.toList).length = s.utf8ByteSize := by
  rw [← String.size_toByteArray, ← String.utf8Encode_toList, ← toByteArray_encode,
    List.size_toByteArray]

theorem length_le_length_encode (text : List Char) : text.length ≤ (encode text).length := by
  induction text with
  | nil => exact Nat.le_refl 0
  | cons c text ih =>
    have some_byte : 0 < (encodeChar c).length := by
      rw [encodeChar_eq, String.length_utf8EncodeChar]
      exact c.utf8Size_pos
    rw [encode_cons, List.length_append, List.length_cons]
    omega

/-- A text has at least as many bytes as characters. -/
theorem length_toList_le_utf8ByteSize (s : String) : s.toList.length ≤ s.utf8ByteSize :=
  length_encode_toList s ▸ length_le_length_encode s.toList

/-! ### The byte order mark -/

/-- Bytes without the byte order mark, if they begin with it. -/
def dropMark (bytes : List UInt8) : List UInt8 :=
  if byteOrderMark.isPrefixOf bytes then bytes.drop 3 else bytes

theorem encodeChar_mark : encodeChar '\ufeff' = byteOrderMark := by
  decide

/-- The bytes of a text do not break off within the mark. -/
theorem eq_nil_of_isPrefixOf_mark {text : List Char} (short : (encode text).length < 3)
    (cut : (encode text).isPrefixOf byteOrderMark = true) : encode text = [] := by
  have decoded := decode_encode text
  generalize encode text = bytes at short cut decoded ⊢
  rcases bytes with - | ⟨first, - | ⟨second, - | ⟨third, rest⟩⟩⟩
  · rfl
  · obtain rfl : first = 0xef := by simpa [byteOrderMark] using cut
    cases decoded
  · obtain ⟨rfl, rfl⟩ : first = 0xef ∧ second = 0xbb := by simpa [byteOrderMark] using cut
    cases decoded
  · exact absurd short (by rw [List.length_cons, List.length_cons, List.length_cons]; omega)

theorem decodeUtf8_encode (text : List Char) : Encoding.decodeUtf8 (encode text) = .ok text := by
  rw [Encoding.decodeUtf8, decode_encode]
  rfl

/-- A text is read without its mark, and nothing else is missing. -/
theorem exists_decodeUtf8Mark (text : List Char) :
    ∃ read, Encoding.decodeUtf8Mark (encode text) = .ok read ∧
      encode read = dropMark (encode text) := by
  rw [Encoding.decodeUtf8Mark, dropMark]
  by_cases cut : ((encode text).length < 3 && (encode text).isPrefixOf byteOrderMark) = true
  · have short := Bool.and_eq_true_iff.1 cut
    have nothing := eq_nil_of_isPrefixOf_mark (of_decide_eq_true short.1) short.2
    rw [if_pos cut, nothing]
    exact ⟨[], rfl, rfl⟩
  rw [if_neg cut]
  by_cases marked : byteOrderMark.isPrefixOf (encode text) = true
  · obtain ⟨rest, parts⟩ := List.isPrefixOf_iff_prefix.1 marked
    have begins : encode text = encodeChar '\ufeff' ++ rest := by rw [encodeChar_mark, parts]
    obtain ⟨later, -, rfl⟩ := eq_cons_of_encode begins
    have dropped : (encode text).drop 3 = encode later := by rw [← parts]; rfl
    rw [if_pos marked, if_pos marked, dropped, decodeUtf8_encode]
    exact ⟨later, rfl, rfl⟩
  · rw [if_neg marked, if_neg marked, decodeUtf8_encode]
    exact ⟨text, rfl, rfl⟩

theorem exists_decode_utf8Mark (text : List Char) :
    ∃ read, Encoding.utf8Mark.decode (encode text) = .ok (codes read) ∧
      encode read = dropMark (encode text) := by
  obtain ⟨read, decoded, rest⟩ := exists_decodeUtf8Mark text
  exact ⟨read, by rw [Encoding.decode, decoded]; rfl, rest⟩

/-! ### Line feeds -/

theorem le_toNat_ofNat {n : Nat} (high : 0x80 ≤ n) (small : n < 0x100) :
    0x80 ≤ (UInt8.ofNat n).toNat := by
  rwa [toNat_ofNat small]

/-- The bytes of a character above ASCII are above ASCII. -/
theorem le_toNat_of_mem_encodeChar {c : Char} (high : 0x80 ≤ c.toNat) :
    ∀ byte ∈ encodeChar c, 0x80 ≤ byte.toNat := by
  have valid := toNat_lt c
  simp only [encodeChar, Nat.div_one]
  rw [if_neg (by omega)]
  split_ifs <;> simp only [List.forall_mem_cons, List.not_mem_nil, false_implies, implies_true,
    and_true]
  · exact ⟨le_toNat_ofNat (by omega) (by omega), le_toNat_ofNat (by omega) (by omega)⟩
  · exact ⟨le_toNat_ofNat (by omega) (by omega), le_toNat_ofNat (by omega) (by omega),
      le_toNat_ofNat (by omega) (by omega)⟩
  · exact ⟨le_toNat_ofNat (by omega) (by omega), le_toNat_ofNat (by omega) (by omega),
      le_toNat_ofNat (by omega) (by omega), le_toNat_ofNat (by omega) (by omega)⟩

theorem count_encodeChar (c : Char) : (encodeChar c).count 0x0a = if c = '\n' then 1 else 0 := by
  by_cases ascii : c.toNat < 0x80
  · have feed : UInt8.ofNat c.toNat = 0x0a ↔ c = '\n' := by
      constructor
      · intro same
        have code := congrArg UInt8.toNat same
        rw [toNat_ofNat (by omega)] at code
        exact Char.toNat_inj.1 code
      · rintro rfl
        rfl
    rw [encodeChar, if_pos ascii, List.count_singleton]
    simp only [beq_iff_eq, feed]
  · have high := le_toNat_of_mem_encodeChar (Nat.le_of_not_lt ascii)
    have other : c ≠ '\n' := by
      rintro rfl
      exact ascii (by decide)
    rw [if_neg other, List.count_eq_zero]
    exact fun mem ↦ absurd (high _ mem) (by decide)

/-- The bytes of a text have a line feed for each of the text. -/
theorem count_encode (text : List Char) : (encode text).count 0x0a = text.count '\n' := by
  induction text with
  | nil => rfl
  | cons c text ih =>
    rw [encode_cons, List.count_append, count_encodeChar, ih, List.count_cons, Nat.add_comm]
    simp only [beq_iff_eq]

theorem count_dropMark (bytes : List UInt8) : (dropMark bytes).count 0x0a = bytes.count 0x0a := by
  rw [dropMark]
  split_ifs with marked
  · obtain ⟨rest, rfl⟩ := List.isPrefixOf_iff_prefix.1 marked
    rfl
  · rfl

end Utf8

end Tabstave.Text
