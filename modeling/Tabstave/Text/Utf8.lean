/-!
# UTF-8

A text is a sequence of characters, and each character has a code point. The code points from 0xd800
to 0xdfff are those of halves of surrogate pairs, which are no characters, so not all code points
are those of a text (`characters?`).

A character takes one to four bytes. `Utf8.encode` writes a text, and `Utf8.decode` reads one or
says which bytes are wrong: a byte that starts no character, a byte that does not go on with the
character before it, or an end in the middle of a character. `decodeFrom` reads a piece of a longer
run of bytes and leaves an unfinished character at its end to the next piece.
-/

namespace Tabstave.Text

/-- Bytes that mean nothing, from `start` up to `stop`, and why. -/
structure Flaw where
  start : Nat
  stop : Nat
  reason : String
  deriving DecidableEq, Repr

/-- The character with a code point, if it is that of a character. -/
def character? (code : Nat) : Option Char :=
  if code.isValidChar then some (Char.ofNat code) else none

/-- The text with these code points, if all of them are those of characters. -/
def characters? (codes : List Nat) : Option (List Char) :=
  codes.mapM character?

/-- The code points of a text. -/
def codes (text : List Char) : List Nat :=
  text.map Char.toNat

namespace Utf8

/-- The first halves of surrogate pairs among code points. There are no bytes for them. -/
def halvesFlaw (codes : List Nat) : Flaw :=
  let isCharacter (code : Nat) : Bool := (character? code).isSome
  let start := (codes.takeWhile isCharacter).length
  let count := ((codes.drop start).takeWhile (!isCharacter ·)).length
  ⟨start, start + count, "surrogates not allowed"⟩

/-- The bytes of a character. -/
def encodeChar (c : Char) : List UInt8 :=
  let code := c.toNat
  let tail (unit : Nat) : UInt8 := .ofNat (0x80 + code / unit % 0x40)
  if code < 0x80 then [.ofNat code]
  else if code < 0x800 then [.ofNat (0xc0 + code / 0x40), tail 1]
  else if code < 0x10000 then [.ofNat (0xe0 + code / 0x1000), tail 0x40, tail 1]
  else [.ofNat (0xf0 + code / 0x40000), tail 0x1000, tail 0x40, tail 1]

/-- The bytes of a text. -/
def encode (text : List Char) : List UInt8 :=
  text.flatMap encodeChar

/-- A character that has begun: where it starts, how many bytes are missing, its code as far as it
is known, and the bounds of the next byte. -/
structure Pending where
  start : Nat
  missing : Nat
  code : Nat
  low : Nat
  high : Nat
  deriving DecidableEq, Repr

/-- The character that a byte above ASCII begins, if it begins one. The bounds exclude longer forms
than needed, halves of surrogate pairs, and codes that are too large. -/
def pending? (start byte : Nat) : Option Pending :=
  if byte < 0xc2 then none
  else if byte < 0xe0 then some ⟨start, 1, byte - 0xc0, 0x80, 0xbf⟩
  else if byte < 0xf0 then
    some ⟨start, 2, byte - 0xe0, if byte = 0xe0 then 0xa0 else 0x80, if byte = 0xed then 0x9f else 0xbf⟩
  else if byte < 0xf5 then
    some ⟨start, 3, byte - 0xf0, if byte = 0xf0 then 0x90 else 0x80, if byte = 0xf4 then 0x8f else 0xbf⟩
  else none

/-- A byte that may yet turn out to be half of a surrogate pair: the second byte of such a half, at
the end of a piece that others follow. -/
def isCutSurrogate (final : Bool) (character : Pending) (byte : Nat) (rest : List UInt8) : Bool :=
  !final && rest.isEmpty && character.high = 0x9f && 0xa0 ≤ byte && byte ≤ 0xbf

/-- Decode bytes from a position on, within a character or between two. The answer is the text and
the position up to which it goes, which falls short of the end only if more bytes follow. -/
def decodeFrom (final : Bool) (position : Nat) (character : Option Pending) :
    List UInt8 → Except Flaw (List Char × Nat)
  | [] =>
    match character with
    | none => .ok ([], position)
    | some character =>
      if final then .error ⟨character.start, position, "unexpected end of data"⟩
      else .ok ([], character.start)
  | byte :: rest =>
    match character with
    | none =>
      if byte.toNat < 0x80 then
        (decodeFrom final (position + 1) none rest).map fun (text, stop) ↦
          (Char.ofNat byte.toNat :: text, stop)
      else
        match pending? position byte.toNat with
        | none => .error ⟨position, position + 1, "invalid start byte"⟩
        | some character => decodeFrom final (position + 1) (some character) rest
    | some character =>
      if character.low ≤ byte.toNat && byte.toNat ≤ character.high then
        let code := character.code * 0x40 + (byte.toNat - 0x80)
        if character.missing ≤ 1 then
          (decodeFrom final (position + 1) none rest).map fun (text, stop) ↦
            (Char.ofNat code :: text, stop)
        else
          decodeFrom final (position + 1)
            (some ⟨character.start, character.missing - 1, code, 0x80, 0xbf⟩) rest
      else if isCutSurrogate final character byte.toNat rest then .ok ([], character.start)
      else .error ⟨character.start, position, "invalid continuation byte"⟩

/-- Decode bytes that are complete. -/
def decode (bytes : List UInt8) : Except Flaw (List Char) :=
  (decodeFrom true 0 none bytes).map Prod.fst

/-- The byte order mark. -/
def byteOrderMark : List UInt8 :=
  [0xef, 0xbb, 0xbf]

end Utf8

end Tabstave.Text
