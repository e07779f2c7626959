import Tabstave.Text.Utf8

/-!
# Encodings in units of two and four bytes

The bytes of a unit come in one of two orders. In units of two bytes, characters beyond the first
65536 are written as a pair of surrogates; in units of four bytes each unit is a character.
-/

namespace Tabstave.Text.Wide

/-- The order of the bytes of a unit. -/
inductive ByteOrder
  | little
  | big
  deriving DecidableEq, Repr

/-- The ending of the name of an encoding with a fixed order. -/
def ByteOrder.suffix : ByteOrder → String
  | .little => "-le"
  | .big => "-be"

/-- The number that two bytes make. -/
def unit16 (order : ByteOrder) (a b : UInt8) : Nat :=
  match order with
  | .little => a.toNat + b.toNat * 0x100
  | .big => a.toNat * 0x100 + b.toNat

/-- The number that four bytes make. -/
def unit32 (order : ByteOrder) (a b c d : UInt8) : Nat :=
  match order with
  | .little => unit16 order a b + unit16 order c d * 0x10000
  | .big => unit16 order a b * 0x10000 + unit16 order c d

/-- Put a character in front of what is decoded. -/
def prepend (code : Nat) (rest : Except Flaw (List Char)) : Except Flaw (List Char) :=
  rest.map (Char.ofNat code :: ·)

/-- Decode units of two bytes from a position on. -/
def decode16 (order : ByteOrder) (position : Nat) : List UInt8 → Except Flaw (List Char)
  | [] => .ok []
  | [_] => .error ⟨position, position + 1, "truncated data"⟩
  | a :: b :: rest =>
    let unit := unit16 order a b
    if unit < 0xd800 || 0xe000 ≤ unit then prepend unit (decode16 order (position + 2) rest)
    else if 0xdc00 ≤ unit then .error ⟨position, position + 2, "illegal encoding"⟩
    else
      match rest with
      | c :: d :: rest =>
        let low := unit16 order c d
        if 0xdc00 ≤ low && low < 0xe000 then
          prepend (0x10000 + (unit - 0xd800) * 0x400 + (low - 0xdc00))
            (decode16 order (position + 4) rest)
        else .error ⟨position, position + 2, "illegal UTF-16 surrogate"⟩
      | rest => .error ⟨position, position + 2 + rest.length, "unexpected end of data"⟩

/-- Decode units of four bytes from a position on. -/
def decode32 (order : ByteOrder) (position : Nat) : List UInt8 → Except Flaw (List Char)
  | [] => .ok []
  | a :: b :: c :: d :: rest =>
    let unit := unit32 order a b c d
    if 0xd800 ≤ unit && unit < 0xe000 then
      .error ⟨position, position + 4, "code point in surrogate code point range(0xd800, 0xe000)"⟩
    else if 0x110000 ≤ unit then
      .error ⟨position, position + 4, "code point not in range(0x110000)"⟩
    else prepend unit (decode32 order (position + 4) rest)
  | rest => .error ⟨position, position + rest.length, "truncated data"⟩

/-- The order that a byte order mark of two bytes shows. -/
def mark16? : List UInt8 → Option ByteOrder
  | 0xff :: 0xfe :: _ => some .little
  | 0xfe :: 0xff :: _ => some .big
  | _ => none

/-- The order that a byte order mark of four bytes shows. -/
def mark32? : List UInt8 → Option ByteOrder
  | 0xff :: 0xfe :: 0 :: 0 :: _ => some .little
  | 0 :: 0 :: 0xfe :: 0xff :: _ => some .big
  | _ => none

end Tabstave.Text.Wide
