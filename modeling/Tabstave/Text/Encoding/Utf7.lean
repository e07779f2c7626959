import Tabstave.Text.Utf8

/-!
# UTF-7

Here all bytes are below 128. Most stand for themselves; a plus sign begins a stretch of base-64
digits, which hold units of sixteen bits. The stretch ends with the first other byte, and a minus
sign at its end is dropped. A plus sign itself is written with a minus sign after it.

A unit that is half of a surrogate pair waits for the other half. If that does not come, the half is
a code point by itself.
-/

namespace Tabstave.Text.Utf7

/-- The value of a base-64 digit. -/
def digit? (byte : UInt8) : Option Nat :=
  let n := byte.toNat
  if 0x41 ≤ n && n ≤ 0x5a then some (n - 0x41)
  else if 0x61 ≤ n && n ≤ 0x7a then some (n - 0x61 + 26)
  else if 0x30 ≤ n && n ≤ 0x39 then some (n - 0x30 + 52)
  else if n = 0x2b then some 62
  else if n = 0x2f then some 63
  else none

/-- A stretch of digits as far as it is read. -/
structure Stretch64 where
  /-- Where the plus sign stands. -/
  start : Nat
  /-- How many bits are left over, and the number that they make. -/
  bits : Nat := 0
  value : Nat := 0
  /-- The first half of a character beyond the first 65536. -/
  half : Option Nat := none
  deriving DecidableEq, Repr

/-- The code points of a unit of sixteen bits, and the half that waits for another unit. -/
def readUnit (half : Option Nat) (unit : Nat) : List Nat × Option Nat :=
  let isHigh := 0xd800 ≤ unit && unit < 0xdc00
  match half with
  | some high =>
    if 0xdc00 ≤ unit && unit < 0xe000 then
      ([0x10000 + (high - 0xd800) * 0x400 + (unit - 0xdc00)], none)
    else if isHigh then ([high], some unit)
    else ([high, unit], none)
  | none => if isHigh then ([], some unit) else ([unit], none)

/-- Read a digit: the code points that it completes, and the stretch with it. -/
def Stretch64.push (stretch : Stretch64) (digit : Nat) : List Nat × Stretch64 :=
  let bits := stretch.bits + 6
  let value := stretch.value * 64 + digit
  if 16 ≤ bits then
    let (codes, half) := readUnit stretch.half (value / Nat.pow 2 (bits - 16))
    (codes, { stretch with bits := bits - 16, value := value % Nat.pow 2 (bits - 16), half })
  else ([], { stretch with bits, value })

/-- What is wrong with the bits left over at the end of a stretch. -/
def Stretch64.flaw? (stretch : Stretch64) : Option String :=
  if 6 ≤ stretch.bits then some "partial character in shift sequence"
  else if stretch.bits > 0 && stretch.value ≠ 0 then
    some "non-zero padding bits in shift sequence"
  else none

/-- Decode bytes from a position on, within a stretch of digits or outside one. -/
def decodeFrom (position : Nat) (stretch : Option Stretch64) :
    List UInt8 → Except Flaw (List Nat)
  | [] =>
    match stretch with
    | some stretch =>
      if stretch.half.isSome || stretch.flaw?.isSome then
        .error ⟨stretch.start, position, "unterminated shift sequence"⟩
      else .ok []
    | none => .ok []
  | byte :: rest =>
    match stretch with
    | some stretch =>
      match digit? byte with
      | some digit =>
        let (codes, stretch) := stretch.push digit
        (decodeFrom (position + 1) (some stretch) rest).map (codes ++ ·)
      | none =>
        match stretch.flaw? with
        | some reason => .error ⟨stretch.start, position + 1, reason⟩
        | none =>
          let codes := if byte < 0x80 then stretch.half.toList else []
          if byte = 0x2d then (decodeFrom (position + 1) none rest).map (codes ++ ·)
          else if 0x80 ≤ byte then
            .error ⟨position, position + 1, "unexpected special character"⟩
          else
            (decodeFrom (position + 1) none rest).map fun after ↦ codes ++ byte.toNat :: after
    | none =>
      if byte = 0x2b then
        if rest.head? = some 0x2d then
          (decodeFrom (position + 2) none (rest.drop 1)).map (0x2b :: ·)
        else if rest.head?.any fun next ↦ (digit? next).isNone then
          .error ⟨position, position + 2, "ill-formed sequence"⟩
        else decodeFrom (position + 1) (some { start := position }) rest
      else if byte < 0x80 then
        (decodeFrom (position + 1) none rest).map (byte.toNat :: ·)
      else .error ⟨position, position + 1, "unexpected special character"⟩
termination_by bytes => bytes.length
decreasing_by all_goals simp only [List.length_drop, List.length_cons]; omega

/-- Decode bytes. -/
def decode (bytes : List UInt8) : Except Flaw (List Nat) :=
  decodeFrom 0 none bytes

end Tabstave.Text.Utf7
