import Tabstave.Text.Encoding.Charset.JapaneseBasic
import Tabstave.Text.Encoding.Charset.JapaneseExtended
import Tabstave.Text.Encoding.Charset.JapaneseSupplement
import Tabstave.Text.Encoding.Charset.JapaneseVendor
import Tabstave.Text.Encoding.Multibyte.Basic

/-!
# Japanese encodings

Two families write rows and cells as bytes. In the shifted encodings a row of 188 cells, two rows of
the character set, has one lead byte, and katakana of half the width take a single byte. In the
extended encodings a row and a cell are a byte each, with the top bit set; a leading byte switches
for one character to katakana or to a second set.
-/

namespace Tabstave.Text.Multibyte

open Charset

/-- The character of half the width that a byte from 161 to 223 stands for. -/
def halfKatakana? (byte : Nat) : Option Char :=
  if 0xa1 ≤ byte && byte ≤ 0xdf then some (Char.ofNat (0xfec0 + byte)) else none

/-- The row, counted from zero, and the cell of two bytes in a shifted encoding. -/
def unshift? (first second : Nat) : Option (Nat × Nat) :=
  if second < 0x40 || second = 0x7f || 0xfc < second then none
  else
    let row := if first < 0xe0 then first - 0x81 else first - 0xc1
    let cell := if second < 0x80 then second - 0x40 else second - 0x41
    if cell < 0x5e then some (2 * row, cell + 0x21) else some (2 * row + 1, cell - 0x5e + 0x21)

/-- Whether a byte is the first of two in a shifted encoding, up to the given last one. -/
def isShiftedLead (last byte : Nat) : Bool :=
  (0x81 ≤ byte && byte ≤ 0x9f) || (0xe0 ≤ byte && byte ≤ last)

/-- The shifted encoding of the basic characters. -/
def shiftedBasic : Plain
  | _, first, rest =>
    if first < 0x80 then .read 1 [Char.ofNat first] ()
    else
      match halfKatakana? first with
      | some c => .read 1 [c] ()
      | none =>
        if isShiftedLead 0xea first then
          match rest with
          | second :: _ =>
            Step.ofChar? 2 () do
              let (row, cell) ← unshift? first second.toNat
              japaneseBasic.find? (row + 0x21) cell
          | [] => .incomplete
        else .illegal 1

/-- The character of two bytes in code page 932. Some characters are for private use. -/
def vendorPair? (first second : Nat) : Option Char :=
  (japaneseVendor.find? first second).or <|
    if isShiftedLead 0xea first then do
      let (row, cell) ← unshift? first second
      japaneseBasic.find? (row + 0x21) cell
    else if 0xf0 ≤ first && first ≤ 0xf9 then do
      let (_, _) ← unshift? first second
      let cell := if second < 0x80 then second - 0x40 else second - 0x41
      return Char.ofNat (0xe000 + 188 * (first - 0xf0) + cell)
    else none

/-- Code page 932. -/
def shiftedVendor : Plain
  | _, first, rest =>
    if first ≤ 0x80 then .read 1 [Char.ofNat first] ()
    else if first = 0xa0 then .read 1 [Char.ofNat 0xf8f0] ()
    else if 0xfd ≤ first then .read 1 [Char.ofNat (0xf8f1 + (first - 0xfd))] ()
    else
      match halfKatakana? first, rest with
      | some c, _ => .read 1 [c] ()
      | none, second :: _ => Step.ofChar? 2 () (vendorPair? first second.toNat)
      | none, [] => .incomplete

/-- The editions of JIS X 0213. -/
inductive Edition
  | first
  | second
  deriving DecidableEq, Repr

/-- The cells of the first plane that are new in the second edition. -/
def newCells : List (Nat × Nat) :=
  [(0x2e, 0x21), (0x2f, 0x7e), (0x4f, 0x54), (0x4f, 0x7e), (0x74, 0x27), (0x7e, 0x7a), (0x7e, 0x7b),
    (0x7e, 0x7c), (0x7e, 0x7d), (0x7e, 0x7e)]

/-- Whether an edition leaves a cell of the first plane empty that another one fills. -/
def isNewCell (edition : Edition) (row cell : Nat) : Bool :=
  edition == .first && newCells.contains (row, cell)

/-- The text of a row and a cell of the first plane. -/
def firstPlane? (edition : Edition) (row cell : Nat) : Option (List Char) :=
  if isNewCell edition row cell then none
  else
    (((japaneseBasic.find? row cell).or (japaneseExtended.find? row cell)).map ([·])).or
      ((japanesePairs.find? fun (r, c, _) ↦ r = row && c = cell).map fun (_, _, text) ↦ text.toList)

/-- The character of a row and a cell of the second plane. -/
def secondPlane? (edition : Edition) (row cell : Nat) : Option Char :=
  if edition == .first && row = 0x7d && cell = 0x3b then some (Char.ofNat 0x9b1d)
  else japaneseSecondPlane.find? row cell

/-- The row of the second plane that a row beyond the first plane stands for. -/
def secondPlaneRow (row : Nat) : Nat :=
  if 0x67 ≤ row then row + 0x07
  else if 0x63 ≤ row || row = 0x5f then row - 0x37
  else row - 0x3d

/-- A byte below 128 where the yen sign and the overline stand for the backslash and the tilde. -/
def romanChar (byte : Nat) : Char :=
  if byte = 0x5c then '¥' else if byte = 0x7e then '‾' else Char.ofNat byte

/-- The text of two bytes in the shifted encoding of the extended characters. The backslash and the
tilde, whose places are taken, have their ordinary forms. -/
def shiftedExtendedPair? (edition : Edition) (first second : Nat) : Option (List Char) := do
  let (row, cell) ← unshift? first second
  if row = 0 && cell = 0x40 then return ['\\']
  else if row = 1 && cell = 0x32 then return ['~']
  else if row < 0x5e then firstPlane? edition (row + 0x21) cell
  else (secondPlane? edition (secondPlaneRow row) cell).map ([·])

/-- The shifted encoding of the extended characters. -/
def shiftedExtended (edition : Edition) : Plain
  | _, first, rest =>
    if first < 0x80 then .read 1 [romanChar first] ()
    else
      match halfKatakana? first with
      | some c => .read 1 [c] ()
      | none =>
        if isShiftedLead 0xfc first then
          match rest with
          | second :: _ =>
            let isNew := (unshift? first second.toNat).any fun (row, cell) ↦
              isNewCell edition (row + 0x21) cell
            if isNew then .illegal 2
            else Step.ofText? 2 () (shiftedExtendedPair? edition first second.toNat)
          | [] => .incomplete
        else .illegal 1

/-- A decoder of rows and cells in two bytes, of katakana after the byte 142 and of further
characters in two more bytes after the byte 143. Some cells are known to be left empty: `isEmpty`
says which. -/
def unixDecoder (isEmpty : Nat → Nat → Bool) (pair? : Nat → Nat → Option (List Char))
    (triple? : Nat → Nat → Option Char) : Plain
  | _, first, rest =>
    if first < 0x80 then .read 1 [Char.ofNat first] ()
    else if first = 0x8e then
      match rest with
      | second :: _ => Step.ofChar? 2 () (halfKatakana? second.toNat)
      | [] => .incomplete
    else if first = 0x8f then
      match rest with
      | second :: third :: _ =>
        Step.ofChar? 3 () (triple? (flip second.toNat) (flip third.toNat))
      | _ => .incomplete
    else
      match rest with
      | second :: _ =>
        let (row, cell) := (flip first, flip second.toNat)
        if isEmpty row cell then .illegal 2 else Step.ofText? 2 () (pair? row cell)
      | [] => .incomplete

/-- The extended encoding of the basic characters and their supplement. -/
def unixBasic : Plain :=
  unixDecoder (fun _ _ ↦ false) (fun row cell ↦ (japaneseBasic.find? row cell).map ([·]))
    japaneseSupplement.find?

/-- The extended encoding of the extended characters, which gives way to the supplement of the basic
ones. -/
def unixExtended (edition : Edition) : Plain :=
  unixDecoder (isNewCell edition)
    (fun row cell ↦
      if row = 0x22 && cell = 0x32 then some [Char.ofNat 0xff5e] else firstPlane? edition row cell)
    (fun row cell ↦ (secondPlane? edition row cell).or (japaneseSupplement.find? row cell))

end Tabstave.Text.Multibyte
