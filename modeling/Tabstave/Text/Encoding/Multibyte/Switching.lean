import Tabstave.Text.Encoding.Multibyte.Chinese
import Tabstave.Text.Encoding.Multibyte.Japanese
import Tabstave.Text.Encoding.Multibyte.Korean

/-!
# Encodings that switch between character sets

Here all bytes are below 128, and an escape sequence says which character set the following bytes
are in. Up to three sets are kept ready: one is in use, one is taken instead after a shift, and one
is taken for a single character. A sequence that begins with the escape but designates nothing is
passed on as it is, up to the letter that ends it.
-/

namespace Tabstave.Text.Multibyte

open Charset

/-- The sets that a sequence can designate. -/
inductive Designated
  | ascii
  /-- ASCII with a yen sign and an overline. -/
  | roman
  /-- Katakana of half the width. -/
  | katakana
  | westEuropean
  | greek
  | japaneseOld
  | japanese
  | japaneseSupplement
  | korean
  | chinese
  /-- The first plane of the extended characters, in an edition. -/
  | extended (edition : Edition)
  | secondPlane
  deriving DecidableEq, Repr

/-- What an encoding of this family admits. -/
structure Switching where
  /-- The sets that can be designated besides ASCII. -/
  sets : List Designated
  /-- Whether the bytes 14 and 15 shift to another set and back. -/
  shifts : Bool := false
  /-- Whether a set can be designated for single characters. -/
  singles : Bool := false
  /-- Whether a sequence may begin with a mark of the revised set. -/
  revision : Bool := true
  deriving DecidableEq, Repr

/-- The sets that are ready, and what the next byte belongs to. -/
structure SwitchState where
  main : Designated := .ascii
  shifted : Designated := .ascii
  single : Designated := .ascii
  isShifted : Bool := false
  /-- Whether bytes are passed on up to the end of a sequence that designates nothing. -/
  passing : Bool := false
  deriving DecidableEq, Repr

/-- The set that the last byte of a sequence designates, for sets of one byte and of two. -/
def designatedBy? (double : Bool) (last : Nat) : Option Designated :=
  match double, Char.ofNat last with
  | false, 'B' => some .ascii
  | false, 'J' => some .roman
  | false, 'I' => some .katakana
  | false, 'A' => some .westEuropean
  | false, 'F' => some .greek
  | true, '@' => some .japaneseOld
  | true, 'B' => some .japanese
  | true, 'D' => some .japaneseSupplement
  | true, 'C' => some .korean
  | true, 'A' => some .chinese
  | true, 'O' => some (.extended .first)
  | true, 'Q' => some (.extended .second)
  | true, 'P' => some .secondPlane
  | _, _ => none

/-- Whether a byte ends a sequence. -/
def endsSequence (byte : Nat) : Bool :=
  (0x41 ≤ byte && byte ≤ 0x5a) || byte = 0x40

/-- The length of a sequence, counted with the escape, given the bytes from the place `i` on; `none`
if they break off, and zero if no end is near. -/
def sequenceLength? (revision : Bool) (fuel i : Nat) (bytes : List UInt8) : Option Nat :=
  match fuel with
  | 0 => some 0
  | fuel + 1 =>
    if 16 ≤ i then some 0
    else
      match bytes with
      | [] => none
      | byte :: rest =>
        if endsSequence byte.toNat then some (i + 1)
        else if revision && byte = 0x26 && rest.head? = some 0x40 then
          sequenceLength? revision fuel (i + 3) (rest.drop 2)
        else sequenceLength? revision fuel (i + 1) rest

/-- Where a designated set is put. -/
inductive Slot
  | main
  | shifted
  | single
  deriving DecidableEq, Repr

/-- Make a set ready. -/
def SwitchState.put (state : SwitchState) (slot : Slot) (set : Designated) : SwitchState :=
  match slot with
  | .main => { state with main := set }
  | .shifted => { state with shifted := set }
  | .single => { state with single := set }

/-- The slot and the set of a sequence, given the bytes after the escape. -/
def designation? (switching : Switching) (length : Nat) (bytes : List UInt8) :
    Option (Slot × Designated) := do
  let (slot, double, last) ←
    match length, bytes.map (Char.ofNat ·.toNat) with
    | 3, '$' :: c :: _ => some (Slot.main, true, c)
    | 3, '(' :: c :: _ => some (Slot.main, false, c)
    | 3, ')' :: c :: _ => some (Slot.shifted, false, c)
    | 3, '.' :: c :: _ => if switching.singles then some (Slot.single, false, c) else none
    | 4, '$' :: '(' :: c :: _ => some (Slot.main, true, c)
    | 4, '$' :: ')' :: c :: _ => some (Slot.shifted, true, c)
    | 6, _ :: _ :: '\x1b' :: '$' :: 'B' :: _ =>
      if switching.revision then some (Slot.main, true, 'B') else none
    | _, _ => none
  let set ← designatedBy? double last.toNat
  guard (set == .ascii || switching.sets.contains set)
  return (slot, set)

/-- Read an escape sequence that may designate a set. -/
def readDesignation (switching : Switching) (state : SwitchState) (rest : List UInt8) :
    Step SwitchState :=
  match sequenceLength? switching.revision 16 1 rest with
  | none => .incomplete
  | some 0 => .illegal 1
  | some length =>
    match designation? switching length rest with
    | some (slot, set) => .read length [] (state.put slot set)
    | none => .illegal length

/-- The character of a byte in the Greek set, where the set has one. -/
def greekChar? (byte : Nat) : Option Char :=
  if [0xa4, 0xa5, 0xaa, 0xae, 0xd2, 0xff].contains byte then none
  else if byte = 0xa1 then some '‘'
  else if byte = 0xa2 then some '’'
  else if byte = 0xaf then some '―'
  else if byte < 0xb4 || [0xb7, 0xbb, 0xbd].contains byte then some (Char.ofNat byte)
  else some (Char.ofNat (byte + 0x2d0))

/-- Read a single character from the set that is ready for it, given the bytes after the escape. -/
def readSingle (state : SwitchState) (rest : List UInt8) : Step SwitchState :=
  match rest with
  | _ :: byte :: _ =>
    let byte := byte.toNat
    let c := match state.single with
      | .westEuropean => if byte < 0x80 then some (Char.ofNat (byte + 0x80)) else none
      | .greek => greekChar? (flip byte)
      | _ => if byte < 0x80 then some (Char.ofNat byte) else none
    match c with
    | some c => .read 3 [c] state
    | none => .illegal 3
  | _ => .incomplete

/-- How many bytes a character of a set takes. -/
def Designated.width : Designated → Nat
  | .ascii | .roman | .katakana | .westEuropean | .greek => 1
  | _ => 2

/-- The text of one or two bytes in a set. -/
def Designated.text? (set : Designated) (first second : Nat) : Option (List Char) :=
  match set with
  | .ascii => some [Char.ofNat first]
  | .roman => some [romanChar first]
  | .katakana => (halfKatakana? (first + 0x80)).map ([·])
  | .westEuropean | .greek => none
  | .japaneseOld | .japanese => (japaneseBasic.find? first second).map ([·])
  | .japaneseSupplement => (Charset.japaneseSupplement.find? first second).map ([·])
  | .korean => (Charset.korean.find? first second).map ([·])
  | .chinese => (chineseSimplified.find? first second).map ([·])
  | .extended edition => firstPlane? edition first second
  | .secondPlane => (japaneseSecondPlane.find? first second).map ([·])

/-- Read a character in the set that is in use. -/
def readInSet (state : SwitchState) (set : Designated) (first : Nat) (rest : List UInt8) :
    Step SwitchState :=
  let text (second : Nat) : Step SwitchState :=
    match set.text? first second with
    | some text => .read set.width text state
    | none => .illegal set.width
  if set.width = 1 then text 0
  else
    match rest with
    | second :: _ => text second.toNat
    | [] => .incomplete

/-- The decoder of an encoding that switches between sets. -/
def switchingDecoder (switching : Switching) : Decoder SwitchState
  | state, first, rest =>
    let same (state : SwitchState) : Step SwitchState := .read 1 [Char.ofNat first] state
    if state.passing then same { state with passing := !endsSequence first }
    else if first = 0x1b then
      match rest with
      | [] => .incomplete
      | second :: _ =>
        if [0x28, 0x29, 0x24, 0x2e, 0x26].contains second.toNat then
          readDesignation switching state rest
        else if switching.singles && second = 0x4e then readSingle state rest
        else same { state with passing := true }
    else if first = 0x0f && switching.shifts then .read 1 [] { state with isShifted := false }
    else if first = 0x0e && switching.shifts then .read 1 [] { state with isShifted := true }
    else if first = 0x0a then same { state with isShifted := false }
    else if first < 0x20 then same state
    else if 0x80 ≤ first then .illegal 1
    else
      let set := if state.isShifted then state.shifted else state.main
      if set == .ascii then same state else readInSet state set first rest

/-- Korean in seven bits. -/
def switchingKorean : Switching :=
  { sets := [.korean], shifts := true, revision := false }

/-- Japanese in seven bits. -/
def switchingJapanese : Switching :=
  { sets := [.japanese, .roman, .japaneseOld] }

/-- Japanese in seven bits, with the supplement. -/
def switchingSupplement : Switching :=
  { sets := [.japanese, .japaneseSupplement, .roman, .japaneseOld] }

/-- Japanese in seven bits, with the sets of other languages. -/
def switchingLanguages : Switching :=
  { sets := [.japanese, .japaneseSupplement, .korean, .chinese, .roman, .japaneseOld, .westEuropean,
      .greek], singles := true }

/-- Japanese in seven bits, with the extended characters in an edition. -/
def switchingExtended (edition : Edition) : Switching :=
  { sets := [.japanese, .extended edition, .secondPlane] }

/-- Japanese in seven bits, with the supplement and katakana of half the width. -/
def switchingKatakana : Switching :=
  { sets := [.japanese, .japaneseSupplement, .roman, .katakana, .japaneseOld] }

end Tabstave.Text.Multibyte
