import Tabstave.Text.Encoding.Charset.Korean
import Tabstave.Text.Encoding.Charset.KoreanUnified
import Tabstave.Text.Encoding.Multibyte.Basic

/-!
# Korean encodings

A syllable is made of an initial, a vowel and perhaps a final. The common encodings have a code for
each of the syllables that they know; one can also spell a syllable out, and another puts the three
parts into two bytes.
-/

namespace Tabstave.Text.Multibyte

open Charset

/-- The syllable of an initial, a vowel and a final, where a final of zero is none. -/
def syllable (initial vowel final : Nat) : Char :=
  Char.ofNat (0xac00 + initial * 588 + vowel * 28 + final)

/-- The letters that can be an initial, by their places among all letters. -/
def initialLetters : List Nat :=
  [0, 1, 3, 6, 7, 8, 16, 17, 18, 20, 21, 22, 23, 24, 25, 26, 27, 28, 29]

/-- The letters that can be a final, by their places among all letters. -/
def finalLetters : List Nat :=
  [0, 1, 2, 3, 4, 5, 6, 8, 9, 10, 11, 12, 13, 14, 15, 16, 17, 19, 20, 21, 22, 23, 25, 26, 27, 28, 29]

/-- The syllable that three letters spell out, by their second bytes. -/
def spelled? (initial vowel final : Nat) : Option Char := do
  guard (0xa1 ≤ initial && 0xbf ≤ vowel && vowel ≤ 0xd3)
  let initial ← initialLetters.idxOf? (initial - 0xa1)
  if final = 0xd4 then return syllable initial (vowel - 0xbf) 0
  guard (0xa1 ≤ final)
  return syllable initial (vowel - 0xbf) ((← finalLetters.idxOf? (final - 0xa1)) + 1)

/-- Rows and cells in two bytes, with syllables spelled out after a sign for it. -/
def koreanUnix : Plain
  | _, first, rest =>
    if first < 0x80 then .read 1 [Char.ofNat first] ()
    else
      match rest with
      | [] => .incomplete
      | second :: rest =>
        if first = 0xa4 && second = 0xd4 then
          match rest with
          | a :: initial :: b :: vowel :: c :: final :: _ =>
            if a = 0xa4 && b = 0xa4 && c = 0xa4 then
              Step.ofChar? 8 () (spelled? initial.toNat vowel.toNat final.toNat)
            else .illegal 1
          | _ => .incomplete
        else Step.ofChar? 2 () (korean.find? (flip first) (flip second.toNat))

/-- Code page 949. -/
def koreanVendor : Plain :=
  pairs fun first second ↦
    (korean.find? (flip first) (flip second)).or (koreanUnified.find? first second)

/-- What five bits stand for: nothing, an empty place, or a letter. -/
inductive Part
  | empty
  | letter (index : Nat)
  deriving DecidableEq, Repr

/-- A part of a syllable, by the codes that stand for its letters in order. -/
def partOf? (empty : Nat) (codes : List Nat) (code : Nat) : Option Part :=
  if code = empty then some .empty else (codes.idxOf? code).map .letter

/-- The initial that five bits stand for. -/
def initialOf? : Nat → Option Part :=
  partOf? 1 (List.range' 2 19)

/-- The vowel that five bits stand for. -/
def vowelOf? : Nat → Option Part :=
  partOf? 2 (List.range' 3 5 ++ List.range' 10 6 ++ List.range' 18 6 ++ List.range' 26 4)

/-- The final that five bits stand for. -/
def finalOf? : Nat → Option Part :=
  partOf? 1 (List.range' 2 16 ++ List.range' 19 11)

/-- A letter by itself, by its place among all letters. -/
def letterAt (index : Nat) : Char :=
  Char.ofNat (0x3131 + index)

/-- The character of three parts: a syllable, a letter by itself, or a blank. -/
def assemble? : Part → Part → Part → Option Char
  | .letter i, .letter v, .empty => some (syllable i v 0)
  | .letter i, .letter v, .letter f => some (syllable i v (f + 1))
  | .letter i, .empty, .empty => initialLetters[i]?.map letterAt
  | .empty, .letter v, .empty => some (letterAt (30 + v))
  | .empty, .empty, .letter f => finalLetters[f]?.map letterAt
  | .empty, .empty, .empty => some (Char.ofNat 0x3000)
  | _, _, _ => none

/-- The character of two bytes that hold three parts of five bits. -/
def composed? (first second : Nat) : Option Char := do
  assemble? (← initialOf? (first / 4 % 32)) (← vowelOf? (first % 4 * 8 + second / 32))
    (← finalOf? (second % 32))

/-- The character of two bytes that is no syllable. -/
def symbol? (first second : Nat) : Option Char :=
  if first = 0xdf || 0xf9 < first || second < 0x31 || (0x80 ≤ second && second < 0x91) ||
      second % 0x80 = 0x7f || (first = 0xda && 0xa1 ≤ second && second ≤ 0xd3) then none
  else
    let row := if first < 0xe0 then 2 * (first - 0xd9) else 2 * first - 0x197
    let cell := if second < 0x91 then second - 0x31 else second - 0x43
    if first = 0xd8 then none
    else if cell < 0x5e then korean.find? (row + 0x21) (cell + 0x21)
    else korean.find? (row + 0x22) (cell - 0x5e + 0x21)

/-- The encoding that puts the parts of a syllable into two bytes. -/
def koreanComposed : Plain :=
  pairs fun first second ↦ if first < 0xd8 then composed? first second else symbol? first second

end Tabstave.Text.Multibyte
