import Tabstave.Text.Encoding.Charset.ChineseExtended
import Tabstave.Text.Encoding.Charset.ChineseSimplified
import Tabstave.Text.Encoding.Charset.ChineseTraditional
import Tabstave.Text.Encoding.Charset.HongKong
import Tabstave.Text.Encoding.Multibyte.Basic

/-!
# Chinese encodings

The encodings of simplified characters extend each other: first rows and cells, then further pairs
of bytes, then four bytes for every other character. Another one writes rows and cells within ASCII,
between marks. The encodings of traditional characters have sets of their own.
-/

namespace Tabstave.Text.Multibyte

open Charset

/-- Rows and cells of the simplified characters. -/
def simplified : Plain :=
  pairs fun first second ↦ chineseSimplified.find? (flip first) (flip second)

/-- The character of two bytes in the extended set. -/
def extendedPair? (first second : Nat) : Option Char :=
  (chineseExtended.find? first second).or (chineseSimplified.find? (flip first) (flip second))

/-- The extended set. -/
def extended : Plain :=
  pairs extendedPair?

/-- The character for private use of two bytes. -/
def privateUse? (first second : Nat) : Option Char :=
  if 0xaa ≤ first && first ≤ 0xaf && 0xa1 ≤ second && second ≤ 0xfe then
    some (Char.ofNat (0xe000 + 94 * (first - 0xaa) + (second - 0xa1)))
  else if 0xf8 ≤ first && first ≤ 0xfe && 0xa1 ≤ second && second ≤ 0xfe then
    some (Char.ofNat (0xe234 + 94 * (first - 0xf8) + (second - 0xa1)))
  else if 0xa1 ≤ first && first ≤ 0xa7 && 0x40 ≤ second && second ≤ 0xa0 && second ≠ 0x7f then
    let cell := if second < 0x7f then second - 0x40 else second - 0x41
    some (Char.ofNat (0xe4c6 + 96 * (first - 0xa1) + cell))
  else none

/-- The character that has a number among those below 65536 that are written with four bytes. -/
def runChar? (number : Nat) : Option Char :=
  if 39420 ≤ number then none
  else
    (chineseRuns.reverse.find? (·.1 ≤ number)).map fun (start, code) ↦
      Char.ofNat (code + (number - start))

/-- The character of four bytes. -/
def fourBytes? (a b c d : Nat) : Option Char :=
  if a < 0x81 || 0xfe < a || c < 0x81 || 0xfe < c || d < 0x30 || 0x39 < d then none
  else
    let number := (((a - 0x81) * 10 + (b - 0x30)) * 126 + (c - 0x81)) * 10 + (d - 0x30)
    if a < 0x85 then runChar? number
    else if a < 0x90 then none
    else
      let code := 0x10000 + (number - 15 * 12600)
      if code ≤ 0x10ffff then some (Char.ofNat code) else none

/-- The national standard, with four bytes for what has no pair of its own. -/
def national : Plain
  | _, first, rest =>
    if first < 0x80 then .read 1 [Char.ofNat first] ()
    else
      match rest with
      | [] => .incomplete
      | second :: rest =>
        if 0x30 ≤ second && second ≤ 0x39 then
          match rest with
          | third :: fourth :: _ =>
            Step.ofChar? 4 () (fourBytes? first second.toNat third.toNat fourth.toNat)
          | _ => .incomplete
        else
          Step.ofChar? 2 () <|
            ((extendedPair? first second.toNat).or (chineseNational.find? first second.toNat)).or
              (privateUse? first second.toNat)

/-- Rows and cells within ASCII, between a tilde with an opening brace and one with a closing brace.
The state says whether they are on. -/
def marked : Decoder Bool
  | on, first, rest =>
    if first = 0x7e then
      match rest with
      | [] => .incomplete
      | second :: _ =>
        if second = 0x7e && !on then .read 2 ['~'] on
        else if second = 0x7b && !on then .read 2 [] true
        else if second = 0x0a && !on then .read 2 [] on
        else if second = 0x7d && on then .read 2 [] false
        else .illegal 1
    else if 0x80 ≤ first then .illegal 1
    else if !on then .read 1 [Char.ofNat first] on
    else
      match rest with
      | second :: _ => Step.ofChar? 2 on (chineseSimplified.find? first second.toNat)
      | [] => .incomplete

/-- The traditional characters. -/
def traditional : Plain :=
  pairs chineseTraditional.find?

/-- Code page 950. -/
def traditionalVendor : Plain :=
  pairs fun first second ↦
    (chineseVendor.find? first second).or (chineseTraditional.find? first second)

/-- The letters with two marks that the set of Hong Kong has. -/
def markedLetters : List (Nat × Nat × List Char) :=
  [(0x88, 0x62, ['Ê', Char.ofNat 0x304]), (0x88, 0x64, ['Ê', Char.ofNat 0x30c]),
    (0x88, 0xa3, ['ê', Char.ofNat 0x304]), (0x88, 0xa5, ['ê', Char.ofNat 0x30c])]

/-- The text of two bytes in the set of Hong Kong, which replaces some rows. -/
def hongKongPair? (first second : Nat) : Option (List Char) :=
  let replaced := (first = 0xc6 && 0xa1 ≤ second) || first = 0xc7 || first = 0xc8
  let traditional := if replaced then none else chineseTraditional.find? first second
  ((traditional.or (hongKong.find? first second)).map ([·])).or
    ((markedLetters.find? fun (a, b, _) ↦ a = first && b = second).map fun (_, _, text) ↦ text)

/-- The traditional characters with those of Hong Kong. -/
def traditionalHongKong : Plain
  | _, first, rest =>
    if first < 0x80 then .read 1 [Char.ofNat first] ()
    else
      match rest with
      | second :: _ => Step.ofText? 2 () (hongKongPair? first second.toNat)
      | [] => .incomplete

end Tabstave.Text.Multibyte
