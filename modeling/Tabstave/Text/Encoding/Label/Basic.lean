import Tabstave.Text.Encoding.Punycode
import Tabstave.Text.Normal
import Tabstave.Text.Normal.Prepared

/-!
# Names of labels

A name consists of labels with points between them. A label in ASCII that begins with `xn--` stands
for another text, whose digits follow; that text must in turn be written as the label, once it is
prepared.
-/

namespace Tabstave.Text.Label

open Tabstave.Text.Normal

/-- Replace a character for the comparison of labels. -/
def replace (code : Nat) : List Nat :=
  if within dropped code then []
  else if code < 0x80 then [if 0x41 ≤ code && code ≤ 0x5a then code + 0x20 else code]
  else (findIn? replacedTable code).getD [code]

/-- The prepared form of a label. -/
def prepare (label : List Nat) : Except LabelFault (List Nat) := do
  let label := compose (decompose (label.flatMap replace))
  match label.find? (within prohibited) with
  | some code => throw (.prohibited code)
  | none => pure ()
  if label.any (within rightToLeft) then
    if label.any (within leftToRight) then throw .mixedDirections
    if !(label.head?.all (within rightToLeft) && label.getLast?.all (within rightToLeft)) then
      throw .wrongEnds
  return label

/-- What a label begins with that stands for another text. -/
def lead : List Nat :=
  "xn--".toList.map Char.toNat

/-- A label that is neither empty nor too long. -/
def checkLength (label : List Nat) : Except LabelFault (List Nat) :=
  if 0 < label.length && label.length < 64 then .ok label else .error .badLength

/-- Whether a text is in ASCII. -/
def isAscii (label : List Nat) : Bool :=
  label.all (· < 0x80)

/-- The label that stands for a text. -/
def write (text : List Nat) : Except LabelFault (List Nat) :=
  if isAscii text then checkLength text
  else do
    let prepared ← prepare text
    if isAscii prepared then checkLength prepared
    else
      if lead.isPrefixOf prepared then throw .looksEncoded
      checkLength (lead ++ Punycode.encode prepared)

/-- A character of ASCII in lower case. -/
def lower (code : Nat) : Nat :=
  if 0x41 ≤ code && code ≤ 0x5a then code + 0x20 else code

/-- The text that a label stands for. -/
def read (label : List Nat) : Except LabelFault (List Nat) := do
  if !lead.isPrefixOf label then return label
  let digits := label.drop lead.length
  let text ← if digits.isEmpty then pure [] else (Punycode.decode digits).mapError .inDigits
  let written ← write text
  if label.map lower ≠ written then throw (.notTheSame label written)
  return text

/-- The labels of a name. -/
def split : List Nat → List (List Nat)
  | [] => [[]]
  | 0x2e :: rest => [] :: split rest
  | code :: rest =>
    match split rest with
    | label :: labels => (code :: label) :: labels
    | [] => [[code]]

/-- The text of a name. A point at the end stays. -/
def readName (name : List Nat) : Except LabelFault (List Nat) := do
  let labels := split name
  let isOpen := labels.getLast? == some []
  let texts ← (if isOpen then labels.dropLast else labels).mapM read
  return [0x2e].intercalate texts ++ (if isOpen then [0x2e] else [])

end Tabstave.Text.Label
