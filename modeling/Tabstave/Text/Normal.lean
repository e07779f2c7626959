import Tabstave.Text.Normal.Parts

/-!
# The composed form of compatible characters

The same text can be written in several ways: with letters and marks or with marked letters, and
with letters in many forms. `compose (decompose text)` is one way for all of them. First every
character is taken apart and the marks of a letter are put in the order of their classes, then
letters and marks are put together again where there is a character for them. Characters are given
by their code points here, since halves of surrogate pairs may be among them.
-/

namespace Tabstave.Text.Normal

/-- What a character stands for in a table of lines. -/
def findIn? (table : List String) (code : Nat) : Option (List Nat) :=
  table.findSome? fun row ↦
    (row.splitOn "\n").findSome? fun line ↦
      match line.toList.map Char.toNat with
      | key :: parts => if key = code then some parts else none
      | [] => none

/-- Whether a code point lies in one of the ranges. -/
def within (ranges : List (Nat × Nat)) (code : Nat) : Bool :=
  ranges.any fun (first, last) ↦ first ≤ code && code ≤ last

/-- The class of a mark, which is zero for anything else. -/
def markClass (code : Nat) : Nat :=
  match markClasses.find? fun (first, last, _) ↦ first ≤ code && code ≤ last with
  | some (_, _, mark) => mark
  | none => 0

/-- The parts of a character. Korean syllables are taken apart by a rule. -/
def parts (code : Nat) : List Nat :=
  if code < 0x80 then [code]
  else if 0xac00 ≤ code && code < 0xd7a4 then
    let index := code - 0xac00
    let final := index % 28
    [0x1100 + index / 588, 0x1161 + index % 588 / 28] ++
      (if final = 0 then [] else [0x11a7 + final])
  else (findIn? partsTable code).getD [code]

/-- Put a mark before the marks of a greater class at the end of a text, which is given from its
end. -/
def insertMark (code mark : Nat) : List Nat → List Nat
  | [] => [code]
  | last :: before =>
    if mark < markClass last then last :: insertMark code mark before else code :: last :: before

/-- Put the marks of each letter in order. -/
def orderMarks (text : List Nat) : List Nat :=
  (text.foldl (fun before code ↦
    let mark := markClass code
    if mark = 0 then code :: before else insertMark code mark before) []).reverse

/-- Take a text apart. -/
def decompose (text : List Nat) : List Nat :=
  orderMarks (text.flatMap parts)

/-- Where a pair of characters is put together from. -/
def pairIn? (first second : Nat) (row : String) : Option Nat :=
  (row.splitOn "\n").findSome? fun line ↦
    match line.toList.map Char.toNat with
    | [whole, a, b] => if a = first && b = second then some whole else none
    | _ => none

/-- The character that two characters make. -/
def pair? (first second : Nat) : Option Nat :=
  if 0x1100 ≤ first && first < 0x1113 && 0x1161 ≤ second && second < 0x1176 then
    some (0xac00 + (first - 0x1100) * 588 + (second - 0x1161) * 28)
  else if 0xac00 ≤ first && first < 0xd7a4 && (first - 0xac00) % 28 = 0 && 0x11a7 < second &&
      second < 0x11c3 then some (first + (second - 0x11a7))
  else pairsTable.findSome? (pairIn? first second)

/-- Put together what follows a character. `skipped` are the marks after the character that stay
apart, the last one first. -/
def composeFrom (first : Nat) (skipped : List Nat) : List Nat → List Nat
  | [] => first :: skipped.reverse
  | code :: rest =>
    let mark := markClass code
    let isBlocked := skipped.head?.any fun last ↦ mark ≤ markClass last
    match if isBlocked then none else pair? first code with
    | some whole => composeFrom whole skipped rest
    | none =>
      if mark = 0 then first :: skipped.reverse ++ composeFrom code [] rest
      else composeFrom first (code :: skipped) rest

/-- Put a text together. -/
def compose : List Nat → List Nat
  | [] => []
  | first :: rest => composeFrom first [] rest

end Tabstave.Text.Normal
