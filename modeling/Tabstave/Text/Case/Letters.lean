import Tabstave.Text.Case.Context
import Tabstave.Text.Case.Mapping

/-!
# Upper and lower case

`lowerCase` and `upperCase` change the case of whole texts. Nearly every character changes by
itself. Two things are special: a capital sigma becomes the final small sigma at the end of a word,
and some characters become several, such as the capital I with a dot above, or the sharp s.
-/

namespace Tabstave.Text

/-- The lower case form of a character that does not depend on its neighbours. -/
def lowerChar (c : Char) : List Char :=
  if c.toNat < 0x80 then [if 'A' ≤ c && c ≤ 'Z' then Char.ofNat (c.toNat + 32) else c]
  else if c = '\u0130' then ['i', '\u0307']
  else [mapByRuns lowerRuns c]

/-- Whether the nearest character that counts is a letter with a case. -/
def meetsCased (neighbours : List Char) : Bool :=
  (neighbours.find? fun c ↦ !isCaseIgnorable c).any isCased

/-- Change a text to lower case, given the characters before it from the nearest to the farthest. -/
def lowerCaseAfter (before : List Char) : List Char → List Char
  | [] => []
  | c :: rest =>
    let here :=
      if c = '\u03a3' then [if meetsCased before && !meetsCased rest then '\u03c2' else '\u03c3']
      else lowerChar c
    here ++ lowerCaseAfter (c :: before) rest

/-- A text in lower case. -/
def lowerCase (text : List Char) : List Char :=
  lowerCaseAfter [] text

/-- The upper case form of a character. -/
def upperChar (c : Char) : List Char :=
  if c.toNat < 0x80 then [if 'a' ≤ c && c ≤ 'z' then Char.ofNat (c.toNat - 32) else c]
  else
    match upperSequences.lookup c.toNat with
    | some codes => codes.map Char.ofNat
    | none => [mapByRuns upperRuns c]

/-- A text in upper case. -/
def upperCase (text : List Char) : List Char :=
  text.flatMap upperChar

end Tabstave.Text
