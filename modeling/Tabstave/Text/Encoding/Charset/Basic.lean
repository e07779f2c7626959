/-!
# Character sets of two bytes

A character set assigns characters to pairs of numbers, a lead and a trail. It is given by stretches
of characters that have the same lead and consecutive trails; `Charset.find?` looks a pair up. The
replacement character fills small gaps within a stretch.
-/

namespace Tabstave.Text

/-- Characters with the same lead and consecutive trails. -/
structure Stretch where
  lead : Nat
  /-- The trail of the first character. -/
  first : Nat
  characters : String

/-- A set of characters for pairs of numbers. -/
abbrev Charset :=
  List Stretch

namespace Charset

/-- What fills the gaps. -/
def gap : Char :=
  '\ufffd'

/-- The character of a pair within a stretch. -/
def findIn? (lead trail : Nat) (stretch : Stretch) : Option Char :=
  if stretch.lead = lead && stretch.first ≤ trail then
    stretch.characters.toList[trail - stretch.first]?.filter (· != gap)
  else none

/-- The character of a pair. -/
def find? (charset : Charset) (lead trail : Nat) : Option Char :=
  charset.findSome? (findIn? lead trail)

end Charset

end Tabstave.Text
