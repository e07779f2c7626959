import Tabstave.Fault

/-!
# Places in a configuration text

A `Spot` is a place in a text: what is left of it, and how many characters, lines and columns come
before. Five characters break lines; what a break stands for in a scalar is a line feed, except that
the two separators of Unicode stand for themselves. At the end of a text a null character is seen,
which no text contains.
-/

namespace Tabstave.Yaml

/-- A place in a text. -/
structure Spot where
  rest : List Char
  index : Nat
  line : Nat
  column : Nat
  deriving Repr

/-- The start of a text. -/
def Spot.start (text : List Char) : Spot :=
  ⟨text, 0, 0, 0⟩

/-- Refuse the text. -/
def malformed {α : Type} : Except Fault α :=
  .error .malformedConfig

/-- A character that may occur in a text: no control other than tab and line breaks. -/
def isAllowed (c : Char) : Bool :=
  let code := c.toNat
  code == 9 || code == 0xa || code == 0xd || (0x20 ≤ code && code ≤ 0x7e) || code == 0x85 ||
    (0xa0 ≤ code && code ≤ 0xd7ff) || (0xe000 ≤ code && code ≤ 0xfffd) || 0x10000 ≤ code

/-- A line break. -/
def isBreak (c : Char) : Bool :=
  c == '\n' || c == '\r' || c == '\x85' || c == '\u2028' || c == '\u2029'

/-- A line break or the end of the text. -/
def endsLine (c : Char) : Bool :=
  c == '\x00' || isBreak c

/-- A line break, the end of the text, or a space. -/
def endsWord (c : Char) : Bool :=
  c == ' ' || endsLine c

/-- A line break, the end of the text, a space or a tab. -/
def endsToken (c : Char) : Bool :=
  c == '\t' || endsWord c

/-- A character of a name. -/
def isNameChar (c : Char) : Bool :=
  ('0' ≤ c && c ≤ '9') || ('a' ≤ c && c ≤ 'z') || ('A' ≤ c && c ≤ 'Z') || c == '-' || c == '_'

namespace Spot

/-- The character so many places ahead. -/
def ahead (spot : Spot) (n : Nat) : Char :=
  (spot.rest[n]?).getD '\x00'

/-- The next character. -/
def peek (spot : Spot) : Char :=
  spot.ahead 0

/-- Go past one character. -/
def next (spot : Spot) : Spot :=
  match spot.rest with
  | [] => spot
  | c :: rest =>
    if isBreak c && !(c == '\r' && rest.head? == some '\n') then
      ⟨rest, spot.index + 1, spot.line + 1, 0⟩
    else ⟨rest, spot.index + 1, spot.line, if c == '\ufeff' then spot.column else spot.column + 1⟩

/-- Go past several characters. -/
def skip (spot : Spot) : Nat → Spot
  | 0 => spot
  | n + 1 => spot.next.skip n

/-- The characters up to the first that does not fit, and the place of that one. -/
def takeWhile (spot : Spot) (p : Char → Bool) : List Char × Spot :=
  let taken := spot.rest.takeWhile p
  (taken, spot.skip taken.length)

/-- Go past the characters that fit. -/
def skipWhile (spot : Spot) (p : Char → Bool) : Spot :=
  (spot.takeWhile p).2

/-- Whether the text goes on with this one. -/
def startsWith (spot : Spot) (text : List Char) : Bool :=
  text.isPrefixOf spot.rest

/-- What a line break stands for, and the place after it, if there is one. -/
def takeBreak (spot : Spot) : Option (Char × Spot) :=
  let c := spot.peek
  if c == '\r' && spot.ahead 1 == '\n' then some ('\n', spot.skip 2)
  else if c == '\r' || c == '\n' || c == '\x85' then some ('\n', spot.next)
  else if c == '\u2028' || c == '\u2029' then some (c, spot.next)
  else none

/-- Whether a mark of three characters stands by itself here. -/
def atMark (spot : Spot) (mark : String) : Bool :=
  spot.startsWith mark.toList && endsToken (spot.ahead 3)

/-- Whether a document ends here, or another one starts. -/
def atDocumentBoundary (spot : Spot) : Bool :=
  spot.atMark "---" || spot.atMark "..."

/-- Go past the rest of a line that may hold nothing but spaces and a comment. -/
def skipIgnoredLine (spot : Spot) : Except Fault Spot :=
  let spot := spot.skipWhile (· == ' ')
  let spot := if spot.peek == '#' then spot.skipWhile fun c ↦ !endsLine c else spot
  match spot.takeBreak with
  | some (_, spot) => .ok spot
  | none => if spot.rest.isEmpty then .ok spot else malformed

end Spot

end Tabstave.Yaml
