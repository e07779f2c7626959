import Tabstave.Number.Decimal

/-!
# JSON documents

`Json` is the data that a JSON text can hold, and `Json.render` writes it: on one line, or spread
over lines with a unit of indentation for each level. Members of an object keep the order in which
they stand. Characters outside ASCII are written as they are; only quotes, backslashes and the
controls below the space are escaped.

Binary numbers are written with the fewest digits that read back; the infinities and what is no
number are written as the words `Infinity`, `-Infinity` and `NaN`.
-/

namespace Tabstave

/-- The data of a JSON text. -/
inductive Json
  | null
  | bool (b : Bool)
  | int (n : Int)
  | float (x : Binary64)
  | str (s : String)
  | arr (items : List Json)
  | obj (members : List (String × Json))

namespace Json

/-- How a text is laid out. -/
inductive Layout
  /-- All on one line. -/
  | compact
  /-- One item or member on each line, indented for each level by so many times this unit. -/
  | indented (count : Nat) (unit : List Char)
  deriving DecidableEq, Repr

/-- What goes before an item or a closing bracket at the given level. -/
def Layout.lineBreak : Layout → Nat → List Char
  | .compact, _ => []
  | .indented count unit, level => '\n' :: (List.replicate (level * count) unit).flatten

/-- What goes between two items, before the line break. -/
def Layout.separator : Layout → List Char
  | .compact => [',', ' ']
  | .indented _ _ => [',']

/-- A hexadecimal digit in lower case. -/
def hexDigit (n : Nat) : Char :=
  Nat.digitChar n

/-- A character as it is written between the quotes. -/
def escapeChar (c : Char) : List Char :=
  if c = '"' then ['\\', '"']
  else if c = '\\' then ['\\', '\\']
  else if c = '\n' then ['\\', 'n']
  else if c = '\r' then ['\\', 'r']
  else if c = '\t' then ['\\', 't']
  else if c = '\x0c' then ['\\', 'f']
  else if c = '\x08' then ['\\', 'b']
  else if c.toNat < 0x20 then
    ['\\', 'u', '0', '0', hexDigit (c.toNat / 16), hexDigit (c.toNat % 16)]
  else [c]

/-- A text between quotes. -/
def renderString (s : String) : List Char :=
  '"' :: s.toList.flatMap escapeChar ++ ['"']

/-- A whole number in decimal digits. -/
def renderInt (n : Int) : List Char :=
  Binary64.signText (n < 0) ++ Number.digitsOf n.natAbs

/-- A binary number. -/
def renderFloat : Binary64 → List Char
  | .nan => "NaN".toList
  | .infinite negative => Binary64.signText negative ++ "Infinity".toList
  | x => x.text

/-- A truth value. -/
def renderBool (b : Bool) : List Char :=
  if b then "true".toList else "false".toList

/-- Whether a document is written on several lines when it is indented. -/
def hasLineBreaks : Json → Bool
  | .arr items => !items.isEmpty
  | .obj members => !members.isEmpty
  | _ => false

mutual

/-- Write a document whose first line stands at the given level. -/
def render (layout : Layout) (level : Nat) : Json → List Char
  | .null => "null".toList
  | .bool b => renderBool b
  | .int n => renderInt n
  | .float x => renderFloat x
  | .str s => renderString s
  | .arr [] => ['[', ']']
  | .arr (item :: rest) =>
    '[' :: layout.lineBreak (level + 1) ++ render layout (level + 1) item ++
      renderItems layout (level + 1) rest ++ layout.lineBreak level ++ [']']
  | .obj [] => ['\x7b', '\x7d']
  | .obj ((key, value) :: rest) =>
    '\x7b' :: layout.lineBreak (level + 1) ++ renderString key ++ [':', ' '] ++
      render layout (level + 1) value ++ renderMembers layout (level + 1) rest ++
      layout.lineBreak level ++ ['\x7d']
termination_by structural json => json

/-- Write the items after the first. -/
def renderItems (layout : Layout) (level : Nat) : List Json → List Char
  | [] => []
  | item :: rest =>
    layout.separator ++ layout.lineBreak level ++ render layout level item ++
      renderItems layout level rest
termination_by structural items => items

/-- Write the members after the first. -/
def renderMembers (layout : Layout) (level : Nat) : List (String × Json) → List Char
  | [] => []
  | (key, value) :: rest =>
    layout.separator ++ layout.lineBreak level ++ renderString key ++ [':', ' '] ++
      render layout level value ++ renderMembers layout level rest
termination_by structural members => members

end

end Json

end Tabstave
