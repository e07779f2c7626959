import Tabstave.Text.Printable
import Tabstave.Text.Utf8

/-!
# Quoted text in messages

A message shows a text between quotes. Single quotes are taken unless the text holds a single quote
and no double one. The quote itself, backslashes and everything that is not printable are escaped;
`quoted_ends` says that the chosen quote stands at both ends.
-/

namespace Tabstave.Text

/-- A hexadecimal number, padded with zeros. -/
def hex (width n : Nat) : List Char :=
  let digits := Nat.toDigits 16 n
  List.replicate (width - digits.length) '0' ++ digits

/-- The quote that a text is shown with. -/
def quoteFor (text : List Char) : Char :=
  if text.contains '\'' && !text.contains '"' then '"' else '\''

/-- A character as it is shown between the given quotes. -/
def showChar (quote c : Char) : List Char :=
  if c == quote || c == '\\' then ['\\', c]
  else if c == '\n' then ['\\', 'n']
  else if c == '\r' then ['\\', 'r']
  else if c == '\t' then ['\\', 't']
  else if isPrintable c then [c]
  else if c.toNat < 0x100 then '\\' :: 'x' :: hex 2 c.toNat
  else if c.toNat < 0x10000 then '\\' :: 'u' :: hex 4 c.toNat
  else '\\' :: 'U' :: hex 8 c.toNat

/-- A text as it is shown in messages. -/
def quoted (text : List Char) : List Char :=
  let quote := quoteFor text
  quote :: text.flatMap (showChar quote) ++ [quote]

/-- A character outside ASCII as its code point, any other as it is. -/
def asciiChar (c : Char) : List Char :=
  if c.toNat < 0x80 then [c]
  else if c.toNat < 0x100 then '\\' :: 'x' :: hex 2 c.toNat
  else if c.toNat < 0x10000 then '\\' :: 'u' :: hex 4 c.toNat
  else '\\' :: 'U' :: hex 8 c.toNat

/-- The code points of a text, with those that are of no character as their numbers. -/
def escapeHalves (codes : List Nat) : List Char :=
  codes.flatMap fun code ↦
    match character? code with
    | some c => [c]
    | none => '\\' :: 'u' :: hex 4 code

/-- The chosen quote stands at both ends. -/
theorem quoted_ends (text : List Char) :
    (quoted text).head? = some (quoteFor text) ∧ (quoted text).getLast? = some (quoteFor text) := by
  constructor
  · rfl
  · exact List.getLast?_concat ..

/-- A text as it is shown in messages. -/
def showString (text : String) : String :=
  String.ofList (quoted text.toList)

end Tabstave.Text
