import Tabstave.Text.Quoted

/-!
# What can be wrong with the labels of a name

A label in ASCII can stand for a text beyond ASCII. `LabelFault` says why one does not.
-/

namespace Tabstave.Text

/-- What is wrong with a label or with a text that is written in ASCII. -/
inductive LabelFault
  /-- The digits break off within a number. -/
  | numberBreaksOff
  | notADigit (c : Char)
  /-- A code point beyond the last one. -/
  | codeTooLarge (code : Nat)
  /-- A label that is empty, or longer than labels may be. -/
  | badLength
  /-- A text that begins like a label that stands for another text. -/
  | looksEncoded
  /-- A character that may not occur. -/
  | prohibited (code : Nat)
  /-- Characters that are written from left to right and from right to left together. -/
  | mixedDirections
  /-- A text from right to left whose ends are not. -/
  | wrongEnds
  /-- A label that its text is not written as. -/
  | notTheSame (label written : List Nat)
  /-- What is wrong with the digits of a label. -/
  | inDigits (fault : LabelFault)
  deriving DecidableEq, Repr

/-- A code point as messages show it. -/
def LabelFault.showCode (code : Nat) : String :=
  if 0xd800 ≤ code && code < 0xe000 then "'\\u" ++ String.ofList (Text.hex 4 code) ++ "'"
  else Text.showString (String.singleton (Char.ofNat code))

/-- Bytes as messages show them. -/
def LabelFault.showBytes (codes : List Nat) : String :=
  let quote := Text.quoteFor (codes.map Char.ofNat)
  let shown := codes.flatMap fun code ↦ Text.showChar quote (Char.ofNat code)
  "b" ++ String.ofList (quote :: shown ++ [quote])

/-- The wording of a fault. -/
def LabelFault.message : LabelFault → String
  | .numberBreaksOff => "incomplete punicode string"
  | .notADigit c => "Invalid extended code point '" ++ String.singleton c ++ "'"
  | .codeTooLarge code => "Invalid character U+" ++ String.ofList (Nat.toDigits 16 code)
  | .badLength => "label empty or too long"
  | .looksEncoded => "Label starts with ACE prefix"
  | .prohibited code => "Invalid character " ++ showCode code
  | .mixedDirections => "Violation of BIDI requirement 2"
  | .wrongEnds => "Violation of BIDI requirement 3"
  | .notTheSame label written =>
    "('IDNA does not round-trip', " ++ showBytes label ++ ", " ++ showBytes written ++ ")"
  | .inDigits fault =>
    "decoding with 'punycode' codec failed (UnicodeError: " ++ fault.message ++ ")"

end Tabstave.Text
