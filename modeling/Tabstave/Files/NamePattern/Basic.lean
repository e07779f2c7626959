import Tabstave.Fault
import Tabstave.Number.Reading

/-!
# Patterns for file names

A pattern is a text with fields in braces; braces that are doubled stand for themselves. A field
names what is put in its place, may pick one character of it, may ask for it to be quoted, and may
say how it is laid out: which character fills how many places on which side, and how many characters
are kept at most. The layout may contain fields in turn, but these may not.

`NamePattern.pieces` reads a pattern up to the first mistake, so that a mistake further on is
reported only if everything before it can be filled in.
-/

namespace Tabstave.NamePattern

/-- A field of a pattern. -/
structure Field where
  name : List Char
  conversion : Option Char
  spec : List Char
  /-- Whether the layout contains fields. -/
  nested : Bool
  deriving DecidableEq, Repr

/-- A part of a pattern: text that stands for itself, or a field. -/
inductive Piece
  | text (cs : List Char)
  | field (f : Field)
  deriving DecidableEq, Repr

/-- Why a stretch of text ends: the pattern is at its end, a field begins, or there is a mistake. -/
inductive Ending
  | finished
  | field (rest : List Char)
  | fault (fault : PatternFault)
  deriving DecidableEq, Repr

/-- The text up to the next field. -/
def takeText : List Char → List Char × Ending
  | [] => ([], .finished)
  | '\x7b' :: '\x7b' :: rest =>
    let (text, ending) := takeText rest
    ('\x7b' :: text, ending)
  | ['\x7b'] => ([], .fault .loneOpening)
  | '\x7b' :: rest => ([], .field rest)
  | '\x7d' :: '\x7d' :: rest =>
    let (text, ending) := takeText rest
    ('\x7d' :: text, ending)
  | '\x7d' :: _ => ([], .fault .loneClosing)
  | c :: rest =>
    let (text, ending) := takeText rest
    (c :: text, ending)

/-- The name of a field, the character that ends it, and what follows. Within brackets only the
closing bracket has a meaning. -/
def takeName (inBrackets : Bool) : List Char → Except PatternFault (List Char × Char × List Char)
  | [] => .error .unclosed
  | c :: rest =>
    let more (inBrackets : Bool) : Except PatternFault (List Char × Char × List Char) :=
      (takeName inBrackets rest).map fun (name, stop, rest) ↦ (c :: name, stop, rest)
    if inBrackets then more (c != ']')
    else if c == '\x7b' then .error .openingInName
    else if c == '[' then more true
    else if c == '\x7d' || c == ':' || c == '!' then .ok ([], c, rest)
    else more false

/-- The layout of a field and what follows the brace that closes it, which is the one where as many
braces are closed as were opened; `depth` counts those that are open within the layout. -/
def takeSpec (depth : Nat) : List Char → Except PatternFault (List Char × List Char)
  | [] => .error .unclosedSpec
  | c :: rest =>
    let more (depth : Nat) : Except PatternFault (List Char × List Char) :=
      (takeSpec depth rest).map fun (spec, rest) ↦ (c :: spec, rest)
    if c == '\x7b' then more (depth + 1)
    else if c == '\x7d' then if depth = 0 then .ok ([], rest) else more (depth - 1)
    else more depth

/-- A field with a layout. -/
def fieldWithSpec (name : List Char) (conversion : Option Char) (text : List Char) :
    Except PatternFault (Field × List Char) :=
  (takeSpec 0 text).map fun (spec, rest) ↦ (⟨name, conversion, spec, spec.contains '\x7b'⟩, rest)

/-- A field, from after the brace that opens it, and what follows. -/
def takeField (text : List Char) : Except PatternFault (Field × List Char) := do
  let (name, stop, rest) ← takeName false text
  if stop == '\x7d' then return (⟨name, none, [], false⟩, rest)
  else if stop == ':' then fieldWithSpec name none rest
  else
    match rest with
    | [] => throw .conversionMissing
    | [conversion] => fieldWithSpec name (some conversion) []
    | conversion :: next :: rest =>
      if next == '\x7d' then return (⟨name, some conversion, [], false⟩, rest)
      else if next == ':' then fieldWithSpec name (some conversion) rest
      else throw .conversionTooLong

/-- The pieces of a pattern up to the first mistake, and the mistake. `fuel` bounds the number of
fields. -/
def piecesWithin (fuel : Nat) (text : List Char) : List Piece × Option PatternFault :=
  match fuel with
  | 0 => ([], none)
  | fuel + 1 =>
    let (literal, ending) := takeText text
    match ending with
    | .finished => ([.text literal], none)
    | .fault fault => ([.text literal], some fault)
    | .field rest =>
      match takeField rest with
      | .error fault => ([.text literal], some fault)
      | .ok (field, rest) =>
        let (pieces, fault) := piecesWithin fuel rest
        (.text literal :: .field field :: pieces, fault)

/-- The pieces of a pattern up to the first mistake, and the mistake. -/
def pieces (text : List Char) : List Piece × Option PatternFault :=
  piecesWithin (text.length + 1) text

/-- Numbers beyond this are too large for a position or a width. -/
def maxNumber : Nat :=
  Nat.pow 2 63 - 1

/-- The number that decimal digits make, unless it is too large. -/
def numberOf (digits : List Nat) : Except PatternFault Nat :=
  digits.foldlM
    (fun n d ↦ if maxNumber < 10 * n + d then .error .numberTooLarge else .ok (10 * n + d)) 0

/-- The number that a text is, if it consists of digits. -/
def position? (text : List Char) : Except PatternFault (Option Nat) :=
  match text.mapM Text.digitValue? with
  | some (d :: digits) => (numberOf (d :: digits)).map some
  | _ => .ok none

end Tabstave.NamePattern
