import Tabstave.Yaml.Spot

/-!
# The text of scalars

A scalar is written in one of four ways: plain, between single or double quotes, or as a block of
its own that keeps its line breaks or folds them. Whatever the way, a single line break within a
folded text becomes a space and further ones stay.
-/

namespace Tabstave.Yaml.Scalar

/-- What a break and the breaks after it come to in a folded text. -/
def foldBreaks (first : Char) (more : List Char) : List Char :=
  (if first != '\n' then [first] else if more.isEmpty then [' '] else []) ++ more

/-! ### Quoted scalars -/

/-- What the letter after a backslash stands for. -/
def escape? (c : Char) : Option Char :=
  [('0', '\x00'), ('a', '\x07'), ('b', '\x08'), ('t', '\t'), ('\t', '\t'), ('n', '\n'), ('v', '\x0b'),
    ('f', '\x0c'), ('r', '\r'), ('e', '\x1b'), (' ', ' '), ('"', '"'), ('\\', '\\'), ('/', '/'),
    ('N', '\x85'), ('_', '\xa0'), ('L', '\u2028'), ('P', '\u2029')].lookup c

/-- How many hexadecimal digits follow the letter after a backslash. -/
def escapeLength? (c : Char) : Option Nat :=
  [('x', 2), ('u', 4), ('U', 8)].lookup c

/-- The value of a hexadecimal digit. -/
def hexValue? (c : Char) : Option Nat :=
  if '0' ≤ c && c ≤ '9' then some (c.toNat - 0x30)
  else if 'a' ≤ c && c ≤ 'f' then some (c.toNat - 0x57)
  else if 'A' ≤ c && c ≤ 'F' then some (c.toNat - 0x37)
  else none

/-- The code point that hexadecimal digits give. -/
def codeOfHex (digits : List Char) : Except Fault Nat :=
  match digits.mapM hexValue? with
  | none => malformed
  | some values =>
    let code := values.foldl (fun n d ↦ 16 * n + d) 0
    if code < 0x110000 then .ok code
    else if code < 0x80000000 then .error .badCodePoint
    else .error .hugeCodePoint

/-- The breaks after the first within quotes, past spaces and tabs. -/
def quotedBreaks (fuel : Nat) (spot : Spot) : Except Fault (List Char × Spot) :=
  match fuel with
  | 0 => malformed
  | fuel + 1 =>
    if spot.atDocumentBoundary then malformed
    else
      let spot := spot.skipWhile fun c ↦ c == ' ' || c == '\t'
      match spot.takeBreak with
      | none => .ok ([], spot)
      | some (c, spot) => do
        let (more, spot) ← quotedBreaks fuel spot
        return (c :: more, spot)

/-- The code points of a quoted scalar, from after its opening quote, and the place after the closing
one. Between double quotes any code point can be written by its number. -/
def quoted (double : Bool) (fuel : Nat) (spot : Spot) : Except Fault (List Nat × Spot) :=
  match fuel with
  | 0 => malformed
  | fuel + 1 =>
    let c := spot.peek
    let moreCodes (codes : List Nat) (spot : Spot) : Except Fault (List Nat × Spot) :=
      (quoted double fuel spot).map fun (rest, spot) ↦ (codes ++ rest, spot)
    let more (text : List Char) (spot : Spot) : Except Fault (List Nat × Spot) :=
      moreCodes (Text.codes text) spot
    if spot.rest.isEmpty then malformed
    else if c == ' ' || c == '\t' || isBreak c then
      let (blanks, spot) := spot.takeWhile fun c ↦ c == ' ' || c == '\t'
      match spot.takeBreak with
      | none => more blanks spot
      | some (first, spot) => do
        let (breaks, spot) ← quotedBreaks (fuel + 1) spot
        more (foldBreaks first breaks) spot
    else if double then
      if c == '"' then .ok ([], spot.next)
      else if c == '\\' then
        let letter := spot.ahead 1
        match escape? letter, escapeLength? letter with
        | some c, _ => more [c] (spot.skip 2)
        | none, some length => do
          let digits := (spot.rest.drop 2).take length
          if digits.length < length then malformed
          else
            let code ← codeOfHex digits
            moreCodes [code] (spot.skip (2 + length))
        | none, none =>
          match spot.next.takeBreak with
          | none => malformed
          | some (_, spot) => do
            let (breaks, spot) ← quotedBreaks (fuel + 1) spot
            more breaks spot
      else more [c] spot.next
    else if c == '\'' then
      if spot.ahead 1 == '\'' then more ['\''] (spot.skip 2) else .ok ([], spot.next)
    else more [c] spot.next

/-! ### Plain scalars -/

/-- Whether a plain scalar ends before the next character. -/
def plainEnds (inFlow : Bool) (c after : Char) : Bool :=
  endsToken c ||
    (c == ':' && (endsToken after || (inFlow && [',', '[', ']', '\x7b', '\x7d'].contains after))) ||
    (inFlow && [',', '?', '[', ']', '\x7b', '\x7d'].contains c)

/-- The characters of a plain scalar up to a space or its end. -/
def plainWord (inFlow : Bool) : List Char → List Char
  | [] => []
  | c :: rest =>
    if plainEnds inFlow c (rest.head?.getD '\x00') then [] else c :: plainWord inFlow rest

/-- The breaks after the first within a plain scalar; `none` where a document ends. -/
def plainBreaks (fuel : Nat) (spot : Spot) : Option (List Char) × Spot :=
  match fuel with
  | 0 => (none, spot)
  | fuel + 1 =>
    let spot := spot.skipWhile (· == ' ')
    match spot.takeBreak with
    | none => (some [], spot)
    | some (c, spot) =>
      if spot.atDocumentBoundary then (none, spot)
      else
        let (more, spot) := plainBreaks fuel spot
        (more.map (c :: ·), spot)

/-- What separates two words of a plain scalar, the place after it, and whether it holds a break;
nothing where the scalar ends. -/
def plainGap (spot : Spot) : List Char × Spot × Bool :=
  let (blanks, spot) := spot.takeWhile (· == ' ')
  match spot.takeBreak with
  | none => (blanks, spot, false)
  | some (first, spot) =>
    if spot.atDocumentBoundary then ([], spot, true)
    else
      match plainBreaks (spot.rest.length + 1) spot with
      | (none, spot) => ([], spot, true)
      | (some breaks, spot) => (foldBreaks first breaks, spot, true)

/-- The text of a plain scalar, the place after it, and whether a break was passed after its last
word. `gap` is what separates the next word from the ones before it. -/
def plainWords (inFlow : Bool) (indent : Int) (fuel : Nat) (gap : List Char) (broken : Bool)
    (spot : Spot) : List Char × Spot × Bool :=
  match fuel with
  | 0 => ([], spot, broken)
  | fuel + 1 =>
    let word := if spot.peek == '#' then [] else plainWord inFlow spot.rest
    if word.isEmpty then ([], spot, broken)
    else
      let (nextGap, spot, broken) := plainGap (spot.skip word.length)
      if nextGap.isEmpty || spot.peek == '#' || (!inFlow && spot.column < indent) then
        (gap ++ word, spot, broken)
      else
        let (text, spot, broken) := plainWords inFlow indent fuel nextGap broken spot
        (gap ++ word ++ text, spot, broken)

/-- The text of a plain scalar that is indented at least so far, the place after it, and whether a
break was passed after its last word. -/
def plain (inFlow : Bool) (indent : Int) (spot : Spot) : List Char × Spot × Bool :=
  plainWords inFlow indent (spot.rest.length + 1) [] false spot

/-! ### Block scalars -/

/-- What becomes of the line breaks at the end of a block. -/
inductive Chomping
  | strip
  | clip
  | keep
  deriving DecidableEq, Repr

/-- A mark of chomping. -/
def chomping? (c : Char) : Option Chomping :=
  if c == '+' then some .keep else if c == '-' then some .strip else none

/-- A digit of indentation. -/
def increment? (c : Char) : Option Nat :=
  if '0' ≤ c && c ≤ '9' then some (c.toNat - 0x30) else none

/-- The marks in the head of a block: chomping and a digit of indentation, in either order. -/
def blockMarks (spot : Spot) : Except Fault (Chomping × Option Nat × Spot) := do
  let (chomping, increment, spot) :=
    match chomping? spot.peek, increment? spot.peek with
    | some chomping, _ =>
      match increment? (spot.ahead 1) with
      | some n => (chomping, some n, spot.skip 2)
      | none => (chomping, none, spot.next)
    | none, some n =>
      match chomping? (spot.ahead 1) with
      | some chomping => (chomping, some n, spot.skip 2)
      | none => (.clip, some n, spot.next)
    | none, none => (.clip, none, spot)
  if increment == some 0 || !endsWord spot.peek then malformed
  else return (chomping, increment, spot)

/-- The empty lines before a block and the widest indentation among them and the line after. -/
def blockIndentation (fuel : Nat) (spot : Spot) : List Char × Nat × Spot :=
  match fuel with
  | 0 => ([], 0, spot)
  | fuel + 1 =>
    let spot := spot.skipWhile (· == ' ')
    match spot.takeBreak with
    | none => ([], spot.column, spot)
    | some (c, after) =>
      let (breaks, widest, last) := blockIndentation fuel after
      (c :: breaks, max spot.column widest, last)

/-- The place after at most the indentation of a block. -/
def skipIndentation (indent : Nat) (spot : Spot) : Spot :=
  let spaces := (spot.rest.takeWhile (· == ' ')).length
  spot.skip (min spaces (indent - spot.column))

/-- The breaks of empty lines in a block, and the place after the indentation of the next line. -/
def blockBreaks (indent fuel : Nat) (spot : Spot) : List Char × Spot :=
  match fuel with
  | 0 => ([], spot)
  | fuel + 1 =>
    let spot := skipIndentation indent spot
    match spot.takeBreak with
    | none => ([], spot)
    | some (c, spot) =>
      let (breaks, spot) := blockBreaks indent fuel spot
      (c :: breaks, spot)

/-- The lines of a block from a line on, with the breaks before it. The answer is the text, the
break after its last line, the breaks after that, and the place after all. -/
def blockLines (folded : Bool) (indent fuel : Nat) (breaks : List Char) (spot : Spot) :
    List Char × List Char × List Char × Spot :=
  match fuel with
  | 0 => ([], [], breaks, spot)
  | fuel + 1 =>
    if spot.column != indent || spot.rest.isEmpty then ([], [], breaks, spot)
    else
      let startsSolid := !(spot.peek == ' ' || spot.peek == '\t')
      let (line, spot) := spot.takeWhile fun c ↦ !endsLine c
      let (lineBreak, spot) := match spot.takeBreak with
        | some (c, spot) => ([c], spot)
        | none => ([], spot)
      let (nextBreaks, spot) := blockBreaks indent (spot.rest.length + 1) spot
      if spot.column == indent && !spot.rest.isEmpty then
        let nextSolid := !(spot.peek == ' ' || spot.peek == '\t')
        let joint :=
          if folded && lineBreak == ['\n'] && startsSolid && nextSolid then
            if nextBreaks.isEmpty then [' '] else []
          else lineBreak
        let (text, last, trailing, spot) := blockLines folded indent fuel nextBreaks spot
        (breaks ++ line ++ joint ++ text, last, trailing, spot)
      else (breaks ++ line, lineBreak, nextBreaks, spot)

/-- The text of a block scalar within a collection at the given indentation, from after the mark
that starts it. -/
def block (folded : Bool) (outer : Int) (spot : Spot) : Except Fault (List Char × Spot) := do
  let (chomping, increment, spot) ← blockMarks spot
  let spot ← spot.skipIgnoredLine
  let least := (max 1 (outer + 1)).toNat
  let (indent, breaks, spot) :=
    match increment with
    | none =>
      let (breaks, widest, spot) := blockIndentation (spot.rest.length + 1) spot
      (max least widest, breaks, spot)
    | some n =>
      let indent := least + n - 1
      let (breaks, spot) := blockBreaks indent (spot.rest.length + 1) spot
      (indent, breaks, spot)
  let (text, last, trailing, spot) := blockLines folded indent (spot.rest.length + 1) breaks spot
  match chomping with
  | .strip => return (text, spot)
  | .clip => return (text ++ last, spot)
  | .keep => return (text ++ last ++ trailing, spot)

end Tabstave.Yaml.Scalar
