import Tabstave.Yaml.Spot

/-!
# What scalars mean

A scalar without a tag of its own is a number, a truth value, nothing, a date or a mark for merging
if it is written like one, and a text otherwise. The forms are those of version 1.1 of the language:
`yes` and `off` are truth values, a leading zero makes a number octal, colons separate digits of
base sixty, and a number with a fraction needs its point.
-/

namespace Tabstave.Yaml

/-- What kind of value a node is. -/
inductive Tag
  | null
  | bool
  | int
  | float
  | binary
  | timestamp
  | str
  | seq
  | map
  | set
  | omap
  | pairs
  | merge
  /-- The mark for the value of a mapping that stands for a scalar. -/
  | value
  | other (name : String)
  deriving DecidableEq, Repr

/-- The tags of the language, under the names that follow its own handle. -/
def Tag.named : List (String × Tag) :=
  [("null", .null), ("bool", .bool), ("int", .int), ("float", .float), ("binary", .binary),
    ("timestamp", .timestamp), ("str", .str), ("seq", .seq), ("map", .map), ("set", .set),
    ("omap", .omap), ("pairs", .pairs), ("merge", .merge), ("value", .value)]

/-- What the handle of the language's own tags stands for. -/
def Tag.home : String :=
  "tag:yaml.org,2002:"

/-- The tag with a full name. -/
def Tag.ofName (name : String) : Tag :=
  match Tag.named.find? fun (short, _) ↦ Tag.home ++ short == name with
  | some (_, tag) => tag
  | none => .other name

namespace Resolve

/-- An ASCII digit. -/
def isDigit (c : Char) : Bool :=
  '0' ≤ c && c ≤ '9'

/-- An ASCII digit or an underscore. -/
def isDigitOrGap (c : Char) : Bool :=
  isDigit c || c == '_'

/-- The text without its sign. -/
def unsigned : List Char → List Char
  | '-' :: rest => rest
  | '+' :: rest => rest
  | text => text

/-- Whether a text has characters and all fit. -/
def isRun (p : Char → Bool) (text : List Char) : Bool :=
  !text.isEmpty && text.all p

/-- Whether a text is a digit of base sixty. -/
def isSexagesimalDigit : List Char → Bool
  | [a] => isDigit a
  | [a, b] => '0' ≤ a && a ≤ '5' && isDigit b
  | _ => false

/-- The pieces of a text between occurrences of a character. -/
def splitAtChar (mark : Char) : List Char → List (List Char)
  | [] => [[]]
  | c :: rest =>
    if c == mark then [] :: splitAtChar mark rest
    else
      match splitAtChar mark rest with
      | [] => [[c]]
      | piece :: pieces => (c :: piece) :: pieces

/-- Whether a text is a number in base sixty, its first digit being a run of decimal digits. -/
def isSexagesimal (isFirst : Char → Bool) (text : List Char) : Bool :=
  match splitAtChar ':' text with
  | first :: second :: more =>
    first.head?.any isFirst && first.all isDigitOrGap && (second :: more).all isSexagesimalDigit
  | _ => false

/-- Whether a text is written like a whole number. -/
def isInt (text : List Char) : Bool :=
  match unsigned text with
  | '0' :: 'b' :: digits => isRun (fun c ↦ c == '0' || c == '1' || c == '_') digits
  | '0' :: 'x' :: digits =>
    isRun (fun c ↦ isDigitOrGap c || ('a' ≤ c && c ≤ 'f') || ('A' ≤ c && c ≤ 'F')) digits
  | ['0'] => true
  | '0' :: digits => isRun (fun c ↦ ('0' ≤ c && c ≤ '7') || c == '_') digits
  | digits =>
    (digits.head?.any isDigit && digits.all isDigitOrGap) ||
      isSexagesimal (fun c ↦ isDigit c && c != '0') digits

/-- Whether a text is an exponent with its sign, or nothing. -/
def isExponent : List Char → Bool
  | [] => true
  | mark :: sign :: digits =>
    (mark == 'e' || mark == 'E') && (sign == '-' || sign == '+') && isRun isDigit digits
  | _ => false

/-- Whether a text is written like a decimal with a point. -/
def isDecimal (text : List Char) : Bool :=
  match text with
  | '.' :: rest =>
    rest.head?.any isDigit && isExponent (rest.dropWhile isDigitOrGap)
  | text =>
    let digits := unsigned text
    let rest := digits.dropWhile isDigitOrGap
    digits.head?.any isDigit && rest.head? == some '.' &&
      isExponent ((rest.drop 1).dropWhile isDigitOrGap)

/-- Whether a text is written like a number in base sixty with a fraction. -/
def isSexagesimalDecimal (text : List Char) : Bool :=
  match splitAtChar '.' (unsigned text) with
  | [whole, fraction] => isSexagesimal isDigit whole && fraction.all isDigitOrGap
  | _ => false

/-- Whether a text is written like a binary number. -/
def isFloat (text : List Char) : Bool :=
  isDecimal text || isSexagesimalDecimal text ||
    [".inf", ".Inf", ".INF"].contains (String.ofList (unsigned text)) ||
    [".nan", ".NaN", ".NAN"].contains (String.ofList text)

/-- The words for truth values. -/
def truthWords : List String :=
  ["yes", "Yes", "YES", "no", "No", "NO", "true", "True", "TRUE", "false", "False", "FALSE",
    "on", "On", "ON", "off", "Off", "OFF"]

/-- The words for nothing. -/
def nullWords : List String :=
  ["", "~", "null", "Null", "NULL"]

end Resolve

/-- A date with the time of day, where there is one. -/
structure Timestamp where
  year : Nat
  month : Nat
  day : Nat
  /-- Hour, minute, second and the digits of a fraction. -/
  time : Option (Nat × Nat × Nat × List Char)
  /-- Whether the zone is west, its hours and its minutes. -/
  zone : Option (Bool × Nat × Nat)
  deriving DecidableEq, Repr

namespace Timestamp

/-- The number that digits make. -/
def number (digits : List Char) : Nat :=
  digits.foldl (fun n c ↦ 10 * n + (c.toNat - 0x30)) 0

/-- A number with at least and at most so many digits, and what follows. -/
def takeNumber (least most : Nat) (text : List Char) : Option (Nat × List Char) :=
  let digits := (text.take most).takeWhile Resolve.isDigit
  if digits.length < least then none else some (number digits, text.drop digits.length)

/-- What follows a character. -/
def takeChar (c : Char) (text : List Char) : Option (List Char) :=
  match text with
  | [] => none
  | d :: rest => if c == d then some rest else none

/-- A zone: the letter for none, or the distance from it. -/
def zone? (text : List Char) : Option (Option (Bool × Nat × Nat)) :=
  match text with
  | [] => some none
  | ['Z'] => some (some (false, 0, 0))
  | sign :: rest =>
    if sign != '-' && sign != '+' then none
    else do
      let (hours, rest) ← takeNumber 1 2 rest
      match rest with
      | [] => return some (sign == '-', hours, 0)
      | rest =>
        let (minutes, rest) ← takeNumber 2 2 (← takeChar ':' rest)
        if rest.isEmpty then return some (sign == '-', hours, minutes) else none

/-- Read a date. -/
def ofText? (text : List Char) : Option Timestamp := do
  let (year, rest) ← takeNumber 4 4 text
  let (month, rest) ← takeNumber 1 2 (← takeChar '-' rest)
  let (day, rest) ← takeNumber 1 2 (← takeChar '-' rest)
  match rest with
  | [] => return ⟨year, month, day, none, none⟩
  | mark :: more =>
    let rest ←
      if mark == 'T' || mark == 't' then some more
      else if mark == ' ' || mark == '\t' then
        some (more.dropWhile fun c ↦ c == ' ' || c == '\t')
      else none
    let (hour, rest) ← takeNumber 1 2 rest
    let (minute, rest) ← takeNumber 2 2 (← takeChar ':' rest)
    let (second, rest) ← takeNumber 2 2 (← takeChar ':' rest)
    let (fraction, rest) := match rest with
      | '.' :: rest => (rest.takeWhile Resolve.isDigit, rest.dropWhile Resolve.isDigit)
      | rest => ([], rest)
    let zone ← zone? (rest.dropWhile fun c ↦ c == ' ' || c == '\t')
    if zone.isNone && !rest.isEmpty then none
    else return ⟨year, month, day, some (hour, minute, second, fraction), zone⟩

/-- Whether a text is written like a date. One without a time has two digits for the month and for
the day. -/
def isWritten (text : List Char) : Bool :=
  match ofText? text with
  | some stamp => stamp.time.isSome || text.length == 10
  | none => false

end Timestamp

/-- A text without the line feed at its end, if there is one. -/
def dropFinalFeed (text : List Char) : List Char :=
  if text.getLast? = some '\n' then text.dropLast else text

/-- What a scalar without a tag of its own means. A line feed at its end makes no difference, unless
there is nothing else. -/
def resolve (text : List Char) : Tag :=
  let written := dropFinalFeed text
  let word := String.ofList written
  if text == ['\n'] then .str
  else if Resolve.truthWords.contains word then .bool
  else if Resolve.isFloat written then .float
  else if Resolve.isInt written then .int
  else if word == "<<" then .merge
  else if Resolve.nullWords.contains word then .null
  else if Timestamp.isWritten written then .timestamp
  else if word == "=" then .value
  else if ["!", "&", "*"].contains word then .other (Tag.home ++ "yaml")
  else .str

end Tabstave.Yaml
