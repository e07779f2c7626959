import Tabstave.Number.Reading
import Tabstave.Text.Case.Letters
import Tabstave.Value.Basic
import Tabstave.Yaml.Resolve

/-!
# The values of scalars

The tag of a scalar says how its text is read: as a number, a truth value, a date, as bytes written
in base 64, or as it is. Underscores may stand anywhere in a number, a leading zero makes it octal,
and colons separate digits of base sixty. `scalarValue` reads a text by its tag; what has halves of
surrogate pairs in it is nothing but a text.
-/

namespace Tabstave.Yaml

/-- A whole number in a base. -/
def intIn (base : Nat) (text : List Char) : Except Fault Int :=
  match Number.readInt base text with
  | .number n => .ok n
  | .tooManyDigits count => .error (.tooManyDigits count)
  | .malformed => .error (.badInteger base (String.ofList text))

/-- Whether a text starts with a minus, and the text without its sign. -/
def splitSign (text : List Char) : Bool × List Char :=
  (text.head? == some '-', Resolve.unsigned text)

/-- The value of a whole number. -/
def intValue (text : List Char) : Except Fault Int := do
  let (negative, digits) := splitSign (text.filter (· != '_'))
  let sign (n : Int) : Int := if negative then -n else n
  match digits with
  | [] => throw .emptyNumber
  | ['0'] => return 0
  | '0' :: 'b' :: digits => return sign (← intIn 2 digits)
  | '0' :: 'x' :: digits => return sign (← intIn 16 digits)
  | '0' :: more => return sign (← intIn 8 ('0' :: more))
  | digits =>
    let parts ← (Resolve.splitAtChar ':' digits).mapM (intIn 10)
    return sign (parts.foldl (fun n d ↦ 60 * n + d) 0)

/-- A binary number in decimal digits. -/
def decimalFloat (text : List Char) : Except Fault Binary64 :=
  match Number.binary64? text with
  | some x => .ok x
  | none => .error (.badNumber (String.ofList text))

/-- The binary number nearest to a whole number, which may not be too large. -/
def nearestFloat (n : Int) : Except Fault Binary64 :=
  match Binary64.ofInt n with
  | .infinite _ => .error .tooLargeForBinary64
  | x => .ok x

/-- The number that digits of base sixty make, the last first. They are added up one by one, each
after multiplication by its power of sixty. -/
def sumSexagesimal (base : Int) (sum : Binary64) : List Binary64 → Except Fault Binary64
  | [] => .ok sum
  | digit :: rest => do sumSexagesimal (base * 60) (sum.add (digit.mul (← nearestFloat base))) rest

/-- The letters, digits and marks of a binary number, in lower case. -/
def floatWord (text : List Char) : List Char :=
  Text.lowerCase (text.filter (· != '_'))

/-- Whether code points are the word for what is no number. -/
def isNoNumber (codes : List Nat) : Bool :=
  (Text.characters? codes).any fun text ↦ (splitSign (floatWord text)).2 == ".nan".toList

/-- The value of a binary number. -/
def floatValue (text : List Char) : Except Fault Binary64 := do
  let text := floatWord text
  if text.isEmpty then throw .emptyNumber
  let (negative, digits) := splitSign text
  let sign (x : Binary64) : Binary64 := if negative then x.neg else x
  if digits == ".inf".toList then return sign (.infinite false)
  else if digits == ".nan".toList then return .nan
  else
    match Resolve.splitAtChar ':' digits with
    | [digits] => return sign (← decimalFloat digits)
    | parts => return sign (← sumSexagesimal 1 (.zero false) (← parts.mapM decimalFloat).reverse)

/-- The number of days of a month. -/
def daysOf (year month : Nat) : Nat :=
  if month = 2 then
    if year % 4 = 0 && (year % 100 != 0 || year % 400 = 0) then 29 else 28
  else if [4, 6, 9, 11].contains month then 30 else 31

/-- The distance of a zone in minutes, which has to be less than a day. -/
def zoneOffset (zone : Option (Bool × Nat × Nat)) : Except Fault (Option Int) :=
  match zone with
  | none => .ok none
  | some (west, hours, minutes) =>
    let distance : Int := 60 * hours + minutes
    let offset := if west then -distance else distance
    if distance < 1440 then .ok (some offset) else .error (.zoneTooFar offset)

/-- Refuse a day that no calendar has. -/
def checkDay (stamp : Timestamp) : Except Fault Unit :=
  if stamp.year = 0 then .error (.badDate "year 0 is out of range")
  else if stamp.month < 1 || 12 < stamp.month then .error (.badDate "month must be in 1..12")
  else if stamp.day < 1 || daysOf stamp.year stamp.month < stamp.day then
    .error (.badDate "day is out of range for month")
  else .ok ()

/-- Refuse a time that no clock shows. -/
def checkTime (hour minute second : Nat) : Except Fault Unit :=
  if 23 < hour then .error (.badDate "hour must be in 0..23")
  else if 59 < minute then .error (.badDate "minute must be in 0..59")
  else if 59 < second then .error (.badDate "second must be in 0..59")
  else .ok ()

/-- The millionths of a second that the digits of a fraction make. -/
def microseconds (fraction : List Char) : Nat :=
  let digits := fraction.take 6
  Timestamp.number (digits ++ List.replicate (6 - digits.length) '0')

/-- The value of a date. -/
def dateValue (text : List Char) : Except Fault Value := do
  match Timestamp.ofText? (dropFinalFeed text) with
  | none => throw (.noMember "NoneType" "groupdict")
  | some stamp =>
    match stamp.time with
    | none =>
      checkDay stamp
      return .date stamp.year stamp.month stamp.day
    | some (hour, minute, second, fraction) =>
      let offset ← zoneOffset stamp.zone
      checkDay stamp
      checkTime hour minute second
      return .moment stamp.year stamp.month stamp.day hour minute second (microseconds fraction) offset

/-- The truth words, in lower case, with their values. -/
def truthValues : List (String × Bool) :=
  [("yes", true), ("no", false), ("true", true), ("false", false), ("on", true), ("off", false)]

/-- The value of a truth word. -/
def truthValue (text : List Char) : Except Fault Bool :=
  let word := String.ofList (Text.lowerCase text)
  match truthValues.lookup word with
  | some b => .ok b
  | none => .error (.badWord word)

/-- The value of a digit of base 64. -/
def base64Digit? (c : Char) : Option Nat :=
  if 'A' ≤ c && c ≤ 'Z' then some (c.toNat - 0x41)
  else if 'a' ≤ c && c ≤ 'z' then some (c.toNat - 0x61 + 26)
  else if '0' ≤ c && c ≤ '9' then some (c.toNat - 0x30 + 52)
  else if c == '+' then some 62
  else if c == '/' then some 63
  else none

/-- The bytes that digits of base 64 stand for, four digits for three bytes. -/
def bytesOfBase64 : List Nat → List UInt8
  | a :: b :: c :: d :: rest =>
    let n := ((a * 64 + b) * 64 + c) * 64 + d
    .ofNat (n / 65536) :: .ofNat (n / 256) :: .ofNat n :: bytesOfBase64 rest
  | [a, b, c] =>
    let n := (a * 64 + b) * 64 + c
    [.ofNat (n / 1024), .ofNat (n / 4)]
  | [a, b] => [.ofNat ((a * 64 + b) / 16)]
  | _ => []

/-- The digits of base 64 in a text. Other characters are passed over; equals signs that fill up a
group of four end the text, and a group may not be left unfilled. `count` is how many digits came
before, and `fills` how many equals signs since the last of them. -/
def base64Digits (count fills : Nat) : List Char → Except Fault (List Nat)
  | [] => if count % 4 = 0 then .ok [] else malformed
  | c :: rest =>
    if c == '=' then
      if count % 4 < 2 then base64Digits count fills rest
      else if 4 ≤ count % 4 + fills + 1 then .ok []
      else base64Digits count (fills + 1) rest
    else
      match base64Digit? c with
      | none => base64Digits count fills rest
      | some d => (base64Digits (count + 1) 0 rest).map (d :: ·)

/-- The bytes that a text in base 64 stands for. -/
def bytesValue (text : List Char) : Except Fault (List UInt8) :=
  if text.all (·.toNat < 0x80) then (base64Digits 0 0 text).map bytesOfBase64 else malformed

/-- The value of a text by its tag, if it is a tag for scalars. -/
def textValue (tag : Tag) (text : List Char) : Except Fault Value :=
  match tag with
  | .null => .ok .null
  | .bool => (truthValue text).map .bool
  | .int => (intValue text).map .int
  | .float => (floatValue text).map .float
  | .str => .ok (.str (String.ofList text))
  | .timestamp => dateValue text
  | .binary => (bytesValue text).map .bytes
  | _ => malformed

/-- The value of code points that are no text, by their tag. They make no number and no truth word,
and no date either. -/
def halvesValue (tag : Tag) (codes : List Nat) : Except Fault Value :=
  match tag with
  | .null => .ok .null
  | .str => .ok (.halves codes)
  | .bool | .int | .float => .error (.halves codes)
  | .timestamp => .error (.noMember "NoneType" "groupdict")
  | _ => malformed

/-- The value of code points by their tag. -/
def scalarValue (tag : Tag) (codes : List Nat) : Except Fault Value :=
  match Text.characters? codes with
  | some text => textValue tag text
  | none => halvesValue tag codes

end Tabstave.Yaml
