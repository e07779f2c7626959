import Tabstave.Text.Encoding.Label.Fault

/-!
# Punycode

A text is written in ASCII in two parts with a hyphen between them: the characters that are in ASCII
themselves, and digits that say which other characters stand where. The other characters come in
ascending order. Each is given by a number, the count of all places and characters that are passed
over; its digits to the base 36 have thresholds that tell the last one, and that adapt to the
numbers so far.
-/

namespace Tabstave.Text.Punycode

/-- The value of a digit. -/
def digitValue? (code : Nat) : Option Nat :=
  if 0x41 ≤ code && code ≤ 0x5a then some (code - 0x41)
  else if 0x30 ≤ code && code ≤ 0x39 then some (code - 22)
  else none

/-- The character of a digit. -/
def digitCode (value : Nat) : Nat :=
  if value < 26 then value + 0x61 else value + 22

/-- The threshold of the digit at a place, counted from zero: digits below it are the last. -/
def threshold (place bias : Nat) : Nat :=
  min 26 (max 1 (36 * (place + 1) - bias))

theorem threshold_pos (place bias : Nat) : 1 ≤ threshold place bias := by
  simp only [threshold]; omega

theorem threshold_le (place bias : Nat) : threshold place bias ≤ 26 := by
  simp only [threshold]; omega

/-- Scale a number down until it is small, and count how often. -/
def scale (delta count : Nat) : Nat × Nat :=
  if 455 < delta then scale (delta / 35) (count + 1) else (delta, count)
termination_by delta

/-- The bias after a number, for so many characters. -/
def adapt (delta : Nat) (isFirst : Bool) (length : Nat) : Nat :=
  let delta := if isFirst then delta / 700 else delta / 2
  let (delta, count) := scale (delta + delta / length) 0
  36 * count + 36 * delta / (delta + 38)

/-- Read a number: it and the digits after it. -/
def readNumber (bias place weight number : Nat) : List Nat → Except LabelFault (Nat × List Nat)
  | [] => .error .numberBreaksOff
  | code :: rest =>
    match digitValue? code with
    | none => .error (.notADigit (Char.ofNat code))
    | some digit =>
      let least := threshold place bias
      let number := number + digit * weight
      if digit < least then .ok (number, rest)
      else readNumber bias (place + 1) (weight * (36 - least)) number rest

/-- Put characters into a text. `next` is the place after the last one that was put in. `fuel`
bounds the number of characters. -/
def insertAll (fuel : Nat) (isFirst : Bool) (bias next code : Nat) (text digits : List Nat) :
    Except LabelFault (List Nat) :=
  match fuel, digits with
  | 0, _ => .ok text
  | _, [] => .ok text
  | fuel + 1, digits => do
    let (delta, rest) ← readNumber bias 0 1 0 digits
    let place := next + delta
    let code := code + place / (text.length + 1)
    if 0x10ffff < code then throw (.codeTooLarge code)
    let place := place % (text.length + 1)
    let text := text.take place ++ code :: text.drop place
    insertAll fuel false (adapt delta isFirst text.length) (place + 1) code text rest

/-- Put the characters into the basic ones that the digits say. Small letters count as capitals. -/
def insertDigits (basic digits : List Nat) : Except LabelFault (List Nat) :=
  let capitals := digits.map fun code ↦ if 0x61 ≤ code && code ≤ 0x7a then code - 0x20 else code
  insertAll digits.length true 72 0 0x80 basic capitals

/-- What stands before the last hyphen, and what stands after it. -/
def splitLast (text : List Nat) : List Nat × List Nat :=
  let digits := (text.reverse.takeWhile (· != 0x2d)).reverse
  (text.take (text.length - digits.length - 1), digits)

/-- Read a text of ASCII characters. -/
def decode (text : List Nat) : Except LabelFault (List Nat) :=
  let (basic, digits) := splitLast text
  insertDigits basic digits

/-- The digits of a number. -/
def writeNumber (bias place number : Nat) : List Nat :=
  let least := threshold place bias
  if _h : number < least then [digitCode number]
  else
    digitCode (least + (number - least) % (36 - least)) ::
      writeNumber bias (place + 1) ((number - least) / (36 - least))
termination_by number
decreasing_by
  have := threshold_pos place bias
  have := Nat.div_le_self (number - threshold place bias) (36 - threshold place bias)
  omega

/-- The state of writing: the digits so far, how many places are passed over, the bias, and how many
characters are written. -/
structure Writing where
  digits : List Nat := []
  delta : Nat := 0
  bias : Nat := 72
  count : Nat
  isFirst : Bool := true

/-- Pass over a character of the text, or write it if it is the one whose turn it is. -/
def Writing.step (turn : Nat) (writing : Writing) (code : Nat) : Writing :=
  if code < turn then { writing with delta := writing.delta + 1 }
  else if code = turn then
    { digits := writing.digits ++ writeNumber writing.bias 0 writing.delta
      delta := 0
      bias := adapt writing.delta writing.isFirst (writing.count + 1)
      count := writing.count + 1
      isFirst := false }
  else writing

/-- The characters outside ASCII in ascending order, each once. -/
def others (text : List Nat) : List Nat :=
  ((text.filter (0x80 ≤ ·)).mergeSort (· ≤ ·)).eraseDups

/-- Write all characters outside ASCII, in their turn. -/
def writeAll (text : List Nat) (last : Nat) (writing : Writing) : List Nat → List Nat
  | [] => writing.digits
  | turn :: rest =>
    let start := { writing with delta := writing.delta + (turn - last) * (writing.count + 1) }
    let writing := text.foldl (Writing.step turn) start
    writeAll text (turn + 1) { writing with delta := writing.delta + 1 } rest

/-- Write a text in ASCII. -/
def encode (text : List Nat) : List Nat :=
  let basic := text.filter (· < 0x80)
  let digits := writeAll text 0x80 { count := basic.length } (others text)
  (if basic.isEmpty then [] else basic ++ [0x2d]) ++ digits

end Tabstave.Text.Punycode
