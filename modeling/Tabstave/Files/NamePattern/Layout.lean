import Tabstave.Files.NamePattern.Basic

/-!
# Laying out texts and numbers

A layout says which character fills how many places, on which side of what is laid out, and what is
made of it: how many characters of a text are kept, or how a number is written. `readSpec` reads a
layout; `layOutText` and `layOutNumber` follow it.

What is laid out is a `Laid`, in which the places to fill are only counted: a mistake further on in
a pattern is found before any of them is filled.
-/

namespace Tabstave.NamePattern

/-- Which side a text is moved to. -/
def isAlignment (c : Char) : Bool :=
  c == '<' || c == '>' || c == '=' || c == '^'

/-- How something is laid out. -/
structure Spec where
  fill : Char := ' '
  alignment : Char := '<'
  sign : Option Char := none
  zeroSign : Bool := false
  alternate : Bool := false
  width : Option Nat := none
  separator : Option Char := none
  precision : Option Nat := none
  code : Char := 's'
  deriving DecidableEq, Repr

/-- A number at the start of a text, and what follows it. -/
def takeNumber (text : List Char) : Except PatternFault (Option Nat × List Char) :=
  match text.takeWhile Text.isDecimalDigit with
  | [] => .ok (none, text)
  | digits => do
    return (← position? digits, text.dropWhile Text.isDecimalDigit)

/-- A character at the start of a text, if it is the given one. -/
def takeMark (mark : Char) : List Char → Bool × List Char
  | [] => (false, [])
  | c :: rest => if c == mark then (true, rest) else (false, c :: rest)

/-- The codes of layouts that admit separators of thousands. -/
def admitsSeparator (separator code : Char) : Bool :=
  ['d', 'e', 'f', 'g', 'E', 'G', '%', 'F', '\x00'].contains code ||
    (separator == '_' && ['b', 'o', 'x', 'X'].contains code)

/-- The part of a layout that says which character fills which side: the layout with it, whether the
character and the side were given, and what follows. -/
def takeFill (spec : Spec) : List Char → Spec × Bool × Bool × List Char
  | fill :: alignment :: rest =>
    if isAlignment alignment then
      ({ spec with fill := fill, alignment := alignment }, true, true, rest)
    else if isAlignment fill then ({ spec with alignment := fill }, false, true, alignment :: rest)
    else (spec, false, false, fill :: alignment :: rest)
  | [alignment] =>
    if isAlignment alignment then ({ spec with alignment := alignment }, false, true, [])
    else (spec, false, false, [alignment])
  | [] => (spec, false, false, [])

/-- What is laid out: a text or a number, by the name of its class. -/
structure Subject where
  type : String
  /-- The code that is meant if none is given. -/
  code : Char
  /-- The side that is meant if none is given. -/
  alignment : Char

/-- Texts go to the left. -/
def Subject.text : Subject :=
  ⟨"str", 's', '<'⟩

/-- Numbers go to the right. -/
def Subject.number (type : String) : Subject :=
  ⟨type, 'd', '>'⟩

/-- Read a layout. -/
def readSpec (subject : Subject) (text : List Char) : Except PatternFault Spec := do
  let (spec, filled, aligned, rest) := takeFill { alignment := subject.alignment } text
  let (sign, rest) := match rest with
    | c :: more => if c == ' ' || c == '+' || c == '-' then (some c, more) else (none, rest)
    | [] => (none, [])
  let (zeroSign, rest) := takeMark 'z' rest
  let (alternate, rest) := takeMark '#' rest
  let (zeros, rest) := if filled then (false, rest) else takeMark '0' rest
  let (width, rest) ← takeNumber rest
  let (comma, rest) := takeMark ',' rest
  let (underscore, rest) := takeMark '_' rest
  if underscore && (comma || rest.head? == some ',') then throw .bothSeparators
  let separator := if comma then some ',' else if underscore then some '_' else none
  let (point, rest) := takeMark '.' rest
  let (precision, rest) ← if point then takeNumber rest else pure (none, rest)
  if point && precision.isNone then throw .precisionMissing
  let code ← match rest with
    | [] => pure subject.code
    | [code] => pure code
    | _ => throw (.badSpec (String.ofList text) subject.type)
  match separator with
  | some separator =>
    if !admitsSeparator separator code then throw (.separatorNotAllowed separator code)
  | none => pure ()
  return {
    fill := if zeros then '0' else spec.fill
    alignment := if zeros && !aligned && subject.alignment == '>' then '=' else spec.alignment
    sign, zeroSign, alternate, width, separator, precision, code }

/-- Something laid out: a head and a body, and how many places are filled before the head, between
the two, and after the body. -/
structure Laid where
  fill : Char := ' '
  before : Nat := 0
  head : List Char := []
  between : Nat := 0
  body : List Char
  after : Nat := 0

/-- How many characters there are. -/
def Laid.length (laid : Laid) : Nat :=
  laid.before + laid.head.length + laid.between + laid.body.length + laid.after

/-- The characters. -/
def Laid.toList (laid : Laid) : List Char :=
  List.replicate laid.before laid.fill ++ laid.head ++ List.replicate laid.between laid.fill ++
    laid.body ++ List.replicate laid.after laid.fill

theorem Laid.length_toList (laid : Laid) : laid.toList.length = laid.length := by
  simp [Laid.toList, Laid.length]; omega

section Memory

variable (memory : Memory)

/-- Put a head and a body on their side. -/
def Spec.place (spec : Spec) (head body : List Char) : Except PatternFault Laid :=
  let room := (spec.width.getD 0) - (head.length + body.length)
  if room ≥ memory.refused then .error .outOfMemory
  else
    .ok (match spec.alignment with
      | '>' => { fill := spec.fill, before := room, head, body }
      | '^' =>
        { fill := spec.fill, before := room / 2, head, body, after := room - room / 2 }
      | '=' => { fill := spec.fill, head, between := room, body }
      | _ => { fill := spec.fill, head, body, after := room })

/-- What a layout for text may not ask for. -/
def Spec.checkText (spec : Spec) : Except PatternFault Unit := do
  if spec.code != 's' then throw (.unknownCode spec.code "str")
  match spec.sign with
  | some ' ' => throw .spaceNotAllowed
  | some _ => throw .signNotAllowed
  | none => pure ()
  if spec.zeroSign then throw .zeroSignNotAllowed
  if spec.alternate then throw .alternateNotAllowed
  if spec.alignment == '=' then throw .alignmentNotAllowed

/-- Lay out a text. -/
def layOutText (spec text : List Char) : Except PatternFault Laid :=
  if spec.isEmpty then .ok { body := text }
  else do
    let spec ← readSpec .text spec
    spec.checkText
    spec.place memory [] (match spec.precision with
      | some n => text.take n
      | none => text)

/-- Digits in groups of `size` from the right, filled up with zeros to at least so many places. The
digits are given from the right. -/
def groupDigits (size : Nat) (separator : Char) : Nat → Nat → List Char → List Char
  | 0, _, digits => digits
  | fuel + 1, places, digits =>
    let count := min size (max (max digits.length places) 1)
    let group := digits.take count ++ List.replicate (count - digits.length) '0'
    let rest := digits.drop size
    if rest.isEmpty && places ≤ count then group
    else group ++ separator :: groupDigits size separator fuel (places - count - 1) rest

/-- Write the sign, the digits and what follows them. -/
def Spec.placeNumber (spec : Spec) (negative : Bool) (lead digits tail : List Char) :
    Except PatternFault Laid :=
  if spec.width.getD 0 ≥ memory.refused then .error .outOfMemory
  else
    let sign := if negative then ['-'] else match spec.sign with
      | some '+' => ['+']
      | some ' ' => [' ']
      | _ => []
    let head := sign ++ lead
    let places :=
      if spec.fill == '0' && spec.alignment == '=' then
        spec.width.getD 0 - (head.length + tail.length)
      else 0
    let grouped := match digits, spec.separator with
      | [], _ => []
      | _, none => List.replicate (places - digits.length) '0' ++ digits
      | _, some separator =>
        let size := if ['b', 'o', 'x', 'X'].contains spec.code then 4 else 3
        (groupDigits size separator (digits.length + places) places digits.reverse).reverse
    spec.place memory head (grouped ++ tail)

/-- The digits of a number to a base, in capitals if asked for. -/
def digitsTo (base : Nat) (capital : Bool) (n : Nat) : List Char :=
  let digits := Nat.toDigits base n
  if capital then digits.map Char.toUpper else digits

/-- Write a number in whole digits to a base. -/
def layOutWhole (spec : Spec) (n : Int) (base : Nat) (lead : List Char) :
    Except PatternFault Laid := do
  if spec.precision.isSome then throw .precisionNotAllowed
  if spec.zeroSign then throw .zeroSignNotAllowedForNumber
  spec.placeNumber memory (n < 0) (if spec.alternate then lead else [])
    (digitsTo base (spec.code == 'X') n.natAbs) []

/-- Write the character that has a number. -/
def layOutCharacter (spec : Spec) (n : Int) : Except PatternFault Laid := do
  if spec.precision.isSome then throw .precisionNotAllowed
  if spec.zeroSign then throw .zeroSignNotAllowedForNumber
  if spec.sign.isSome then throw .signNotAllowedForCharacter
  if spec.alternate then throw .alternateNotAllowedForCharacter
  if n < 0 || 0x110000 ≤ n then throw .notACharacter
  match Text.character? n.toNat with
  | some c => spec.placeNumber memory false [] [] [c]
  | none => throw (.halfCharacter n.toNat)

/-- Round a quotient, a half to the even neighbour. -/
def roundQuotient (n d : Nat) : Nat :=
  let q := n / d
  let r := n % d
  if 2 * r < d || (2 * r = d && q % 2 = 0) then q else q + 1

/-- The leading digits of a number, so many of them, and the power of ten of the first. -/
def leadingDigits (count n : Nat) : List Char × Nat :=
  let length := (Nat.toDigits 10 n).length
  if length ≤ count then
    (Nat.toDigits 10 n ++ List.replicate (count - length) '0', length - 1)
  else
    let digits := Nat.toDigits 10 (roundQuotient n (Nat.pow 10 (length - count)))
    if digits.length > count then (digits.take count, length) else (digits, length - 1)

/-- The power of ten after a number. -/
def powerMark (mark : Char) (power : Nat) : List Char :=
  let digits := Nat.toDigits 10 power
  mark :: '+' :: List.replicate (2 - digits.length) '0' ++ digits

/-- A point, unless nothing follows it and it is not asked for. -/
def pointBefore (alternate : Bool) (digits : List Char) : List Char :=
  if digits.isEmpty && !alternate then [] else '.' :: digits

/-- Drop the zeros at the end. -/
def dropZeros (digits : List Char) : List Char :=
  (digits.reverse.dropWhile (· == '0')).reverse

/-- A precision that is too large to be asked for. -/
def maxPrecision : Nat :=
  Nat.pow 2 31 - 1

/-- Write a number with a point, or with a power of ten. Numbers that come up here have few digits,
so that they are exact. -/
def layOutDecimal (spec : Spec) (n : Int) : Except PatternFault Laid := do
  if spec.precision.getD 0 > maxPrecision then throw .precisionTooLarge
  let precision := spec.precision.getD 6
  let size := n.natAbs
  let (digits, tail) ←
    match spec.code with
    | 'f' | 'F' =>
      pure (Nat.toDigits 10 size, pointBefore spec.alternate (List.replicate precision '0'))
    | '%' =>
      pure (Nat.toDigits 10 (100 * size),
        pointBefore spec.alternate (List.replicate precision '0') ++ ['%'])
    | 'e' | 'E' =>
      let (digits, power) := leadingDigits (precision + 1) size
      pure (digits.take 1, pointBefore spec.alternate (digits.drop 1) ++ powerMark spec.code power)
    | code =>
      let precision := max precision 1
      let (digits, power) := leadingDigits precision size
      let shorten (digits : List Char) := if spec.alternate then digits else dropZeros digits
      if power < precision then
        pure (digits.take (power + 1),
          pointBefore spec.alternate (shorten (digits.drop (power + 1))))
      else
        pure (digits.take 1, pointBefore spec.alternate (shorten (digits.drop 1)) ++
          powerMark (if code == 'G' then 'E' else 'e') power)
  spec.placeNumber memory (n < 0) [] digits tail

/-- Lay out a number, which belongs to the class of this name. -/
def layOutNumber (type : String) (spec : List Char) (n : Int) : Except PatternFault Laid := do
  let spec ← readSpec (.number type) spec
  match spec.code with
  | 'd' | 'n' => layOutWhole memory spec n 10 []
  | 'b' => layOutWhole memory spec n 2 ['0', 'b']
  | 'o' => layOutWhole memory spec n 8 ['0', 'o']
  | 'x' => layOutWhole memory spec n 16 ['0', 'x']
  | 'X' => layOutWhole memory spec n 16 ['0', 'X']
  | 'c' => layOutCharacter memory spec n
  | 'e' | 'E' | 'f' | 'F' | 'g' | 'G' | '%' => layOutDecimal memory spec n
  | code => throw (.unknownCode code type)

end Memory

end Tabstave.NamePattern
