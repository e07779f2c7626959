import Tabstave.Number.Binary64
import Tabstave.Text.Blank

/-!
# Reading numbers

The written forms of numbers that people type: white space around the number is skipped, digits may
be of any script, and single underscores may separate digits. A whole number of more than 4300
digits is refused.

Each script that writes numbers by position has ten consecutive digits, so the zeros determine the
digits. `Text.digitValue?` reads one of them; for ASCII digits `Text.digitValue?_ascii` gives the
value.
-/

namespace Tabstave

namespace Text

/-- The code point of the digit zero of each script. -/
def zeroDigits : List Nat :=
  [0x30, 0x660, 0x6f0, 0x7c0, 0x966, 0x9e6, 0xa66, 0xae6, 0xb66, 0xbe6, 0xc66, 0xce6, 0xd66,
   0xde6, 0xe50, 0xed0, 0xf20, 0x1040, 0x1090, 0x17e0, 0x1810, 0x1946, 0x19d0, 0x1a80, 0x1a90,
   0x1b50, 0x1bb0, 0x1c40, 0x1c50, 0xa620, 0xa8d0, 0xa900, 0xa9d0, 0xa9f0, 0xaa50, 0xabf0, 0xff10,
   0x104a0, 0x10d30, 0x11066, 0x110f0, 0x11136, 0x111d0, 0x112f0, 0x11450, 0x114d0, 0x11650,
   0x116c0, 0x11730, 0x118e0, 0x11950, 0x11c50, 0x11d50, 0x11da0, 0x16a60, 0x16ac0, 0x16b50,
   0x1d7ce, 0x1d7d8, 0x1d7e2, 0x1d7ec, 0x1d7f6, 0x1e140, 0x1e2f0, 0x1e950, 0x1fbf0]

/-- The value of a decimal digit, of whatever script. -/
def digitValue? (c : Char) : Option Nat :=
  (zeroDigits.find? fun start ↦ start ≤ c.toNat && c.toNat < start + 10).map (c.toNat - ·)

/-- Whether a character is a decimal digit of some script. -/
def isDecimalDigit (c : Char) : Bool :=
  (digitValue? c).isSome

/-- An ASCII digit stands for its distance from `0`. -/
theorem digitValue?_ascii {c : Char} (lower : 0x30 ≤ c.toNat) (upper : c.toNat < 0x3a) :
    digitValue? c = some (c.toNat - 0x30) := by
  simp [digitValue?, zeroDigits, lower, upper]

end Text

namespace Number

/-- White space that may stand around a number: all but the controls that separate records. -/
def isPadding (c : Char) : Bool :=
  Text.isSpace c && !(0x1c ≤ c.toNat && c.toNat ≤ 0x1f)

/-- The text without white space at either end. -/
def trim (text : List Char) : List Char :=
  ((text.dropWhile isPadding).reverse.dropWhile isPadding).reverse

/-- A sign, if the text starts with one: whether it is a minus, and the rest. -/
def takeSign : List Char → Bool × List Char
  | '-' :: rest => (true, rest)
  | '+' :: rest => (false, rest)
  | text => (false, text)

/-- The value of a digit in a base: a decimal digit of any script, or from ten on an ASCII letter.
-/
def digitIn? (base : Nat) (c : Char) : Option Nat :=
  let value :=
    if 'a' ≤ c && c ≤ 'z' then some (c.toNat - 0x61 + 10)
    else if 'A' ≤ c && c ≤ 'Z' then some (c.toNat - 0x41 + 10)
    else Text.digitValue? c
  value.filter (· < base)

/-- The values of a run of digits with single underscores between them, and what follows the run.
`afterDigit` says whether a digit came directly before. -/
def takeDigits (base : Nat) (afterDigit : Bool) : List Char → List Nat × List Char
  | [] => ([], [])
  | c :: rest =>
    match digitIn? base c with
    | some d =>
      let (digits, rest) := takeDigits base true rest
      (d :: digits, rest)
    | none =>
      if c == '_' && afterDigit && (rest.head?.any fun d ↦ (digitIn? base d).isSome) then
        takeDigits base false rest
      else ([], c :: rest)

/-- The number with these digits. -/
def ofDigitValues (base : Nat) (digits : List Nat) : Nat :=
  digits.foldl (fun n d ↦ base * n + d) 0

/-- The most decimal digits that a whole number may have. -/
def maxDigits : Nat :=
  4300

/-- The letter that marks digits of a base, after a zero. -/
def baseMark? : Nat → Option Char
  | 2 => some 'b'
  | 8 => some 'o'
  | 16 => some 'x'
  | _ => none

/-- The lower case form of an ASCII letter. -/
def lowerAscii (c : Char) : Char :=
  if 'A' ≤ c && c ≤ 'Z' then Char.ofNat (c.toNat + 32) else c

/-- Digits without the mark of their base, which an underscore may follow. -/
def dropBaseMark (base : Nat) (text : List Char) : List Char :=
  match text with
  | zero :: mark :: rest =>
    if Text.digitValue? zero == some 0 && some (lowerAscii mark) == baseMark? base then
      if rest.head? == some '_' then rest.drop 1 else rest
    else text
  | _ => text

/-- What comes of reading a whole number. -/
inductive IntReading
  | number (n : Int)
  /-- The decimal digits are too many. -/
  | tooManyDigits (count : Nat)
  | malformed
  deriving DecidableEq, Repr

/-- Read a whole number in a base. -/
def readInt (base : Nat) (text : List Char) : IntReading :=
  let (negative, unsigned) := takeSign (text.dropWhile isPadding)
  let (digits, rest) := takeDigits base false (dropBaseMark base unsigned)
  if digits.isEmpty || rest.head? == some '_' then .malformed
  else if base = 10 && maxDigits < digits.length then .tooManyDigits digits.length
  else if (rest.dropWhile isPadding).isEmpty then
    let n := ofDigitValues base digits
    .number (if negative then -(n : Int) else n)
  else .malformed

/-- Read a whole number in decimal digits. -/
def int? (text : List Char) : Option Int :=
  match readInt 10 text with
  | .number n => some n
  | _ => none

/-- An exponent with its sign; no exponent at all counts as zero. -/
def exponent? : List Char → Option Int
  | [] => some 0
  | mark :: rest =>
    if mark == 'e' || mark == 'E' then
      let (negative, unsigned) := takeSign rest
      match takeDigits 10 false unsigned with
      | ([], _) => none
      | (digits, []) =>
        some (if negative then -(ofDigitValues 10 digits : Nat) else (ofDigitValues 10 digits : Nat))
      | _ => none
    else none

/-- Read an unsigned decimal: digits, a point and digits, and an exponent. One of the runs of digits
may be missing. -/
def decimal? (negative : Bool) (text : List Char) : Option Binary64 :=
  let (whole, rest) := takeDigits 10 false text
  let (fraction, rest) := match rest with
    | '.' :: rest => takeDigits 10 false rest
    | rest => ([], rest)
  if whole.isEmpty && fraction.isEmpty then none
  else (exponent? rest).map fun exponent ↦
    .ofDecimal negative (ofDigitValues 10 (whole ++ fraction)) (exponent - fraction.length)

/-- Read a number of the binary format: a decimal, an infinity, or the word for no number. -/
def binary64? (text : List Char) : Option Binary64 :=
  let (negative, unsigned) := takeSign (trim text)
  let word := String.ofList (unsigned.map lowerAscii)
  if word = "inf" || word = "infinity" then some (.infinite negative)
  else if word = "nan" then some .nan
  else decimal? negative unsigned

end Number

end Tabstave
