import Tabstave.Text.Names
import Tabstave.Text.Utf8

/-!
# Escaped text

A backslash and the characters after it stand for a code point that may be hard to write; any other
byte stands for the code point of its number. In full escapes there are short forms for the common
controls, numbers to the base 8 and 16, and names. In raw escapes only numbers after `u` and `U`
mean anything, and every other backslash stands for itself. A number may be that of half a surrogate
pair.
-/

namespace Tabstave.Text.Escaped

/-- What follows a backslash. -/
inductive Escape
  /-- So many bytes are read as these code points. -/
  | read (size : Nat) (codes : List Nat)
  /-- So many bytes mean nothing, for this reason. -/
  | flaw (size : Nat) (reason : String)

/-- The value of a hexadecimal digit. -/
def hexValue? (byte : UInt8) : Option Nat :=
  let n := byte.toNat
  if 0x30 ≤ n && n ≤ 0x39 then some (n - 0x30)
  else if 0x41 ≤ n && n ≤ 0x46 then some (n - 0x37)
  else if 0x61 ≤ n && n ≤ 0x66 then some (n - 0x57)
  else none

/-- Read up to so many hexadecimal digits: how many there are, and the number. -/
def takeHex : Nat → Nat → List UInt8 → Nat × Nat
  | 0, number, _ => (0, number)
  | _, number, [] => (0, number)
  | count + 1, number, byte :: rest =>
    match hexValue? byte with
    | some digit =>
      let (size, number) := takeHex count (16 * number + digit) rest
      (size + 1, number)
    | none => (0, number)

/-- Read the digits of an escape that has so many of them. -/
def readHex (count : Nat) (mark : Char) (tooLarge : String) (bytes : List UInt8) : Escape :=
  let (size, number) := takeHex count 0 bytes
  if size < count then
    .flaw (size + 2)
      ("truncated \\" ++ String.ofList (mark :: List.replicate count 'X') ++ " escape")
  else if 0x110000 ≤ number then .flaw (size + 2) tooLarge
  else .read (size + 2) [number]

/-- Read up to three digits to the base 8. -/
def takeOctal : Nat → Nat → List UInt8 → Nat × Nat
  | 0, number, _ => (0, number)
  | _, number, [] => (0, number)
  | count + 1, number, byte :: rest =>
    if 0x30 ≤ byte && byte ≤ 0x37 then
      let (size, number) := takeOctal count (8 * number + (byte.toNat - 0x30)) rest
      (size + 1, number)
    else (0, number)

/-- Read a name in braces. -/
def readName : List UInt8 → Escape
  | 0x7b :: rest =>
    let name := rest.takeWhile (· != 0x7d)
    if name.length = rest.length then .flaw (name.length + 3) "malformed \\N character escape"
    else if name.isEmpty then .flaw 3 "malformed \\N character escape"
    else
      match Names.find? (String.ofList (name.map fun byte ↦ Char.ofNat byte.toNat)) with
      | some code => .read (name.length + 4) [code]
      | none => .flaw (name.length + 4) "unknown Unicode character name"
  | _ => .flaw 2 "malformed \\N character escape"

/-- The text of a short escape. -/
def short? : Char → Option (List Char)
  | '\n' => some []
  | '\\' => some ['\\']
  | '\'' => some ['\'']
  | '"' => some ['"']
  | 'a' => some ['\x07']
  | 'b' => some ['\x08']
  | 'f' => some ['\x0c']
  | 'n' => some ['\n']
  | 'r' => some ['\r']
  | 't' => some ['\t']
  | 'v' => some ['\x0b']
  | _ => none

/-- Read what follows a backslash. A letter that has no meaning leaves the backslash. -/
def readFull : List UInt8 → Escape
  | [] => .flaw 1 "\\ at end of string"
  | byte :: rest =>
    let c := Char.ofNat byte.toNat
    match short? c with
    | some text => .read 2 (codes text)
    | none =>
      if '0' ≤ c && c ≤ '7' then
        let (size, number) := takeOctal 3 0 (byte :: rest)
        .read (size + 1) [number]
      else if c == 'x' then readHex 2 'x' "" rest
      else if c == 'u' then readHex 4 'u' "" rest
      else if c == 'U' then readHex 8 'U' "illegal Unicode character" rest
      else if c == 'N' then readName rest
      else .read 2 (codes ['\\', c])

/-- Read what follows a backslash where only numbers mean anything. -/
def readRaw : List UInt8 → Escape
  | 0x75 :: rest => readHex 4 'u' "" rest
  | 0x55 :: rest => readHex 8 'U' "\\Uxxxxxxxx out of range" rest
  | byte :: _ => .read 2 [0x5c, byte.toNat]
  | [] => .read 1 [0x5c]

/-- Decode bytes from a position on, by what an escape stands for. -/
def decodeFrom (escape : List UInt8 → Escape) (position : Nat) :
    List UInt8 → Except Flaw (List Nat)
  | [] => .ok []
  | byte :: rest =>
    if byte = 0x5c then
      match escape rest with
      | .read size codes =>
        (decodeFrom escape (position + max size 1) (rest.drop (size - 1))).map (codes ++ ·)
      | .flaw size reason => .error ⟨position, position + size, reason⟩
    else
      (decodeFrom escape (position + 1) rest).map (byte.toNat :: ·)
termination_by bytes => bytes.length
decreasing_by all_goals simp only [List.length_drop, List.length_cons]; omega

/-- Decode text with full escapes. -/
def decode (bytes : List UInt8) : Except Flaw (List Nat) :=
  decodeFrom readFull 0 bytes

/-- Decode text with raw escapes. -/
def decodeRaw (bytes : List UInt8) : Except Flaw (List Nat) :=
  decodeFrom readRaw 0 bytes

end Tabstave.Text.Escaped
