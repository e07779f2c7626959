import Tabstave.Fault
import Tabstave.Text.Encoding.Escaped
import Tabstave.Text.Encoding.Label.Basic
import Tabstave.Text.Encoding.Multibyte.Codec
import Tabstave.Text.Encoding.Tables
import Tabstave.Text.Encoding.Utf7
import Tabstave.Text.Encoding.Wide

/-!
# Encodings of text files

`Encoding.ofName` finds an encoding by name. Case makes no difference, nor does which punctuation is
used, but a point is kept. `Encoding.decode` reads bytes in an encoding, or says which bytes mean
nothing in it. A byte order mark at the start is dropped by the encodings that expect one.

What bytes stand for are code points, since the encodings that write code points as numbers can
write half a surrogate pair. `textOf` takes code points for a text, unless they are none.
-/

namespace Tabstave.Text

/-- How the bytes of a file stand for characters. -/
inductive Encoding
  | utf8
  /-- UTF-8 whose byte order mark, if there is one, is dropped. -/
  | utf8Mark
  | ascii
  | latin1
  /-- Units of two bytes, in the given order or in the one that the byte order mark shows. -/
  | utf16 (order : Option Wide.ByteOrder)
  /-- Units of four bytes, in the given order or in the one that the byte order mark shows. -/
  | utf32 (order : Option Wide.ByteOrder)
  /-- One byte for each character, with these characters for the bytes. -/
  | codePage (characters : List Char)
  /-- One or more bytes for each character, depending on the first one. -/
  | multibyte (codec : Multibyte.Codec)
  | utf7
  /-- Backslashes begin escapes. -/
  | escaped
  /-- Backslashes begin escapes only before numbers. -/
  | rawEscaped
  /-- Characters of ASCII, and digits for the others. -/
  | punycode
  /-- The labels of a name. -/
  | label
  /-- No bytes mean anything. -/
  | undefined
  deriving DecidableEq, Repr

namespace Encoding

/-- A name in lower case, with an underscore for each run of other characters than letters, digits
and points. Such runs at the ends are dropped. -/
def normalize (started gap : Bool) : List Char → List Char
  | [] => []
  | c :: rest =>
    if ('a' ≤ c && c ≤ 'z') || ('A' ≤ c && c ≤ 'Z') || ('0' ≤ c && c ≤ '9') || c == '.' then
      let lower := if 'A' ≤ c && c ≤ 'Z' then Char.ofNat (c.toNat + 32) else c
      if gap && started then '_' :: lower :: normalize true false rest
      else lower :: normalize true false rest
    else normalize started true rest

/-- The characters of ASCII. -/
def asciiCharacters : List Char :=
  (List.range 0x80).map Char.ofNat

/-- The characters of a code page. -/
def codePageCharacters? (name : String) : Option (List Char) :=
  ((codePages.lookup name).map fun upper ↦ asciiCharacters ++ upper.toList).or
    ((wholeCodePages.lookup name).map String.toList)

/-- The encoding with exactly this name. -/
def known? : String → Option Encoding
  | "utf_8" => some .utf8
  | "utf_8_sig" => some .utf8Mark
  | "ascii" => some .ascii
  | "latin_1" => some .latin1
  | "utf_16" => some (.utf16 none)
  | "utf_16_le" => some (.utf16 (some .little))
  | "utf_16_be" => some (.utf16 (some .big))
  | "utf_32" => some (.utf32 none)
  | "utf_32_le" => some (.utf32 (some .little))
  | "utf_32_be" => some (.utf32 (some .big))
  | "utf_7" => some .utf7
  | "unicode_escape" => some .escaped
  | "raw_unicode_escape" => some .rawEscaped
  | "punycode" => some .punycode
  | "idna" => some .label
  | "undefined" => some .undefined
  | name =>
    ((codePageCharacters? name).map .codePage).or ((Multibyte.Codec.ofName? name).map .multibyte)

/-- The encoding of this name. -/
def ofName (name : String) : Except Fault Encoding :=
  if name.contains '\x00' then .error .nulInName
  else if name = "locale" then .ok .utf8
  else
    let plain := String.ofList (normalize false false name.toList)
    let underscored := String.ofList (plain.toList.map fun c ↦ if c == '.' then '_' else c)
    let canonical := ((encodingAliases.lookup plain).or (encodingAliases.lookup underscored)).getD plain
    match known? canonical with
    | some encoding => .ok encoding
    | none =>
      if byteTransforms.contains canonical then .error (.notATextEncoding name)
      else .error (.unknownEncoding name)

/-- The text of code points, which may not be halves of surrogate pairs. -/
def textOf (codes : List Nat) : Except Fault (List Char) :=
  match characters? codes with
  | some text => .ok text
  | none => .error (.halves codes)

/-- The fault of a flaw in these bytes. -/
def faultOf (codec : String) (bytes : List UInt8) (flaw : Flaw) : Fault :=
  .decode ⟨codec, bytes, flaw.start, flaw.stop, flaw.reason⟩

/-- Decode UTF-8. -/
def decodeUtf8 (bytes : List UInt8) : Except Fault (List Char) :=
  (Utf8.decode bytes).mapError (faultOf "utf-8" bytes)

/-- Decode one byte after the other from a position on. -/
def decodeBytes (char? : UInt8 → Option Char) (reason : String) (position : Nat) :
    List UInt8 → Except Flaw (List Char)
  | [] => .ok []
  | byte :: rest =>
    match char? byte with
    | some c => (decodeBytes char? reason (position + 1) rest).map (c :: ·)
    | none => .error ⟨position, position + 1, reason⟩

/-- The character of a byte in a code page. -/
def codePageChar? (characters : List Char) (byte : UInt8) : Option Char :=
  match characters[byte.toNat]? with
  | some c => if c = '\ufffd' then none else some c
  | none => none

/-- Decode units of several bytes. Without a given order and without a byte order mark the bytes are
read as they are usual on small machines, and then refused, unless there is nothing to read. -/
def decodeWide (name mark : String) (order shown : Option Wide.ByteOrder) (markSize : Nat)
    (decode : Wide.ByteOrder → Nat → List UInt8 → Except Flaw (List Char)) (bytes : List UInt8) :
    Except Fault (List Char) :=
  let read (order : Wide.ByteOrder) (skip : Nat) : Except Fault (List Char) :=
    (decode order skip (bytes.drop skip)).mapError (faultOf (name ++ order.suffix) bytes)
  match order, shown with
  | some order, _ => read order 0
  | none, some order => read order markSize
  | none, none => do
    let text ← read .little 0
    if text.isEmpty then return text else throw (.noByteOrderMark mark)

/-- The characters of bytes in ASCII. -/
def decodeAscii (bytes : List UInt8) : Except Fault (List Char) :=
  let char? (byte : UInt8) := if byte.toNat < 0x80 then some (Char.ofNat byte.toNat) else none
  (decodeBytes char? "ordinal not in range(128)" 0 bytes).mapError (faultOf "ascii" bytes)

/-- Decode characters of ASCII, the last hyphen, and digits for the others. -/
def decodePunycode (bytes : List UInt8) : Except Fault (List Nat) := do
  let digits := (bytes.reverse.takeWhile (· != 0x2d)).reverse
  let basic ← decodeAscii (bytes.take (bytes.length - digits.length - 1))
  let digits ← decodeAscii digits
  (Punycode.insertDigits (codes basic) (codes digits)).mapError .label

/-- Decode the labels of a name. -/
def decodeLabels (bytes : List UInt8) : Except Fault (List Nat) := do
  let name ← decodeAscii bytes
  if name.isEmpty then return []
  (Label.readName (codes name)).mapError .label

/-- Decode UTF-8 after its byte order mark, if there is one. A file that breaks off within the mark
counts as empty. -/
def decodeUtf8Mark (bytes : List UInt8) : Except Fault (List Char) :=
  if bytes.length < 3 && bytes.isPrefixOf Utf8.byteOrderMark then .ok []
  else if Utf8.byteOrderMark.isPrefixOf bytes then decodeUtf8 (bytes.drop 3)
  else decodeUtf8 bytes

/-- Decode bytes in a code page. -/
def decodeCodePage (characters : List Char) (bytes : List UInt8) : Except Fault (List Char) :=
  (decodeBytes (codePageChar? characters) "character maps to <undefined>" 0 bytes).mapError
    (faultOf "charmap" bytes)

/-- Decode bytes in an encoding whose characters have one or more bytes. -/
def decodeMultibyte (codec : Multibyte.Codec) (bytes : List UInt8) : Except Fault (List Char) :=
  (codec.decode bytes).mapError (faultOf codec.name bytes)

/-- Decode bytes to code points. -/
def decode (encoding : Encoding) (bytes : List UInt8) : Except Fault (List Nat) :=
  match encoding with
  | .utf8 => (decodeUtf8 bytes).map codes
  | .utf8Mark => (decodeUtf8Mark bytes).map codes
  | .ascii => (decodeAscii bytes).map codes
  | .latin1 => .ok (bytes.map UInt8.toNat)
  | .utf16 order =>
    (decodeWide "utf-16" "UTF-16" order (Wide.mark16? bytes) 2 Wide.decode16 bytes).map codes
  | .utf32 order =>
    (decodeWide "utf-32" "UTF-32" order (Wide.mark32? bytes) 4 Wide.decode32 bytes).map codes
  | .codePage characters => (decodeCodePage characters bytes).map codes
  | .multibyte codec => (decodeMultibyte codec bytes).map codes
  | .utf7 => (Utf7.decode bytes).mapError (faultOf "utf7" bytes)
  | .escaped => (Escaped.decode bytes).mapError (faultOf "unicodeescape" bytes)
  | .rawEscaped => (Escaped.decodeRaw bytes).mapError (faultOf "rawunicodeescape" bytes)
  | .punycode => decodePunycode bytes
  | .label => decodeLabels bytes
  | .undefined => .error .undefinedEncoding

end Encoding

end Tabstave.Text
