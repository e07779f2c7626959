import Tabstave.Text.Encoding.Label.Fault

/-!
# What can go wrong

Each way in which an operation can fail is a `Fault`, and `Fault.message` words it. Failures that
come from settings of the wrong type name the types involved, failures of the file system give the
number and the path, and failures to decode give the codec, the bytes and their position.

How long a text may get before it is refused is up to the `Memory` that there is.
-/

namespace Tabstave

/-- How long texts may get. A text can be asked for that is longer than any memory, by a number of
spaces or by a width. -/
structure Memory where
  /-- A text of this many characters is refused when it is asked for, even if nothing uses it. -/
  refused : Nat
  /-- A text of this many characters is too long to be put together from parts. -/
  crowded : Nat
  crowded_le_refused : crowded ≤ refused
  /-- There is room for the path of a file. -/
  room : 4096 ≤ crowded

/-- The memory of a machine with some gigabytes. -/
def Memory.usual : Memory where
  refused := Nat.pow 2 33
  crowded := Nat.pow 2 28
  crowded_le_refused := by decide
  room := by decide

/-- Why the file system refuses. -/
inductive FileFault
  | missing
  | denied
  | notADirectory
  | alreadyExists
  | isADirectory
  | nameTooLong
  deriving DecidableEq, Repr

/-- The number that the system gives the refusal. -/
def FileFault.number : FileFault → Nat
  | .missing => 2
  | .denied => 13
  | .alreadyExists => 17
  | .notADirectory => 20
  | .isADirectory => 21
  | .nameTooLong => 36

/-- The words for the refusal. -/
def FileFault.reason : FileFault → String
  | .missing => "No such file or directory"
  | .denied => "Permission denied"
  | .alreadyExists => "File exists"
  | .notADirectory => "Not a directory"
  | .isADirectory => "Is a directory"
  | .nameTooLong => "File name too long"

/-- Bytes that mean nothing in a codec: those from `start` up to `stop`, not included. -/
structure DecodeFault where
  codec : String
  bytes : List UInt8
  start : Nat
  stop : Nat
  reason : String
  deriving DecidableEq, Repr

/-- The wording of a failure to decode. -/
def DecodeFault.message (fault : DecodeFault) : String :=
  let lead := "'" ++ fault.codec ++ "' codec can't decode "
  match fault.bytes[fault.start]? with
  | some byte =>
    if fault.stop = fault.start + 1 then
      lead ++ "byte 0x" ++ String.ofList (Text.hex 2 byte.toNat) ++ " in position " ++
        toString fault.start ++ ": " ++ fault.reason
    else
      lead ++ "bytes in position " ++ toString fault.start ++ "-" ++ toString (fault.stop - 1) ++
        ": " ++ fault.reason
  | none =>
    lead ++ "bytes in position " ++ toString fault.start ++ "-" ++
      toString ((fault.stop : Int) - 1) ++ ": " ++ fault.reason

/-- The wording of a failure to write code points, some of which are halves of surrogate pairs. -/
def halvesMessage (codes : List Nat) : String :=
  let flaw := Text.Utf8.halvesFlaw codes
  let first := (codes.drop flaw.start).take (flaw.stop - flaw.start)
  "'utf-8' codec can't encode " ++
    (match first with
      | [_] =>
        "character '" ++ String.ofList (Text.escapeHalves first) ++ "' in position " ++
          toString flaw.start
      | _ => "characters in position " ++ toString flaw.start ++ "-" ++
        toString ((flaw.stop : Int) - 1)) ++
    ": " ++ flaw.reason

/-- What is wrong with the pattern of a file name. -/
inductive PatternFault
  /-- A brace that opens a field at the very end. -/
  | loneOpening
  /-- A brace that closes a field, outside a field. -/
  | loneClosing
  /-- The pattern ends within the name of a field. -/
  | unclosed
  /-- The pattern ends within the layout of a field. -/
  | unclosedSpec
  /-- A brace within the name of a field. -/
  | openingInName
  /-- An exclamation mark without a conversion after it. -/
  | conversionMissing
  /-- More than one character for a conversion. -/
  | conversionTooLong
  | unknownConversion (c : Char)
  /-- A point or a pair of brackets without anything after or in it. -/
  | emptyPart
  /-- Something other than a further part after a closing bracket. -/
  | strayAfterBracket
  | unknownField (name : String)
  /-- A field that is numbered, or has no name at all. -/
  | numberedField (index : Nat)
  | numberTooLarge
  /-- Fields within fields within fields. -/
  | tooDeep
  /-- A thing of this class has no member of this name. -/
  | noSuchPart (type name : String)
  /-- The class of this name has no member of this name. -/
  | noSuchClassPart (type name : String)
  /-- A member that has not been set. -/
  | unsetPart (name : String)
  | noSuchCharacter
  /-- A position beyond the last of several things. -/
  | noSuchItem
  /-- A key that is not there, as it is shown. -/
  | noSuchKey (shown : String)
  | notAPosition
  /-- A key where one of several things is picked by its position. -/
  | notATuplePosition
  /-- A thing of this class has no items. -/
  | notSubscriptable (type : String)
  /-- The class of this name cannot have anything in brackets. -/
  | classNotSubscriptable (type : String)
  /-- A class that has something in brackets already, as it is shown. -/
  | notGeneric (shown : String)
  /-- A thing of this class cannot be laid out. -/
  | layoutNotAllowed (type : String)
  | badSpec (spec type : String)
  | unknownCode (c : Char) (type : String)
  | signNotAllowed
  | spaceNotAllowed
  | zeroSignNotAllowed
  | alternateNotAllowed
  | alignmentNotAllowed
  | bothSeparators
  | separatorNotAllowed (separator code : Char)
  | precisionMissing
  | precisionNotAllowed
  | precisionTooLarge
  | zeroSignNotAllowedForNumber
  | signNotAllowedForCharacter
  | alternateNotAllowedForCharacter
  /-- A number that no character has. -/
  | notACharacter
  /-- The number of half a surrogate pair. -/
  | halfCharacter (code : Nat)
  /-- A text that is too long for the memory. -/
  | outOfMemory
  deriving DecidableEq, Repr

/-- Everything that can go wrong. -/
inductive Fault
  /-- A value of this type has no member of this name. -/
  | noMember (type member : String)
  /-- A value of this type has no elements to go through. -/
  | notIterable (type : String)
  /-- Two types without a common order. -/
  | unordered (operator left right : String)
  /-- Two types that cannot be subtracted. -/
  | cannotSubtract (left right : String)
  /-- Only a list can be added to a list. -/
  | cannotExtendList (type : String)
  /-- A value of this type cannot be a key. -/
  | unhashable (type : String)
  /-- The element at this index is no pair, since it has no elements. -/
  | elementNotASequence (index : Nat)
  /-- The element at this index has the wrong number of elements for a pair. -/
  | elementNotAPair (index length : Nat)
  /-- The unit of indentation cannot be repeated so many times. -/
  | repeatCount (type : String)
  | repeatTooOften
  /-- A value of this type cannot be the key of an object. -/
  | keyType (type : String)
  /-- A value of this type cannot be written. -/
  | notSerializable (type : String)
  /-- An extension of this type cannot be compared with the end of a name. -/
  | suffixType (type : String)
  /-- The item at this index cannot be listed in a message. -/
  | listedItem (index : Nat) (type : String)
  /-- The encoding is not given by a name. -/
  | encodingType (type : String)
  | unknownEncoding (name : String)
  | notATextEncoding (name : String)
  /-- The codec needs a byte order mark that is not there. -/
  | noByteOrderMark (codec : String)
  | decode (fault : DecodeFault)
  /-- A label or a text that is written in ASCII does not stand for a text. -/
  | label (fault : Text.LabelFault)
  /-- The encoding that nothing is written in. -/
  | undefinedEncoding
  /-- Code points that are no sequence of characters, since some are halves of surrogate pairs. -/
  | halves (codes : List Nat)
  | nulInPath
  | nulInName
  | file (fault : FileFault) (path : String)
  /-- There is nothing at the path of the source. -/
  | sourceMissing (path : String)
  /-- The source is something other than a file. -/
  | sourceNotAFile (path : String)
  /-- The name of the source has none of the extensions of a document. -/
  | notADocument (name : String) (extensions : String)
  /-- The contents of the source cannot be had. -/
  | sourceUnreadable (path : String) (reason : String)
  /-- There is no log level of this name. -/
  | noLevel (name : String)
  | unknownLevel (name : String)
  | levelNameType (type : String)
  | pattern (fault : PatternFault)
  /-- The configuration is no document of the language that it is written in. -/
  | malformedConfig
  /-- A number in the configuration has too many digits. -/
  | tooManyDigits (count : Nat)
  | badInteger (base : Nat) (text : String)
  | badNumber (text : String)
  | badDate (reason : String)
  | badCodePoint
  /-- A code point that is not even a number of the machine. -/
  | hugeCodePoint
  | badWord (text : String)
  /-- A whole number without any characters. -/
  | emptyNumber
  /-- A whole number that no binary number comes near. -/
  | tooLargeForBinary64
  /-- A time zone a day or more away, by so many minutes. -/
  | zoneTooFar (minutes : Int)
  /-- A collection where a date has to be written. -/
  | unwrittenDate
  /-- A collection that stands for the scalar that it holds, which is itself. -/
  | endlessScalar
  /-- A log level that is neither a number nor a text. -/
  | levelNotANumber (shown : String)
  /-- A whole number of too many digits to be written. -/
  | numberTooLong
  | outOfMemory

/-- A character in a message, or its number where it cannot be shown. -/
private def shownCode (last : Nat) (c : Char) : String :=
  if 0x20 < c.toNat && c.toNat < last then String.ofList [c]
  else "\\x" ++ String.ofList (Nat.toDigits 16 c.toNat)

/-- The wording of a fault in a pattern. -/
def PatternFault.message : PatternFault → String
  | .loneOpening => "Single '\x7b' encountered in format string"
  | .loneClosing => "Single '\x7d' encountered in format string"
  | .unclosed => "expected '\x7d' before end of string"
  | .unclosedSpec => "unmatched '\x7b' in format spec"
  | .openingInName => "unexpected '\x7b' in field name"
  | .conversionMissing => "end of string while looking for conversion specifier"
  | .conversionTooLong => "expected ':' after conversion specifier"
  | .unknownConversion c => "Unknown conversion specifier " ++ shownCode 0x7f c
  | .emptyPart => "Empty attribute in format string"
  | .strayAfterBracket => "Only '.' or '[' may follow ']' in format field specifier"
  | .unknownField name => Text.showString name
  | .numberedField index =>
    "Replacement index " ++ toString index ++ " out of range for positional args tuple"
  | .numberTooLarge => "Too many decimal digits in format string"
  | .tooDeep => "Max string recursion exceeded"
  | .noSuchPart type name => "'" ++ type ++ "' object has no attribute '" ++ name ++ "'"
  | .noSuchClassPart type name => "type object '" ++ type ++ "' has no attribute '" ++ name ++ "'"
  | .unsetPart name => name
  | .noSuchCharacter => "string index out of range"
  | .noSuchItem => "tuple index out of range"
  | .noSuchKey shown => shown
  | .notAPosition => "string indices must be integers, not 'str'"
  | .notATuplePosition => "tuple indices must be integers or slices, not str"
  | .notSubscriptable type => "'" ++ type ++ "' object is not subscriptable"
  | .classNotSubscriptable type => "type '" ++ type ++ "' is not subscriptable"
  | .notGeneric shown => shown ++ " is not a generic class"
  | .layoutNotAllowed type => "unsupported format string passed to " ++ type ++ ".__format__"
  | .badSpec spec type =>
    "Invalid format specifier '" ++ spec ++ "' for object of type '" ++ type ++ "'"
  | .unknownCode c type =>
    "Unknown format code '" ++ shownCode 0x80 c ++ "' for object of type '" ++ type ++ "'"
  | .signNotAllowed => "Sign not allowed in string format specifier"
  | .spaceNotAllowed => "Space not allowed in string format specifier"
  | .zeroSignNotAllowed =>
    "Negative zero coercion (z) not allowed in string format specifier"
  | .alternateNotAllowed => "Alternate form (#) not allowed in string format specifier"
  | .alignmentNotAllowed => "'=' alignment not allowed in string format specifier"
  | .bothSeparators => "Cannot specify both ',' and '_'."
  | .separatorNotAllowed separator code =>
    "Cannot specify '" ++ String.ofList [separator] ++ "' with '" ++ shownCode 0x80 code ++ "'."
  | .precisionMissing => "Format specifier missing precision"
  | .precisionNotAllowed => "Precision not allowed in integer format specifier"
  | .precisionTooLarge => "precision too big"
  | .zeroSignNotAllowedForNumber =>
    "Negative zero coercion (z) not allowed in integer format specifier"
  | .signNotAllowedForCharacter => "Sign not allowed with integer format specifier 'c'"
  | .alternateNotAllowedForCharacter =>
    "Alternate form (#) not allowed with integer format specifier 'c'"
  | .notACharacter => "%c arg not in range(0x110000)"
  | .halfCharacter code => halvesMessage [code]
  | .outOfMemory => ""

/-- A duration of whole minutes that is a day or longer, as messages show it. -/
def shownDuration (minutes : Int) : String :=
  let days := minutes.fdiv 1440
  let seconds := minutes.fmod 1440 * 60
  "datetime.timedelta(days=" ++ toString days ++
    (if seconds = 0 then "" else ", seconds=" ++ toString seconds) ++ ")"

/-- The wording of a fault. -/
def Fault.message : Fault → String
  | .noMember type member => "'" ++ type ++ "' object has no attribute '" ++ member ++ "'"
  | .notIterable type => "'" ++ type ++ "' object is not iterable"
  | .unordered operator left right =>
    "'" ++ operator ++ "' not supported between instances of '" ++ left ++ "' and '" ++ right ++ "'"
  | .cannotSubtract left right =>
    "unsupported operand type(s) for -: '" ++ left ++ "' and '" ++ right ++ "'"
  | .cannotExtendList type => "can only concatenate list (not \"" ++ type ++ "\") to list"
  | .unhashable type => "unhashable type: '" ++ type ++ "'"
  | .elementNotASequence index =>
    "cannot convert dictionary update sequence element #" ++ toString index ++ " to a sequence"
  | .elementNotAPair index length =>
    "dictionary update sequence element #" ++ toString index ++ " has length " ++ toString length ++
      "; 2 is required"
  | .repeatCount type => "can't multiply sequence by non-int of type '" ++ type ++ "'"
  | .repeatTooOften => "cannot fit 'int' into an index-sized integer"
  | .keyType type => "keys must be str, int, float, bool or None, not " ++ type
  | .notSerializable type => "Object of type <class '" ++ type ++ "'> is not JSON serializable"
  | .suffixType type => "endswith first arg must be str or a tuple of str, not " ++ type
  | .listedItem index type =>
    "sequence item " ++ toString index ++ ": expected str instance, " ++ type ++ " found"
  | .encodingType type => "open() argument 'encoding' must be str or None, not " ++ type
  | .unknownEncoding name => "unknown encoding: " ++ name
  | .notATextEncoding name =>
    "'" ++ name ++ "' is not a text encoding; use codecs.open() to handle arbitrary codecs"
  | .noByteOrderMark codec => codec ++ " stream does not start with BOM"
  | .decode fault => fault.message
  | .label fault => fault.message
  | .undefinedEncoding => "undefined encoding"
  | .halves codes => halvesMessage codes
  | .nulInPath => "embedded null byte"
  | .nulInName => "embedded null character"
  | .file fault path =>
    "[Errno " ++ toString fault.number ++ "] " ++ fault.reason ++ ": " ++ Text.showString path
  | .sourceMissing path => "Source file not found: " ++ path
  | .sourceNotAFile path => "Source path is not a file: " ++ path
  | .notADocument name extensions =>
    "Not a VexTab document: " ++ name ++ " (expected one of " ++ extensions ++ ")"
  | .sourceUnreadable path reason => "Failed to read " ++ path ++ ": " ++ reason
  | .noLevel name => "module 'logging' has no attribute '" ++ name ++ "'"
  | .unknownLevel name => "Unknown level: " ++ Text.showString name
  | .levelNameType type => "attribute name must be string, not '" ++ type ++ "'"
  | .pattern fault => fault.message
  | .malformedConfig => ""
  | .tooManyDigits count =>
    "Exceeds the limit (4300 digits) for integer string conversion: value has " ++ toString count ++
      " digits; use sys.set_int_max_str_digits() to increase the limit"
  | .badInteger base text =>
    "invalid literal for int() with base " ++ toString base ++ ": " ++
      String.ofList ((Text.showString text).toList.take 200)
  | .badNumber text => "could not convert string to float: " ++ Text.showString text
  | .badDate reason => reason
  | .badCodePoint => "chr() arg not in range(0x110000)"
  | .hugeCodePoint => "Python int too large to convert to C int"
  | .badWord text => Text.showString text
  | .emptyNumber => "string index out of range"
  | .tooLargeForBinary64 => "int too large to convert to float"
  | .zoneTooFar minutes =>
    "offset must be a timedelta strictly between -timedelta(hours=24) and timedelta(hours=24), not " ++
      shownDuration minutes ++ "."
  | .unwrittenDate => "expected string or bytes-like object, got 'list'"
  | .endlessScalar => "maximum recursion depth exceeded"
  | .levelNotANumber shown => "Level not an integer or a valid string: " ++ shown
  | .numberTooLong =>
    "Exceeds the limit (4300 digits) for integer string conversion; use " ++
      "sys.set_int_max_str_digits() to increase the limit"
  | .outOfMemory => ""

end Tabstave
