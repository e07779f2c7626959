import Tabstave.Text.Names.Ancient
import Tabstave.Text.Names.Asian
import Tabstave.Text.Names.European
import Tabstave.Text.Names.Gestures
import Tabstave.Text.Names.Indic
import Tabstave.Text.Names.Notation
import Tabstave.Text.Names.Operators
import Tabstave.Text.Names.Phonetic
import Tabstave.Text.Names.Pictographic
import Tabstave.Text.Names.Pictures
import Tabstave.Text.Names.Presentation
import Tabstave.Text.Names.Short
import Tabstave.Text.Names.Supplements
import Tabstave.Text.Names.Syllables
import Tabstave.Text.Names.Symbols

/-!
# Names of characters

`Names.find?` finds a character by its name, in letters of either case; it knows all names of
version 14 of the character database. The names of Chinese characters and of Korean syllables follow
a rule, and so do those that end in the number of the character. Those of all other characters are
kept in tables.
-/

namespace Tabstave.Text.Names

/-- The names of stretches of characters. -/
def stretches : List (Nat × String × List String) :=
  namesEuropean ++ namesIndic ++ namesAsian ++ namesPhonetic ++ namesOperators ++ namesSymbols ++
    namesSupplements ++ namesSyllables ++ namesPresentation ++ namesAncient ++ namesPictographic ++
    namesNotation ++ namesGestures ++ namesPictures ++ selectors

/-- The code point of a name in a stretch. It is given by the code point of the first character, by
how all names begin, and by how they go on one after the other, with semicolons between; nothing
stands for a code point without a name. -/
def findIn? (name : List Char) (stretch : Nat × String × List String) : Option Nat := do
  let (first, lead, lines) := stretch
  guard (lead.toList.isPrefixOf name)
  let rest := String.ofList (name.drop lead.length)
  guard !rest.isEmpty
  let place ← (lines.flatMap (·.splitOn ";")).idxOf? rest
  return first + place

/-- The initials of Korean syllables. -/
def initials : List String :=
  ["G", "GG", "N", "D", "DD", "R", "M", "B", "BB", "S", "SS", "", "J", "JJ", "C", "K", "T", "P", "H"]

/-- The vowels of Korean syllables. -/
def vowels : List String :=
  ["A", "AE", "YA", "YAE", "EO", "E", "YEO", "YE", "O", "WA", "WAE", "OE", "YO", "U", "WEO", "WE",
    "WI", "YU", "EU", "YI", "I"]

/-- The finals of Korean syllables. -/
def finals : List String :=
  ["", "G", "GG", "GS", "N", "NJ", "NH", "D", "L", "LG", "LM", "LB", "LS", "LT", "LP", "LH", "M",
    "B", "BS", "S", "SS", "NG", "J", "C", "K", "T", "P", "H"]

/-- The longest of some parts that a text begins with: its place and what follows it. -/
def takeLongest (parts : List String) (text : List Char) : Nat × List Char :=
  let fits := (List.range parts.length).filter fun i ↦ (parts.getD i "").toList.isPrefixOf text
  let length (i : Nat) : Nat := (parts.getD i "").length
  let best := fits.foldl (fun best i ↦ if length best < length i then i else best) (fits.headD 0)
  (best, text.drop (length best))

/-- The code point of a Korean syllable that is spelled so. -/
def syllable? (text : List Char) : Option Nat :=
  let (initial, rest) := takeLongest initials text
  let (vowel, afterVowel) := takeLongest vowels rest
  let (final, left) := takeLongest finals afterVowel
  if left.isEmpty && (vowels.getD vowel "").toList.isPrefixOf rest then
    some (0xac00 + (initial * 21 + vowel) * 28 + final)
  else none

/-- The ranges of Chinese characters that are named by their code points. -/
def ideographs : List (Nat × Nat) :=
  [(0x3400, 0x4dbf), (0x4e00, 0x9fff), (0x20000, 0x2a6df), (0x2a700, 0x2b738), (0x2b740, 0x2b81d),
    (0x2b820, 0x2cea1), (0x2ceb0, 0x2ebe0), (0x30000, 0x3134a)]

/-- A digit of a code point in a name. -/
def digit? (c : Char) : Option Nat :=
  if '0' ≤ c && c ≤ '9' then some (c.toNat - 0x30)
  else if 'A' ≤ c && c ≤ 'F' then some (c.toNat - 0x37)
  else none

/-- The code point that these digits make. -/
def codeOf? (digits : List Char) : Option Nat :=
  digits.foldlM (fun code c ↦ (digit? c).map (16 * code + ·)) 0

/-- The code point of a Chinese character that is named by these digits. -/
def ideograph? (digits : List Char) : Option Nat := do
  guard (digits.length = 4 || digits.length = 5)
  let code ← codeOf? digits
  guard (ideographs.any fun (first, last) ↦ first ≤ code && code ≤ last)
  return code

/-- What the names of Korean syllables begin with. -/
def syllableLead : List Char :=
  "HANGUL SYLLABLE ".toList

/-- What the names of Chinese characters begin with. -/
def ideographLead : List Char :=
  "CJK UNIFIED IDEOGRAPH-".toList

/-- How names begin that end in the number of the character, with the first and the last number. -/
def numbered : List (String × Nat × Nat) :=
  [("CJK COMPATIBILITY IDEOGRAPH-", 0xf900, 0xfa6d), ("CJK COMPATIBILITY IDEOGRAPH-", 0xfa70, 0xfad9),
    ("CJK COMPATIBILITY IDEOGRAPH-", 0x2f800, 0x2fa1d),
    ("KHITAN SMALL SCRIPT CHARACTER-", 0x18b00, 0x18cd5), ("NUSHU CHARACTER-", 0x1b170, 0x1b2fb)]

/-- The code point of a name that ends in it. -/
def findNumbered? (name : List Char) (range : String × Nat × Nat) : Option Nat := do
  let (lead, first, last) := range
  guard (lead.toList.isPrefixOf name)
  let digits := name.drop lead.length
  let code ← codeOf? digits
  guard (first ≤ code && code ≤ last && digits.head? != some '0')
  return code

/-- The code point of the character of a name. -/
def find? (name : String) : Option Nat :=
  let text := name.toList
  if syllableLead.isPrefixOf text then syllable? (text.drop syllableLead.length)
  else if ideographLead.isPrefixOf text then ideograph? (text.drop ideographLead.length)
  else
    let text := text.map Char.toUpper
    (stretches.findSome? (findIn? text)).or
      ((numbered.findSome? (findNumbered? text)).or (shortNames.lookup (String.ofList text)))

end Tabstave.Text.Names
