import Tabstave.Text.Encoding.Multibyte.Switching

/-!
# The encodings of East Asian texts

`Codec.decode` reads bytes in one of these encodings, and `Codec.name` is the name that messages
give it.
-/

namespace Tabstave.Text.Multibyte

/-- The encodings of East Asian texts. -/
inductive Codec
  | shiftedBasic
  | shiftedVendor
  | shiftedExtended (edition : Edition)
  | unixBasic
  | unixExtended (edition : Edition)
  | koreanUnix
  | koreanVendor
  | koreanComposed
  | simplified
  | extended
  | national
  | marked
  | traditional
  | traditionalVendor
  | traditionalHongKong
  | switchingKorean
  | switchingJapanese
  | switchingSupplement
  | switchingLanguages
  | switchingExtended (edition : Edition)
  | switchingKatakana
  deriving DecidableEq, Repr

namespace Codec

/-- Every encoding. -/
def all : List Codec :=
  [.shiftedBasic, .shiftedVendor, .shiftedExtended .first, .shiftedExtended .second, .unixBasic,
    .unixExtended .first, .unixExtended .second, .koreanUnix, .koreanVendor, .koreanComposed,
    .simplified, .extended, .national, .marked, .traditional, .traditionalVendor,
    .traditionalHongKong, .switchingKorean, .switchingJapanese, .switchingSupplement,
    .switchingLanguages, .switchingExtended .first, .switchingExtended .second, .switchingKatakana]

/-- The name of an encoding. -/
def name : Codec → String
  | .shiftedBasic => "shift_jis"
  | .shiftedVendor => "cp932"
  | .shiftedExtended .first => "shift_jisx0213"
  | .shiftedExtended .second => "shift_jis_2004"
  | .unixBasic => "euc_jp"
  | .unixExtended .first => "euc_jisx0213"
  | .unixExtended .second => "euc_jis_2004"
  | .koreanUnix => "euc_kr"
  | .koreanVendor => "cp949"
  | .koreanComposed => "johab"
  | .simplified => "gb2312"
  | .extended => "gbk"
  | .national => "gb18030"
  | .marked => "hz"
  | .traditional => "big5"
  | .traditionalVendor => "cp950"
  | .traditionalHongKong => "big5hkscs"
  | .switchingKorean => "iso2022_kr"
  | .switchingJapanese => "iso2022_jp"
  | .switchingSupplement => "iso2022_jp_1"
  | .switchingLanguages => "iso2022_jp_2"
  | .switchingExtended .first => "iso2022_jp_3"
  | .switchingExtended .second => "iso2022_jp_2004"
  | .switchingKatakana => "iso2022_jp_ext"

/-- The encoding of a name. -/
def ofName? (name : String) : Option Codec :=
  all.find? (·.name == name)

/-- An encoding is found by its name. -/
theorem ofName?_name (codec : Codec) : ofName? codec.name = some codec := by
  cases codec <;> try rfl
  all_goals rename_i edition; cases edition <;> rfl

/-- Read bytes. -/
def decode (codec : Codec) (bytes : List UInt8) : Except Flaw (List Char) :=
  let switching (switching : Switching) := run (switchingDecoder switching) {} 0 bytes
  match codec with
  | .shiftedBasic => run Multibyte.shiftedBasic () 0 bytes
  | .shiftedVendor => run Multibyte.shiftedVendor () 0 bytes
  | .shiftedExtended edition => run (Multibyte.shiftedExtended edition) () 0 bytes
  | .unixBasic => run Multibyte.unixBasic () 0 bytes
  | .unixExtended edition => run (Multibyte.unixExtended edition) () 0 bytes
  | .koreanUnix => run Multibyte.koreanUnix () 0 bytes
  | .koreanVendor => run Multibyte.koreanVendor () 0 bytes
  | .koreanComposed => run Multibyte.koreanComposed () 0 bytes
  | .simplified => run Multibyte.simplified () 0 bytes
  | .extended => run Multibyte.extended () 0 bytes
  | .national => run Multibyte.national () 0 bytes
  | .marked => run Multibyte.marked false 0 bytes
  | .traditional => run Multibyte.traditional () 0 bytes
  | .traditionalVendor => run Multibyte.traditionalVendor () 0 bytes
  | .traditionalHongKong => run Multibyte.traditionalHongKong () 0 bytes
  | .switchingKorean => switching Multibyte.switchingKorean
  | .switchingJapanese => switching Multibyte.switchingJapanese
  | .switchingSupplement => switching Multibyte.switchingSupplement
  | .switchingLanguages => switching Multibyte.switchingLanguages
  | .switchingExtended edition => switching (Multibyte.switchingExtended edition)
  | .switchingKatakana => switching Multibyte.switchingKatakana

end Codec

end Tabstave.Text.Multibyte
