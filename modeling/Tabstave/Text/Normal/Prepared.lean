/-!
# Characters of prepared labels

Labels are compared in a prepared form, in which some characters are dropped, capitals and other
forms are replaced, and others may not occur. These are the tables of that form.
-/

namespace Tabstave.Text.Normal

/-- Characters that are dropped, by ranges. -/
def dropped : List (Nat × Nat) :=
  [(0xad, 0xad), (0x34f, 0x34f), (0x1806, 0x1806), (0x180b, 0x180d), (0x200b, 0x200d),
   (0x2060, 0x2060), (0xfe00, 0xfe0f), (0xfeff, 0xfeff)]

/-- Characters that may not occur, by ranges. -/
def prohibited : List (Nat × Nat) :=
  [(0x80, 0xa0), (0x340, 0x341), (0x6dd, 0x6dd), (0x70f, 0x70f), (0x1680, 0x1680),
   (0x180e, 0x180e), (0x2000, 0x200f), (0x2028, 0x202f), (0x205f, 0x2063), (0x206a, 0x206f),
   (0x2ff0, 0x2ffb), (0x3000, 0x3000), (0xd800, 0xf8ff), (0xfdd0, 0xfdef), (0xfeff, 0xfeff),
   (0xfff9, 0xffff), (0x1d173, 0x1d17a), (0x1fffe, 0x1ffff), (0x2fffe, 0x2ffff),
   (0x3fffe, 0x3ffff), (0x4fffe, 0x4ffff), (0x5fffe, 0x5ffff), (0x6fffe, 0x6ffff),
   (0x7fffe, 0x7ffff), (0x8fffe, 0x8ffff), (0x9fffe, 0x9ffff), (0xafffe, 0xaffff),
   (0xbfffe, 0xbffff), (0xcfffe, 0xcffff), (0xdfffe, 0xdffff), (0xe0001, 0xe0001),
   (0xe0020, 0xe007f), (0xefffe, 0x10ffff)]

/-- Characters that are written from right to left, by ranges. -/
def rightToLeft : List (Nat × Nat) :=
  [(0x5be, 0x5be), (0x5c0, 0x5c0), (0x5c3, 0x5c3), (0x5d0, 0x5ea), (0x5f0, 0x5f4), (0x61b, 0x61b),
   (0x61f, 0x61f), (0x621, 0x63a), (0x640, 0x64a), (0x66d, 0x66f), (0x671, 0x6d5), (0x6dd, 0x6dd),
   (0x6e5, 0x6e6), (0x6fa, 0x6fe), (0x700, 0x70d), (0x710, 0x710), (0x712, 0x72c), (0x780, 0x7a5),
   (0x7b1, 0x7b1), (0x200f, 0x200f), (0xfb1d, 0xfb1d), (0xfb1f, 0xfb28), (0xfb2a, 0xfb36),
   (0xfb38, 0xfb3c), (0xfb3e, 0xfb3e), (0xfb40, 0xfb41), (0xfb43, 0xfb44), (0xfb46, 0xfbb1),
   (0xfbd3, 0xfd3d), (0xfd50, 0xfd8f), (0xfd92, 0xfdc7), (0xfdf0, 0xfdfc), (0xfe70, 0xfe74),
   (0xfe76, 0xfefc)]

/-- Characters that are written from left to right, by ranges. -/
def leftToRight : List (Nat × Nat) :=
  [(0x41, 0x5a), (0x61, 0x7a), (0xaa, 0xaa), (0xb5, 0xb5), (0xba, 0xba), (0xc0, 0xd6),
   (0xd8, 0xf6), (0xf8, 0x220), (0x222, 0x233), (0x250, 0x2ad), (0x2b0, 0x2b8), (0x2bb, 0x2c1),
   (0x2d0, 0x2d1), (0x2e0, 0x2e4), (0x2ee, 0x2ee), (0x37a, 0x37a), (0x386, 0x386), (0x388, 0x38a),
   (0x38c, 0x38c), (0x38e, 0x3a1), (0x3a3, 0x3ce), (0x3d0, 0x3f5), (0x400, 0x482), (0x48a, 0x4ce),
   (0x4d0, 0x4f5), (0x4f8, 0x4f9), (0x500, 0x50f), (0x531, 0x556), (0x559, 0x55f), (0x561, 0x587),
   (0x589, 0x589), (0x903, 0x903), (0x905, 0x939), (0x93d, 0x940), (0x949, 0x94c), (0x950, 0x950),
   (0x958, 0x961), (0x964, 0x970), (0x982, 0x983), (0x985, 0x98c), (0x98f, 0x990), (0x993, 0x9a8),
   (0x9aa, 0x9b0), (0x9b2, 0x9b2), (0x9b6, 0x9b9), (0x9be, 0x9c0), (0x9c7, 0x9c8), (0x9cb, 0x9cc),
   (0x9d7, 0x9d7), (0x9dc, 0x9dd), (0x9df, 0x9e1), (0x9e6, 0x9f1), (0x9f4, 0x9fa), (0xa05, 0xa0a),
   (0xa0f, 0xa10), (0xa13, 0xa28), (0xa2a, 0xa30), (0xa32, 0xa33), (0xa35, 0xa36), (0xa38, 0xa39),
   (0xa3e, 0xa40), (0xa59, 0xa5c), (0xa5e, 0xa5e), (0xa66, 0xa6f), (0xa72, 0xa74), (0xa83, 0xa83),
   (0xa85, 0xa8b), (0xa8d, 0xa8d), (0xa8f, 0xa91), (0xa93, 0xaa8), (0xaaa, 0xab0), (0xab2, 0xab3),
   (0xab5, 0xab9), (0xabd, 0xac0), (0xac9, 0xac9), (0xacb, 0xacc), (0xad0, 0xad0), (0xae0, 0xae0),
   (0xae6, 0xaef), (0xb02, 0xb03), (0xb05, 0xb0c), (0xb0f, 0xb10), (0xb13, 0xb28), (0xb2a, 0xb30),
   (0xb32, 0xb33), (0xb36, 0xb39), (0xb3d, 0xb3e), (0xb40, 0xb40), (0xb47, 0xb48), (0xb4b, 0xb4c),
   (0xb57, 0xb57), (0xb5c, 0xb5d), (0xb5f, 0xb61), (0xb66, 0xb70), (0xb83, 0xb83), (0xb85, 0xb8a),
   (0xb8e, 0xb90), (0xb92, 0xb95), (0xb99, 0xb9a), (0xb9c, 0xb9c), (0xb9e, 0xb9f), (0xba3, 0xba4),
   (0xba8, 0xbaa), (0xbae, 0xbb5), (0xbb7, 0xbb9), (0xbbe, 0xbbf), (0xbc1, 0xbc2), (0xbc6, 0xbc8),
   (0xbca, 0xbcc), (0xbd7, 0xbd7), (0xbe7, 0xbf2), (0xc01, 0xc03), (0xc05, 0xc0c), (0xc0e, 0xc10),
   (0xc12, 0xc28), (0xc2a, 0xc33), (0xc35, 0xc39), (0xc41, 0xc44), (0xc60, 0xc61), (0xc66, 0xc6f),
   (0xc82, 0xc83), (0xc85, 0xc8c), (0xc8e, 0xc90), (0xc92, 0xca8), (0xcaa, 0xcb3), (0xcb5, 0xcb9),
   (0xcbe, 0xcbe), (0xcc0, 0xcc4), (0xcc7, 0xcc8), (0xcca, 0xccb), (0xcd5, 0xcd6), (0xcde, 0xcde),
   (0xce0, 0xce1), (0xce6, 0xcef), (0xd02, 0xd03), (0xd05, 0xd0c), (0xd0e, 0xd10), (0xd12, 0xd28),
   (0xd2a, 0xd39), (0xd3e, 0xd40), (0xd46, 0xd48), (0xd4a, 0xd4c), (0xd57, 0xd57), (0xd60, 0xd61),
   (0xd66, 0xd6f), (0xd82, 0xd83), (0xd85, 0xd96), (0xd9a, 0xdb1), (0xdb3, 0xdbb), (0xdbd, 0xdbd),
   (0xdc0, 0xdc6), (0xdcf, 0xdd1), (0xdd8, 0xddf), (0xdf2, 0xdf4), (0xe01, 0xe30), (0xe32, 0xe33),
   (0xe40, 0xe46), (0xe4f, 0xe5b), (0xe81, 0xe82), (0xe84, 0xe84), (0xe87, 0xe88), (0xe8a, 0xe8a),
   (0xe8d, 0xe8d), (0xe94, 0xe97), (0xe99, 0xe9f), (0xea1, 0xea3), (0xea5, 0xea5), (0xea7, 0xea7),
   (0xeaa, 0xeab), (0xead, 0xeb0), (0xeb2, 0xeb3), (0xebd, 0xebd), (0xec0, 0xec4), (0xec6, 0xec6),
   (0xed0, 0xed9), (0xedc, 0xedd), (0xf00, 0xf17), (0xf1a, 0xf34), (0xf36, 0xf36), (0xf38, 0xf38),
   (0xf3e, 0xf47), (0xf49, 0xf6a), (0xf7f, 0xf7f), (0xf85, 0xf85), (0xf88, 0xf8b), (0xfbe, 0xfc5),
   (0xfc7, 0xfcc), (0xfcf, 0xfcf), (0x1000, 0x1021), (0x1023, 0x1027), (0x1029, 0x102a),
   (0x102c, 0x102c), (0x1031, 0x1031), (0x1038, 0x1038), (0x1040, 0x1057), (0x10a0, 0x10c5),
   (0x10d0, 0x10f8), (0x10fb, 0x10fb), (0x1100, 0x1159), (0x115f, 0x11a2), (0x11a8, 0x11f9),
   (0x1200, 0x1206), (0x1208, 0x1246), (0x1248, 0x1248), (0x124a, 0x124d), (0x1250, 0x1256),
   (0x1258, 0x1258), (0x125a, 0x125d), (0x1260, 0x1286), (0x1288, 0x1288), (0x128a, 0x128d),
   (0x1290, 0x12ae), (0x12b0, 0x12b0), (0x12b2, 0x12b5), (0x12b8, 0x12be), (0x12c0, 0x12c0),
   (0x12c2, 0x12c5), (0x12c8, 0x12ce), (0x12d0, 0x12d6), (0x12d8, 0x12ee), (0x12f0, 0x130e),
   (0x1310, 0x1310), (0x1312, 0x1315), (0x1318, 0x131e), (0x1320, 0x1346), (0x1348, 0x135a),
   (0x1361, 0x137c), (0x13a0, 0x13f4), (0x1401, 0x1676), (0x1681, 0x169a), (0x16a0, 0x16f0),
   (0x1700, 0x170c), (0x170e, 0x1711), (0x1720, 0x1731), (0x1735, 0x1736), (0x1740, 0x1751),
   (0x1760, 0x176c), (0x176e, 0x1770), (0x1780, 0x17b6), (0x17be, 0x17c5), (0x17c7, 0x17c8),
   (0x17d4, 0x17da), (0x17dc, 0x17dc), (0x17e0, 0x17e9), (0x1810, 0x1819), (0x1820, 0x1877),
   (0x1880, 0x18a8), (0x1e00, 0x1e9b), (0x1ea0, 0x1ef9), (0x1f00, 0x1f15), (0x1f18, 0x1f1d),
   (0x1f20, 0x1f45), (0x1f48, 0x1f4d), (0x1f50, 0x1f57), (0x1f59, 0x1f59), (0x1f5b, 0x1f5b),
   (0x1f5d, 0x1f5d), (0x1f5f, 0x1f7d), (0x1f80, 0x1fb4), (0x1fb6, 0x1fbc), (0x1fbe, 0x1fbe),
   (0x1fc2, 0x1fc4), (0x1fc6, 0x1fcc), (0x1fd0, 0x1fd3), (0x1fd6, 0x1fdb), (0x1fe0, 0x1fec),
   (0x1ff2, 0x1ff4), (0x1ff6, 0x1ffc), (0x200e, 0x200e), (0x2071, 0x2071), (0x207f, 0x207f),
   (0x2102, 0x2102), (0x2107, 0x2107), (0x210a, 0x2113), (0x2115, 0x2115), (0x2119, 0x211d),
   (0x2124, 0x2124), (0x2126, 0x2126), (0x2128, 0x2128), (0x212a, 0x212d), (0x212f, 0x2131),
   (0x2133, 0x2139), (0x213d, 0x213f), (0x2145, 0x2149), (0x2160, 0x2183), (0x2336, 0x237a),
   (0x2395, 0x2395), (0x249c, 0x24e9), (0x3005, 0x3007), (0x3021, 0x3029), (0x3031, 0x3035),
   (0x3038, 0x303c), (0x3041, 0x3096), (0x309d, 0x309f), (0x30a1, 0x30fa), (0x30fc, 0x30ff),
   (0x3105, 0x312c), (0x3131, 0x318e), (0x3190, 0x31b7), (0x31f0, 0x321c), (0x3220, 0x3243),
   (0x3260, 0x327b), (0x327f, 0x32b0), (0x32c0, 0x32cb), (0x32d0, 0x32fe), (0x3300, 0x3376),
   (0x337b, 0x33dd), (0x33e0, 0x33fe), (0x3400, 0x4db5), (0x4e00, 0x9fa5), (0xa000, 0xa48c),
   (0xac00, 0xd7a3), (0xd800, 0xfa2d), (0xfa30, 0xfa6a), (0xfb00, 0xfb06), (0xfb13, 0xfb17),
   (0xff21, 0xff3a), (0xff41, 0xff5a), (0xff66, 0xffbe), (0xffc2, 0xffc7), (0xffca, 0xffcf),
   (0xffd2, 0xffd7), (0xffda, 0xffdc), (0x10300, 0x1031e), (0x10320, 0x10323), (0x10330, 0x1034a),
   (0x10400, 0x10425), (0x10428, 0x1044d), (0x1d000, 0x1d0f5), (0x1d100, 0x1d126),
   (0x1d12a, 0x1d166), (0x1d16a, 0x1d172), (0x1d183, 0x1d184), (0x1d18c, 0x1d1a9),
   (0x1d1ae, 0x1d1dd), (0x1d400, 0x1d454), (0x1d456, 0x1d49c), (0x1d49e, 0x1d49f),
   (0x1d4a2, 0x1d4a2), (0x1d4a5, 0x1d4a6), (0x1d4a9, 0x1d4ac), (0x1d4ae, 0x1d4b9),
   (0x1d4bb, 0x1d4bb), (0x1d4bd, 0x1d4c0), (0x1d4c2, 0x1d4c3), (0x1d4c5, 0x1d505),
   (0x1d507, 0x1d50a), (0x1d50d, 0x1d514), (0x1d516, 0x1d51c), (0x1d51e, 0x1d539),
   (0x1d53b, 0x1d53e), (0x1d540, 0x1d544), (0x1d546, 0x1d546), (0x1d54a, 0x1d550),
   (0x1d552, 0x1d6a3), (0x1d6a8, 0x1d7c9), (0x20000, 0x2a6d6), (0x2f800, 0x2fa1d),
   (0xf0000, 0xffffd), (0x100000, 0x10fffd)]

/-- Lines of a character and what it is replaced by. -/
def replacedTable : List String := [
  "Aa\nBb\nCc\nDd\nEe\nFf\nGg\nHh\nIi\nJj\nKk\nLl\nMm\nNn\nOo\nPp\nQq\nRr\nSs\nTt\nUu\nVv\nWw",
  "Xx\nYy\nZz\nµμ\nÀà\nÁá\nÂâ\nÃã\nÄä\nÅå\nÆæ\nÇç\nÈè\nÉé\nÊê\nËë\nÌì\nÍí\nÎî\nÏï\nÐð\nÑñ\nÒò",
  "Óó\nÔô\nÕõ\nÖö\nØø\nÙù\nÚú\nÛû\nÜü\nÝý\nÞþ\nßss\nĀā\nĂă\nĄą\nĆć\nĈĉ\nĊċ\nČč\nĎď\nĐđ\nĒē",
  "Ĕĕ\nĖė\nĘę\nĚě\nĜĝ\nĞğ\nĠġ\nĢģ\nĤĥ\nĦħ\nĨĩ\nĪī\nĬĭ\nĮį\nİi\u0307\nĲĳ\nĴĵ\nĶķ\nĹĺ\nĻļ\nĽľ",
  "Ŀŀ\nŁł\nŃń\nŅņ\nŇň\nŉʼn\nŊŋ\nŌō\nŎŏ\nŐő\nŒœ\nŔŕ\nŖŗ\nŘř\nŚś\nŜŝ\nŞş\nŠš\nŢţ\nŤť\nŦŧ\nŨũ",
  "Ūū\nŬŭ\nŮů\nŰű\nŲų\nŴŵ\nŶŷ\nŸÿ\nŹź\nŻż\nŽž\nſs\nƁɓ\nƂƃ\nƄƅ\nƆɔ\nƇƈ\nƉɖ\nƊɗ\nƋƌ\nƎǝ\nƏə\nƐɛ",
  "Ƒƒ\nƓɠ\nƔɣ\nƖɩ\nƗɨ\nƘƙ\nƜɯ\nƝɲ\nƟɵ\nƠơ\nƢƣ\nƤƥ\nƦʀ\nƧƨ\nƩʃ\nƬƭ\nƮʈ\nƯư\nƱʊ\nƲʋ\nƳƴ\nƵƶ\nƷʒ",
  "Ƹƹ\nƼƽ\nǄǆ\nǅǆ\nǇǉ\nǈǉ\nǊǌ\nǋǌ\nǍǎ\nǏǐ\nǑǒ\nǓǔ\nǕǖ\nǗǘ\nǙǚ\nǛǜ\nǞǟ\nǠǡ\nǢǣ\nǤǥ\nǦǧ\nǨǩ\nǪǫ",
  "Ǭǭ\nǮǯ\nǰj\u030c\nǱǳ\nǲǳ\nǴǵ\nǶƕ\nǷƿ\nǸǹ\nǺǻ\nǼǽ\nǾǿ\nȀȁ\nȂȃ\nȄȅ\nȆȇ\nȈȉ\nȊȋ\nȌȍ\nȎȏ\nȐȑ",
  "Ȓȓ\nȔȕ\nȖȗ\nȘș\nȚț\nȜȝ\nȞȟ\nȠƞ\nȢȣ\nȤȥ\nȦȧ\nȨȩ\nȪȫ\nȬȭ\nȮȯ\nȰȱ\nȲȳ\nȺⱥ\nȻȼ\nȽƚ\nȾⱦ\nɁɂ\nɃƀ",
  "Ʉʉ\nɅʌ\nɆɇ\nɈɉ\nɊɋ\nɌɍ\nɎɏ\n\u0345ι\nͰͱ\nͲͳ\nͶͷ\nͺ ι\nͿϳ\nΆά\nΈέ\nΉή\nΊί\nΌό\nΎύ\nΏώ",
  "ΐι\u0308\u0301\nΑα\nΒβ\nΓγ\nΔδ\nΕε\nΖζ\nΗη\nΘθ\nΙι\nΚκ\nΛλ\nΜμ\nΝν\nΞξ\nΟο\nΠπ\nΡρ\nΣσ\nΤτ",
  "Υυ\nΦφ\nΧχ\nΨψ\nΩω\nΪϊ\nΫϋ\nΰυ\u0308\u0301\nςσ\nϏϗ\nϐβ\nϑθ\nϒυ\nϓύ\nϔϋ\nϕφ\nϖπ\nϘϙ\nϚϛ\nϜϝ",
  "Ϟϟ\nϠϡ\nϢϣ\nϤϥ\nϦϧ\nϨϩ\nϪϫ\nϬϭ\nϮϯ\nϰκ\nϱρ\nϲσ\nϴθ\nϵε\nϷϸ\nϹσ\nϺϻ\nϽͻ\nϾͼ\nϿͽ\nЀѐ\nЁё\nЂђ",
  "Ѓѓ\nЄє\nЅѕ\nІі\nЇї\nЈј\nЉљ\nЊњ\nЋћ\nЌќ\nЍѝ\nЎў\nЏџ\nАа\nБб\nВв\nГг\nДд\nЕе\nЖж\nЗз\nИи\nЙй",
  "Кк\nЛл\nМм\nНн\nОо\nПп\nРр\nСс\nТт\nУу\nФф\nХх\nЦц\nЧч\nШш\nЩщ\nЪъ\nЫы\nЬь\nЭэ\nЮю\nЯя\nѠѡ",
  "Ѣѣ\nѤѥ\nѦѧ\nѨѩ\nѪѫ\nѬѭ\nѮѯ\nѰѱ\nѲѳ\nѴѵ\nѶѷ\nѸѹ\nѺѻ\nѼѽ\nѾѿ\nҀҁ\nҊҋ\nҌҍ\nҎҏ\nҐґ\nҒғ\nҔҕ\nҖҗ",
  "Ҙҙ\nҚқ\nҜҝ\nҞҟ\nҠҡ\nҢң\nҤҥ\nҦҧ\nҨҩ\nҪҫ\nҬҭ\nҮү\nҰұ\nҲҳ\nҴҵ\nҶҷ\nҸҹ\nҺһ\nҼҽ\nҾҿ\nӀӏ\nӁӂ\nӃӄ",
  "Ӆӆ\nӇӈ\nӉӊ\nӋӌ\nӍӎ\nӐӑ\nӒӓ\nӔӕ\nӖӗ\nӘә\nӚӛ\nӜӝ\nӞӟ\nӠӡ\nӢӣ\nӤӥ\nӦӧ\nӨө\nӪӫ\nӬӭ\nӮӯ\nӰӱ\nӲӳ",
  "Ӵӵ\nӶӷ\nӸӹ\nӺӻ\nӼӽ\nӾӿ\nԀԁ\nԂԃ\nԄԅ\nԆԇ\nԈԉ\nԊԋ\nԌԍ\nԎԏ\nԐԑ\nԒԓ\nԔԕ\nԖԗ\nԘԙ\nԚԛ\nԜԝ\nԞԟ\nԠԡ",
  "Ԣԣ\nԤԥ\nԦԧ\nԨԩ\nԪԫ\nԬԭ\nԮԯ\nԱա\nԲբ\nԳգ\nԴդ\nԵե\nԶզ\nԷէ\nԸը\nԹթ\nԺժ\nԻի\nԼլ\nԽխ\nԾծ\nԿկ\nՀհ",
  "Ձձ\nՂղ\nՃճ\nՄմ\nՅյ\nՆն\nՇշ\nՈո\nՉչ\nՊպ\nՋջ\nՌռ\nՍս\nՎվ\nՏտ\nՐր\nՑց\nՒւ\nՓփ\nՔք\nՕօ\nՖֆ",
  "ևեւ\nႠⴀ\nႡⴁ\nႢⴂ\nႣⴃ\nႤⴄ\nႥⴅ\nႦⴆ\nႧⴇ\nႨⴈ\nႩⴉ\nႪⴊ\nႫⴋ\nႬⴌ\nႭⴍ\nႮⴎ\nႯⴏ\nႰⴐ\nႱⴑ\nႲⴒ\nႳⴓ\nႴⴔ",
  "Ⴕⴕ\nႶⴖ\nႷⴗ\nႸⴘ\nႹⴙ\nႺⴚ\nႻⴛ\nႼⴜ\nႽⴝ\nႾⴞ\nႿⴟ\nჀⴠ\nჁⴡ\nჂⴢ\nჃⴣ\nჄⴤ\nჅⴥ\nჇⴧ\nჍⴭ\nᎠꭰ\nᎡꭱ\nᎢꭲ\nᎣꭳ",
  "Ꭴꭴ\nᎥꭵ\nᎦꭶ\nᎧꭷ\nᎨꭸ\nᎩꭹ\nᎪꭺ\nᎫꭻ\nᎬꭼ\nᎭꭽ\nᎮꭾ\nᎯꭿ\nᎰꮀ\nᎱꮁ\nᎲꮂ\nᎳꮃ\nᎴꮄ\nᎵꮅ\nᎶꮆ\nᎷꮇ\nᎸꮈ\nᎹꮉ\nᎺꮊ",
  "Ꮋꮋ\nᎼꮌ\nᎽꮍ\nᎾꮎ\nᎿꮏ\nᏀꮐ\nᏁꮑ\nᏂꮒ\nᏃꮓ\nᏄꮔ\nᏅꮕ\nᏆꮖ\nᏇꮗ\nᏈꮘ\nᏉꮙ\nᏊꮚ\nᏋꮛ\nᏌꮜ\nᏍꮝ\nᏎꮞ\nᏏꮟ\nᏐꮠ\nᏑꮡ",
  "Ꮢꮢ\nᏓꮣ\nᏔꮤ\nᏕꮥ\nᏖꮦ\nᏗꮧ\nᏘꮨ\nᏙꮩ\nᏚꮪ\nᏛꮫ\nᏜꮬ\nᏝꮭ\nᏞꮮ\nᏟꮯ\nᏠꮰ\nᏡꮱ\nᏢꮲ\nᏣꮳ\nᏤꮴ\nᏥꮵ\nᏦꮶ\nᏧꮷ\nᏨꮸ",
  "Ꮹꮹ\nᏪꮺ\nᏫꮻ\nᏬꮼ\nᏭꮽ\nᏮꮾ\nᏯꮿ\nᏰᏸ\nᏱᏹ\nᏲᏺ\nᏳᏻ\nᏴᏼ\nᏵᏽ\nᲐა\nᲑბ\nᲒგ\nᲓდ\nᲔე\nᲕვ\nᲖზ\nᲗთ\nᲘი\nᲙკ",
  "Ლლ\nᲛმ\nᲜნ\nᲝო\nᲞპ\nᲟჟ\nᲠრ\nᲡს\nᲢტ\nᲣუ\nᲤფ\nᲥქ\nᲦღ\nᲧყ\nᲨშ\nᲩჩ\nᲪც\nᲫძ\nᲬწ\nᲭჭ\nᲮხ\nᲯჯ\nᲰჰ",
  "Ჱჱ\nᲲჲ\nᲳჳ\nᲴჴ\nᲵჵ\nᲶჶ\nᲷჷ\nᲸჸ\nᲹჹ\nᲺჺ\nᲽჽ\nᲾჾ\nᲿჿ\nḀḁ\nḂḃ\nḄḅ\nḆḇ\nḈḉ\nḊḋ\nḌḍ\nḎḏ\nḐḑ\nḒḓ",
  "Ḕḕ\nḖḗ\nḘḙ\nḚḛ\nḜḝ\nḞḟ\nḠḡ\nḢḣ\nḤḥ\nḦḧ\nḨḩ\nḪḫ\nḬḭ\nḮḯ\nḰḱ\nḲḳ\nḴḵ\nḶḷ\nḸḹ\nḺḻ\nḼḽ\nḾḿ\nṀṁ",
  "Ṃṃ\nṄṅ\nṆṇ\nṈṉ\nṊṋ\nṌṍ\nṎṏ\nṐṑ\nṒṓ\nṔṕ\nṖṗ\nṘṙ\nṚṛ\nṜṝ\nṞṟ\nṠṡ\nṢṣ\nṤṥ\nṦṧ\nṨṩ\nṪṫ\nṬṭ\nṮṯ",
  "Ṱṱ\nṲṳ\nṴṵ\nṶṷ\nṸṹ\nṺṻ\nṼṽ\nṾṿ\nẀẁ\nẂẃ\nẄẅ\nẆẇ\nẈẉ\nẊẋ\nẌẍ\nẎẏ\nẐẑ\nẒẓ\nẔẕ\nẖh\u0331",
  "ẗt\u0308\nẘw\u030a\nẙy\u030a\nẚaʾ\nẛṡ\nẞss\nẠạ\nẢả\nẤấ\nẦầ\nẨẩ\nẪẫ\nẬậ\nẮắ\nẰằ\nẲẳ\nẴẵ\nẶặ",
  "Ẹẹ\nẺẻ\nẼẽ\nẾế\nỀề\nỂể\nỄễ\nỆệ\nỈỉ\nỊị\nỌọ\nỎỏ\nỐố\nỒồ\nỔổ\nỖỗ\nỘộ\nỚớ\nỜờ\nỞở\nỠỡ\nỢợ\nỤụ",
  "Ủủ\nỨứ\nỪừ\nỬử\nỮữ\nỰự\nỲỳ\nỴỵ\nỶỷ\nỸỹ\nỺỻ\nỼỽ\nỾỿ\nἈἀ\nἉἁ\nἊἂ\nἋἃ\nἌἄ\nἍἅ\nἎἆ\nἏἇ\nἘἐ\nἙἑ",
  "Ἒἒ\nἛἓ\nἜἔ\nἝἕ\nἨἠ\nἩἡ\nἪἢ\nἫἣ\nἬἤ\nἭἥ\nἮἦ\nἯἧ\nἸἰ\nἹἱ\nἺἲ\nἻἳ\nἼἴ\nἽἵ\nἾἶ\nἿἷ\nὈὀ\nὉὁ\nὊὂ",
  "Ὃὃ\nὌὄ\nὍὅ\nὐυ\u0313\nὒυ\u0313\u0300\nὔυ\u0313\u0301\nὖυ\u0313\u0342\nὙὑ\nὛὓ\nὝὕ\nὟὗ\nὨὠ",
  "Ὡὡ\nὪὢ\nὫὣ\nὬὤ\nὭὥ\nὮὦ\nὯὧ\nᾀἀι\nᾁἁι\nᾂἂι\nᾃἃι\nᾄἄι\nᾅἅι\nᾆἆι\nᾇἇι\nᾈἀι\nᾉἁι\nᾊἂι\nᾋἃι",
  "ᾌἄι\nᾍἅι\nᾎἆι\nᾏἇι\nᾐἠι\nᾑἡι\nᾒἢι\nᾓἣι\nᾔἤι\nᾕἥι\nᾖἦι\nᾗἧι\nᾘἠι\nᾙἡι\nᾚἢι\nᾛἣι\nᾜἤι\nᾝἥι",
  "ᾞἦι\nᾟἧι\nᾠὠι\nᾡὡι\nᾢὢι\nᾣὣι\nᾤὤι\nᾥὥι\nᾦὦι\nᾧὧι\nᾨὠι\nᾩὡι\nᾪὢι\nᾫὣι\nᾬὤι\nᾭὥι\nᾮὦι\nᾯὧι",
  "ᾲὰι\nᾳαι\nᾴάι\nᾶα\u0342\nᾷα\u0342ι\nᾸᾰ\nᾹᾱ\nᾺὰ\nΆά\nᾼαι\nιι\nῂὴι\nῃηι\nῄήι\nῆη\u0342",
  "ῇη\u0342ι\nῈὲ\nΈέ\nῊὴ\nΉή\nῌηι\nῒι\u0308\u0300\nΐι\u0308\u0301\nῖι\u0342\nῗι\u0308\u0342",
  "Ῐῐ\nῙῑ\nῚὶ\nΊί\nῢυ\u0308\u0300\nΰυ\u0308\u0301\nῤρ\u0313\nῦυ\u0342\nῧυ\u0308\u0342\nῨῠ\nῩῡ",
  "Ὺὺ\nΎύ\nῬῥ\nῲὼι\nῳωι\nῴώι\nῶω\u0342\nῷω\u0342ι\nῸὸ\nΌό\nῺὼ\nΏώ\nῼωι\n₨rs\nℂc\n℃°c\nℇɛ\n℉°f",
  "ℋh\nℌh\nℍh\nℐi\nℑi\nℒl\nℕn\n№no\nℙp\nℚq\nℛr\nℜr\nℝr\n℠sm\n℡tel\n™tm\nℤz\nΩω\nℨz\nKk\nÅå",
  "ℬb\nℭc\nℰe\nℱf\nℲⅎ\nℳm\nℾγ\nℿπ\nⅅd\nⅠⅰ\nⅡⅱ\nⅢⅲ\nⅣⅳ\nⅤⅴ\nⅥⅵ\nⅦⅶ\nⅧⅷ\nⅨⅸ\nⅩⅹ\nⅪⅺ\nⅫⅻ\nⅬⅼ\nⅭⅽ",
  "Ⅾⅾ\nⅯⅿ\nↃↄ\nⒶⓐ\nⒷⓑ\nⒸⓒ\nⒹⓓ\nⒺⓔ\nⒻⓕ\nⒼⓖ\nⒽⓗ\nⒾⓘ\nⒿⓙ\nⓀⓚ\nⓁⓛ\nⓂⓜ\nⓃⓝ\nⓄⓞ\nⓅⓟ\nⓆⓠ\nⓇⓡ\nⓈⓢ\nⓉⓣ",
  "Ⓤⓤ\nⓋⓥ\nⓌⓦ\nⓍⓧ\nⓎⓨ\nⓏⓩ\nⰀⰰ\nⰁⰱ\nⰂⰲ\nⰃⰳ\nⰄⰴ\nⰅⰵ\nⰆⰶ\nⰇⰷ\nⰈⰸ\nⰉⰹ\nⰊⰺ\nⰋⰻ\nⰌⰼ\nⰍⰽ\nⰎⰾ\nⰏⰿ\nⰐⱀ",
  "Ⱁⱁ\nⰒⱂ\nⰓⱃ\nⰔⱄ\nⰕⱅ\nⰖⱆ\nⰗⱇ\nⰘⱈ\nⰙⱉ\nⰚⱊ\nⰛⱋ\nⰜⱌ\nⰝⱍ\nⰞⱎ\nⰟⱏ\nⰠⱐ\nⰡⱑ\nⰢⱒ\nⰣⱓ\nⰤⱔ\nⰥⱕ\nⰦⱖ\nⰧⱗ",
  "Ⱘⱘ\nⰩⱙ\nⰪⱚ\nⰫⱛ\nⰬⱜ\nⰭⱝ\nⰮⱞ\nⰯⱟ\nⱠⱡ\nⱢɫ\nⱣᵽ\nⱤɽ\nⱧⱨ\nⱩⱪ\nⱫⱬ\nⱭɑ\nⱮɱ\nⱯɐ\nⱰɒ\nⱲⱳ\nⱵⱶ\nⱾȿ\nⱿɀ",
  "Ⲁⲁ\nⲂⲃ\nⲄⲅ\nⲆⲇ\nⲈⲉ\nⲊⲋ\nⲌⲍ\nⲎⲏ\nⲐⲑ\nⲒⲓ\nⲔⲕ\nⲖⲗ\nⲘⲙ\nⲚⲛ\nⲜⲝ\nⲞⲟ\nⲠⲡ\nⲢⲣ\nⲤⲥ\nⲦⲧ\nⲨⲩ\nⲪⲫ\nⲬⲭ",
  "Ⲯⲯ\nⲰⲱ\nⲲⲳ\nⲴⲵ\nⲶⲷ\nⲸⲹ\nⲺⲻ\nⲼⲽ\nⲾⲿ\nⳀⳁ\nⳂⳃ\nⳄⳅ\nⳆⳇ\nⳈⳉ\nⳊⳋ\nⳌⳍ\nⳎⳏ\nⳐⳑ\nⳒⳓ\nⳔⳕ\nⳖⳗ\nⳘⳙ\nⳚⳛ",
  "Ⳝⳝ\nⳞⳟ\nⳠⳡ\nⳢⳣ\nⳫⳬ\nⳭⳮ\nⳲⳳ\n㍱hpa\n㍳au\n㍵ov\n㎀pa\n㎁na\n㎂μa\n㎃ma\n㎄ka\n㎅kb\n㎆mb\n㎇gb\n㎊pf",
  "㎋nf\n㎌μf\n㎐hz\n㎑khz\n㎒mhz\n㎓ghz\n㎔thz\n㎩pa\n㎪kpa\n㎫mpa\n㎬gpa\n㎴pv\n㎵nv\n㎶μv\n㎷mv\n㎸kv\n㎹mv",
  "㎺pw\n㎻nw\n㎼μw\n㎽mw\n㎾kw\n㎿mw\n㏀kω\n㏁mω\n㏃bq\n㏆c∕kg\n㏇co.\n㏈db\n㏉gy\n㏋hp\n㏍kk\n㏎km\n㏗ph",
  "㏙ppm\n㏚pr\n㏜sv\n㏝wb\nꙀꙁ\nꙂꙃ\nꙄꙅ\nꙆꙇ\nꙈꙉ\nꙊꙋ\nꙌꙍ\nꙎꙏ\nꙐꙑ\nꙒꙓ\nꙔꙕ\nꙖꙗ\nꙘꙙ\nꙚꙛ\nꙜꙝ\nꙞꙟ\nꙠꙡ",
  "Ꙣꙣ\nꙤꙥ\nꙦꙧ\nꙨꙩ\nꙪꙫ\nꙬꙭ\nꚀꚁ\nꚂꚃ\nꚄꚅ\nꚆꚇ\nꚈꚉ\nꚊꚋ\nꚌꚍ\nꚎꚏ\nꚐꚑ\nꚒꚓ\nꚔꚕ\nꚖꚗ\nꚘꚙ\nꚚꚛ\nꜢꜣ\nꜤꜥ\nꜦꜧ",
  "Ꜩꜩ\nꜪꜫ\nꜬꜭ\nꜮꜯ\nꜲꜳ\nꜴꜵ\nꜶꜷ\nꜸꜹ\nꜺꜻ\nꜼꜽ\nꜾꜿ\nꝀꝁ\nꝂꝃ\nꝄꝅ\nꝆꝇ\nꝈꝉ\nꝊꝋ\nꝌꝍ\nꝎꝏ\nꝐꝑ\nꝒꝓ\nꝔꝕ\nꝖꝗ",
  "Ꝙꝙ\nꝚꝛ\nꝜꝝ\nꝞꝟ\nꝠꝡ\nꝢꝣ\nꝤꝥ\nꝦꝧ\nꝨꝩ\nꝪꝫ\nꝬꝭ\nꝮꝯ\nꝹꝺ\nꝻꝼ\nꝽᵹ\nꝾꝿ\nꞀꞁ\nꞂꞃ\nꞄꞅ\nꞆꞇ\nꞋꞌ\nꞍɥ\nꞐꞑ",
  "Ꞓꞓ\nꞖꞗ\nꞘꞙ\nꞚꞛ\nꞜꞝ\nꞞꞟ\nꞠꞡ\nꞢꞣ\nꞤꞥ\nꞦꞧ\nꞨꞩ\nꞪɦ\nꞫɜ\nꞬɡ\nꞭɬ\nꞮɪ\nꞰʞ\nꞱʇ\nꞲʝ\nꞳꭓ\nꞴꞵ\nꞶꞷ\nꞸꞹ",
  "Ꞻꞻ\nꞼꞽ\nꞾꞿ\nꟀꟁ\nꟂꟃ\nꟄꞔ\nꟅʂ\nꟆᶎ\nꟇꟈ\nꟉꟊ\nꟐꟑ\nꟖꟗ\nꟘꟙ\nꟵꟶ\nﬀff\nﬁfi\nﬂfl\nﬃffi\nﬄffl\nﬅst",
  "ﬆst\nﬓմն\nﬔմե\nﬕմի\nﬖվն\nﬗմխ\nＡａ\nＢｂ\nＣｃ\nＤｄ\nＥｅ\nＦｆ\nＧｇ\nＨｈ\nＩｉ\nＪｊ\nＫｋ\nＬｌ\nＭｍ\nＮｎ\nＯｏ",
  "Ｐｐ\nＱｑ\nＲｒ\nＳｓ\nＴｔ\nＵｕ\nＶｖ\nＷｗ\nＸｘ\nＹｙ\nＺｚ\n𐐀𐐨\n𐐁𐐩\n𐐂𐐪\n𐐃𐐫\n𐐄𐐬\n𐐅𐐭\n𐐆𐐮\n𐐇𐐯\n𐐈𐐰\n𐐉𐐱\n𐐊𐐲\n𐐋𐐳",
  "𐐌𐐴\n𐐍𐐵\n𐐎𐐶\n𐐏𐐷\n𐐐𐐸\n𐐑𐐹\n𐐒𐐺\n𐐓𐐻\n𐐔𐐼\n𐐕𐐽\n𐐖𐐾\n𐐗𐐿\n𐐘𐑀\n𐐙𐑁\n𐐚𐑂\n𐐛𐑃\n𐐜𐑄\n𐐝𐑅\n𐐞𐑆\n𐐟𐑇\n𐐠𐑈\n𐐡𐑉\n𐐢𐑊",
  "𐐣𐑋\n𐐤𐑌\n𐐥𐑍\n𐐦𐑎\n𐐧𐑏\n𐒰𐓘\n𐒱𐓙\n𐒲𐓚\n𐒳𐓛\n𐒴𐓜\n𐒵𐓝\n𐒶𐓞\n𐒷𐓟\n𐒸𐓠\n𐒹𐓡\n𐒺𐓢\n𐒻𐓣\n𐒼𐓤\n𐒽𐓥\n𐒾𐓦\n𐒿𐓧\n𐓀𐓨\n𐓁𐓩",
  "𐓂𐓪\n𐓃𐓫\n𐓄𐓬\n𐓅𐓭\n𐓆𐓮\n𐓇𐓯\n𐓈𐓰\n𐓉𐓱\n𐓊𐓲\n𐓋𐓳\n𐓌𐓴\n𐓍𐓵\n𐓎𐓶\n𐓏𐓷\n𐓐𐓸\n𐓑𐓹\n𐓒𐓺\n𐓓𐓻\n𐕰𐖗\n𐕱𐖘\n𐕲𐖙\n𐕳𐖚\n𐕴𐖛",
  "𐕵𐖜\n𐕶𐖝\n𐕷𐖞\n𐕸𐖟\n𐕹𐖠\n𐕺𐖡\n𐕼𐖣\n𐕽𐖤\n𐕾𐖥\n𐕿𐖦\n𐖀𐖧\n𐖁𐖨\n𐖂𐖩\n𐖃𐖪\n𐖄𐖫\n𐖅𐖬\n𐖆𐖭\n𐖇𐖮\n𐖈𐖯\n𐖉𐖰\n𐖊𐖱\n𐖌𐖳\n𐖍𐖴",
  "𐖎𐖵\n𐖏𐖶\n𐖐𐖷\n𐖑𐖸\n𐖒𐖹\n𐖔𐖻\n𐖕𐖼\n𐲀𐳀\n𐲁𐳁\n𐲂𐳂\n𐲃𐳃\n𐲄𐳄\n𐲅𐳅\n𐲆𐳆\n𐲇𐳇\n𐲈𐳈\n𐲉𐳉\n𐲊𐳊\n𐲋𐳋\n𐲌𐳌\n𐲍𐳍\n𐲎𐳎\n𐲏𐳏",
  "𐲐𐳐\n𐲑𐳑\n𐲒𐳒\n𐲓𐳓\n𐲔𐳔\n𐲕𐳕\n𐲖𐳖\n𐲗𐳗\n𐲘𐳘\n𐲙𐳙\n𐲚𐳚\n𐲛𐳛\n𐲜𐳜\n𐲝𐳝\n𐲞𐳞\n𐲟𐳟\n𐲠𐳠\n𐲡𐳡\n𐲢𐳢\n𐲣𐳣\n𐲤𐳤\n𐲥𐳥\n𐲦𐳦",
  "𐲧𐳧\n𐲨𐳨\n𐲩𐳩\n𐲪𐳪\n𐲫𐳫\n𐲬𐳬\n𐲭𐳭\n𐲮𐳮\n𐲯𐳯\n𐲰𐳰\n𐲱𐳱\n𐲲𐳲\n𑢠𑣀\n𑢡𑣁\n𑢢𑣂\n𑢣𑣃\n𑢤𑣄\n𑢥𑣅\n𑢦𑣆\n𑢧𑣇\n𑢨𑣈\n𑢩𑣉\n𑢪𑣊",
  "𑢫𑣋\n𑢬𑣌\n𑢭𑣍\n𑢮𑣎\n𑢯𑣏\n𑢰𑣐\n𑢱𑣑\n𑢲𑣒\n𑢳𑣓\n𑢴𑣔\n𑢵𑣕\n𑢶𑣖\n𑢷𑣗\n𑢸𑣘\n𑢹𑣙\n𑢺𑣚\n𑢻𑣛\n𑢼𑣜\n𑢽𑣝\n𑢾𑣞\n𑢿𑣟\n𖹀𖹠\n𖹁𖹡",
  "𖹂𖹢\n𖹃𖹣\n𖹄𖹤\n𖹅𖹥\n𖹆𖹦\n𖹇𖹧\n𖹈𖹨\n𖹉𖹩\n𖹊𖹪\n𖹋𖹫\n𖹌𖹬\n𖹍𖹭\n𖹎𖹮\n𖹏𖹯\n𖹐𖹰\n𖹑𖹱\n𖹒𖹲\n𖹓𖹳\n𖹔𖹴\n𖹕𖹵\n𖹖𖹶\n𖹗𖹷\n𖹘𖹸",
  "𖹙𖹹\n𖹚𖹺\n𖹛𖹻\n𖹜𖹼\n𖹝𖹽\n𖹞𖹾\n𖹟𖹿\n𝐀a\n𝐁b\n𝐂c\n𝐃d\n𝐄e\n𝐅f\n𝐆g\n𝐇h\n𝐈i\n𝐉j\n𝐊k\n𝐋l\n𝐌m\n𝐍n\n𝐎o\n𝐏p",
  "𝐐q\n𝐑r\n𝐒s\n𝐓t\n𝐔u\n𝐕v\n𝐖w\n𝐗x\n𝐘y\n𝐙z\n𝐴a\n𝐵b\n𝐶c\n𝐷d\n𝐸e\n𝐹f\n𝐺g\n𝐻h\n𝐼i\n𝐽j\n𝐾k\n𝐿l\n𝑀m",
  "𝑁n\n𝑂o\n𝑃p\n𝑄q\n𝑅r\n𝑆s\n𝑇t\n𝑈u\n𝑉v\n𝑊w\n𝑋x\n𝑌y\n𝑍z\n𝑨a\n𝑩b\n𝑪c\n𝑫d\n𝑬e\n𝑭f\n𝑮g\n𝑯h\n𝑰i\n𝑱j",
  "𝑲k\n𝑳l\n𝑴m\n𝑵n\n𝑶o\n𝑷p\n𝑸q\n𝑹r\n𝑺s\n𝑻t\n𝑼u\n𝑽v\n𝑾w\n𝑿x\n𝒀y\n𝒁z\n𝒜a\n𝒞c\n𝒟d\n𝒢g\n𝒥j\n𝒦k\n𝒩n",
  "𝒪o\n𝒫p\n𝒬q\n𝒮s\n𝒯t\n𝒰u\n𝒱v\n𝒲w\n𝒳x\n𝒴y\n𝒵z\n𝓐a\n𝓑b\n𝓒c\n𝓓d\n𝓔e\n𝓕f\n𝓖g\n𝓗h\n𝓘i\n𝓙j\n𝓚k\n𝓛l",
  "𝓜m\n𝓝n\n𝓞o\n𝓟p\n𝓠q\n𝓡r\n𝓢s\n𝓣t\n𝓤u\n𝓥v\n𝓦w\n𝓧x\n𝓨y\n𝓩z\n𝔄a\n𝔅b\n𝔇d\n𝔈e\n𝔉f\n𝔊g\n𝔍j\n𝔎k\n𝔏l",
  "𝔐m\n𝔑n\n𝔒o\n𝔓p\n𝔔q\n𝔖s\n𝔗t\n𝔘u\n𝔙v\n𝔚w\n𝔛x\n𝔜y\n𝔸a\n𝔹b\n𝔻d\n𝔼e\n𝔽f\n𝔾g\n𝕀i\n𝕁j\n𝕂k\n𝕃l\n𝕄m",
  "𝕆o\n𝕊s\n𝕋t\n𝕌u\n𝕍v\n𝕎w\n𝕏x\n𝕐y\n𝕬a\n𝕭b\n𝕮c\n𝕯d\n𝕰e\n𝕱f\n𝕲g\n𝕳h\n𝕴i\n𝕵j\n𝕶k\n𝕷l\n𝕸m\n𝕹n\n𝕺o",
  "𝕻p\n𝕼q\n𝕽r\n𝕾s\n𝕿t\n𝖀u\n𝖁v\n𝖂w\n𝖃x\n𝖄y\n𝖅z\n𝖠a\n𝖡b\n𝖢c\n𝖣d\n𝖤e\n𝖥f\n𝖦g\n𝖧h\n𝖨i\n𝖩j\n𝖪k\n𝖫l",
  "𝖬m\n𝖭n\n𝖮o\n𝖯p\n𝖰q\n𝖱r\n𝖲s\n𝖳t\n𝖴u\n𝖵v\n𝖶w\n𝖷x\n𝖸y\n𝖹z\n𝗔a\n𝗕b\n𝗖c\n𝗗d\n𝗘e\n𝗙f\n𝗚g\n𝗛h\n𝗜i",
  "𝗝j\n𝗞k\n𝗟l\n𝗠m\n𝗡n\n𝗢o\n𝗣p\n𝗤q\n𝗥r\n𝗦s\n𝗧t\n𝗨u\n𝗩v\n𝗪w\n𝗫x\n𝗬y\n𝗭z\n𝘈a\n𝘉b\n𝘊c\n𝘋d\n𝘌e\n𝘍f",
  "𝘎g\n𝘏h\n𝘐i\n𝘑j\n𝘒k\n𝘓l\n𝘔m\n𝘕n\n𝘖o\n𝘗p\n𝘘q\n𝘙r\n𝘚s\n𝘛t\n𝘜u\n𝘝v\n𝘞w\n𝘟x\n𝘠y\n𝘡z\n𝘼a\n𝘽b\n𝘾c",
  "𝘿d\n𝙀e\n𝙁f\n𝙂g\n𝙃h\n𝙄i\n𝙅j\n𝙆k\n𝙇l\n𝙈m\n𝙉n\n𝙊o\n𝙋p\n𝙌q\n𝙍r\n𝙎s\n𝙏t\n𝙐u\n𝙑v\n𝙒w\n𝙓x\n𝙔y\n𝙕z",
  "𝙰a\n𝙱b\n𝙲c\n𝙳d\n𝙴e\n𝙵f\n𝙶g\n𝙷h\n𝙸i\n𝙹j\n𝙺k\n𝙻l\n𝙼m\n𝙽n\n𝙾o\n𝙿p\n𝚀q\n𝚁r\n𝚂s\n𝚃t\n𝚄u\n𝚅v\n𝚆w",
  "𝚇x\n𝚈y\n𝚉z\n𝚨α\n𝚩β\n𝚪γ\n𝚫δ\n𝚬ε\n𝚭ζ\n𝚮η\n𝚯θ\n𝚰ι\n𝚱κ\n𝚲λ\n𝚳μ\n𝚴ν\n𝚵ξ\n𝚶ο\n𝚷π\n𝚸ρ\n𝚹θ\n𝚺σ\n𝚻τ",
  "𝚼υ\n𝚽φ\n𝚾χ\n𝚿ψ\n𝛀ω\n𝛓σ\n𝛢α\n𝛣β\n𝛤γ\n𝛥δ\n𝛦ε\n𝛧ζ\n𝛨η\n𝛩θ\n𝛪ι\n𝛫κ\n𝛬λ\n𝛭μ\n𝛮ν\n𝛯ξ\n𝛰ο\n𝛱π\n𝛲ρ",
  "𝛳θ\n𝛴σ\n𝛵τ\n𝛶υ\n𝛷φ\n𝛸χ\n𝛹ψ\n𝛺ω\n𝜍σ\n𝜜α\n𝜝β\n𝜞γ\n𝜟δ\n𝜠ε\n𝜡ζ\n𝜢η\n𝜣θ\n𝜤ι\n𝜥κ\n𝜦λ\n𝜧μ\n𝜨ν\n𝜩ξ",
  "𝜪ο\n𝜫π\n𝜬ρ\n𝜭θ\n𝜮σ\n𝜯τ\n𝜰υ\n𝜱φ\n𝜲χ\n𝜳ψ\n𝜴ω\n𝝇σ\n𝝖α\n𝝗β\n𝝘γ\n𝝙δ\n𝝚ε\n𝝛ζ\n𝝜η\n𝝝θ\n𝝞ι\n𝝟κ\n𝝠λ",
  "𝝡μ\n𝝢ν\n𝝣ξ\n𝝤ο\n𝝥π\n𝝦ρ\n𝝧θ\n𝝨σ\n𝝩τ\n𝝪υ\n𝝫φ\n𝝬χ\n𝝭ψ\n𝝮ω\n𝞁σ\n𝞐α\n𝞑β\n𝞒γ\n𝞓δ\n𝞔ε\n𝞕ζ\n𝞖η\n𝞗θ",
  "𝞘ι\n𝞙κ\n𝞚λ\n𝞛μ\n𝞜ν\n𝞝ξ\n𝞞ο\n𝞟π\n𝞠ρ\n𝞡θ\n𝞢σ\n𝞣τ\n𝞤υ\n𝞥φ\n𝞦χ\n𝞧ψ\n𝞨ω\n𝞻σ\n𞤀𞤢\n𞤁𞤣\n𞤂𞤤\n𞤃𞤥\n𞤄𞤦",
  "𞤅𞤧\n𞤆𞤨\n𞤇𞤩\n𞤈𞤪\n𞤉𞤫\n𞤊𞤬\n𞤋𞤭\n𞤌𞤮\n𞤍𞤯\n𞤎𞤰\n𞤏𞤱\n𞤐𞤲\n𞤑𞤳\n𞤒𞤴\n𞤓𞤵\n𞤔𞤶\n𞤕𞤷\n𞤖𞤸\n𞤗𞤹\n𞤘𞤺\n𞤙𞤻\n𞤚𞤼\n𞤛𞤽",
  "𞤜𞤾\n𞤝𞤿\n𞤞𞥀\n𞤟𞥁\n𞤠𞥂\n𞤡𞥃"]

end Tabstave.Text.Normal
