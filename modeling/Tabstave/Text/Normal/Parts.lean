/-!
# What characters are made of

A character may be a form of other characters, or be put together from a character and a mark. The
tables hold lines of a character and what it stands for.
-/

namespace Tabstave.Text.Normal

/-- Characters and the parts into which they are taken apart. -/
def partsTable : List String := [
  "\u00a0 \n¨ \u0308\nªa\n¯ \u0304\n²2\n³3\n´ \u0301\nµμ\n¸ \u0327\n¹1\nºo\n¼1⁄4\n½1⁄2\n¾3⁄4",
  "ÀA\u0300\nÁA\u0301\nÂA\u0302\nÃA\u0303\nÄA\u0308\nÅA\u030a\nÇC\u0327\nÈE\u0300\nÉE\u0301",
  "ÊE\u0302\nËE\u0308\nÌI\u0300\nÍI\u0301\nÎI\u0302\nÏI\u0308\nÑN\u0303\nÒO\u0300\nÓO\u0301",
  "ÔO\u0302\nÕO\u0303\nÖO\u0308\nÙU\u0300\nÚU\u0301\nÛU\u0302\nÜU\u0308\nÝY\u0301\nàa\u0300",
  "áa\u0301\nâa\u0302\nãa\u0303\näa\u0308\nåa\u030a\nçc\u0327\nèe\u0300\née\u0301\nêe\u0302",
  "ëe\u0308\nìi\u0300\níi\u0301\nîi\u0302\nïi\u0308\nñn\u0303\nòo\u0300\nóo\u0301\nôo\u0302",
  "õo\u0303\nöo\u0308\nùu\u0300\núu\u0301\nûu\u0302\nüu\u0308\nýy\u0301\nÿy\u0308\nĀA\u0304",
  "āa\u0304\nĂA\u0306\năa\u0306\nĄA\u0328\nąa\u0328\nĆC\u0301\nćc\u0301\nĈC\u0302\nĉc\u0302",
  "ĊC\u0307\nċc\u0307\nČC\u030c\nčc\u030c\nĎD\u030c\nďd\u030c\nĒE\u0304\nēe\u0304\nĔE\u0306",
  "ĕe\u0306\nĖE\u0307\nėe\u0307\nĘE\u0328\nęe\u0328\nĚE\u030c\něe\u030c\nĜG\u0302\nĝg\u0302",
  "ĞG\u0306\nğg\u0306\nĠG\u0307\nġg\u0307\nĢG\u0327\nģg\u0327\nĤH\u0302\nĥh\u0302\nĨI\u0303",
  "ĩi\u0303\nĪI\u0304\nīi\u0304\nĬI\u0306\nĭi\u0306\nĮI\u0328\nįi\u0328\nİI\u0307\nĲIJ\nĳij",
  "ĴJ\u0302\nĵj\u0302\nĶK\u0327\nķk\u0327\nĹL\u0301\nĺl\u0301\nĻL\u0327\nļl\u0327\nĽL\u030c",
  "ľl\u030c\nĿL·\nŀl·\nŃN\u0301\nńn\u0301\nŅN\u0327\nņn\u0327\nŇN\u030c\nňn\u030c\nŉʼn",
  "ŌO\u0304\nōo\u0304\nŎO\u0306\nŏo\u0306\nŐO\u030b\nőo\u030b\nŔR\u0301\nŕr\u0301\nŖR\u0327",
  "ŗr\u0327\nŘR\u030c\nřr\u030c\nŚS\u0301\nśs\u0301\nŜS\u0302\nŝs\u0302\nŞS\u0327\nşs\u0327",
  "ŠS\u030c\nšs\u030c\nŢT\u0327\nţt\u0327\nŤT\u030c\nťt\u030c\nŨU\u0303\nũu\u0303\nŪU\u0304",
  "ūu\u0304\nŬU\u0306\nŭu\u0306\nŮU\u030a\nůu\u030a\nŰU\u030b\nűu\u030b\nŲU\u0328\nųu\u0328",
  "ŴW\u0302\nŵw\u0302\nŶY\u0302\nŷy\u0302\nŸY\u0308\nŹZ\u0301\nźz\u0301\nŻZ\u0307\nżz\u0307",
  "ŽZ\u030c\nžz\u030c\nſs\nƠO\u031b\nơo\u031b\nƯU\u031b\nưu\u031b\nǄDZ\u030c\nǅDz\u030c",
  "ǆdz\u030c\nǇLJ\nǈLj\nǉlj\nǊNJ\nǋNj\nǌnj\nǍA\u030c\nǎa\u030c\nǏI\u030c\nǐi\u030c\nǑO\u030c",
  "ǒo\u030c\nǓU\u030c\nǔu\u030c\nǕU\u0308\u0304\nǖu\u0308\u0304\nǗU\u0308\u0301",
  "ǘu\u0308\u0301\nǙU\u0308\u030c\nǚu\u0308\u030c\nǛU\u0308\u0300\nǜu\u0308\u0300",
  "ǞA\u0308\u0304\nǟa\u0308\u0304\nǠA\u0307\u0304\nǡa\u0307\u0304\nǢÆ\u0304\nǣæ\u0304",
  "ǦG\u030c\nǧg\u030c\nǨK\u030c\nǩk\u030c\nǪO\u0328\nǫo\u0328\nǬO\u0328\u0304\nǭo\u0328\u0304",
  "ǮƷ\u030c\nǯʒ\u030c\nǰj\u030c\nǱDZ\nǲDz\nǳdz\nǴG\u0301\nǵg\u0301\nǸN\u0300\nǹn\u0300",
  "ǺA\u030a\u0301\nǻa\u030a\u0301\nǼÆ\u0301\nǽæ\u0301\nǾØ\u0301\nǿø\u0301\nȀA\u030f\nȁa\u030f",
  "ȂA\u0311\nȃa\u0311\nȄE\u030f\nȅe\u030f\nȆE\u0311\nȇe\u0311\nȈI\u030f\nȉi\u030f\nȊI\u0311",
  "ȋi\u0311\nȌO\u030f\nȍo\u030f\nȎO\u0311\nȏo\u0311\nȐR\u030f\nȑr\u030f\nȒR\u0311\nȓr\u0311",
  "ȔU\u030f\nȕu\u030f\nȖU\u0311\nȗu\u0311\nȘS\u0326\nșs\u0326\nȚT\u0326\nțt\u0326\nȞH\u030c",
  "ȟh\u030c\nȦA\u0307\nȧa\u0307\nȨE\u0327\nȩe\u0327\nȪO\u0308\u0304\nȫo\u0308\u0304",
  "ȬO\u0303\u0304\nȭo\u0303\u0304\nȮO\u0307\nȯo\u0307\nȰO\u0307\u0304\nȱo\u0307\u0304",
  "ȲY\u0304\nȳy\u0304\nʰh\nʱɦ\nʲj\nʳr\nʴɹ\nʵɻ\nʶʁ\nʷw\nʸy\n˘ \u0306\n˙ \u0307\n˚ \u030a",
  "˛ \u0328\n˜ \u0303\n˝ \u030b\nˠɣ\nˡl\nˢs\nˣx\nˤʕ\n\u0340\u0300\n\u0341\u0301\n\u0343\u0313",
  "\u0344\u0308\u0301\nʹʹ\nͺ \u0345\n;;\n΄ \u0301\n΅ \u0308\u0301\nΆΑ\u0301\n··\nΈΕ\u0301",
  "ΉΗ\u0301\nΊΙ\u0301\nΌΟ\u0301\nΎΥ\u0301\nΏΩ\u0301\nΐι\u0308\u0301\nΪΙ\u0308\nΫΥ\u0308",
  "άα\u0301\nέε\u0301\nήη\u0301\nίι\u0301\nΰυ\u0308\u0301\nϊι\u0308\nϋυ\u0308\nόο\u0301",
  "ύυ\u0301\nώω\u0301\nϐβ\nϑθ\nϒΥ\nϓΥ\u0301\nϔΥ\u0308\nϕφ\nϖπ\nϰκ\nϱρ\nϲς\nϴΘ\nϵε\nЀЕ\u0300",
  "ЁЕ\u0308\nЃГ\u0301\nЇІ\u0308\nЌК\u0301\nЍИ\u0300\nЎУ\u0306\nЙИ\u0306\nйи\u0306\nѐе\u0300",
  "ёе\u0308\nѓг\u0301\nїі\u0308\nќк\u0301\nѝи\u0300\nўу\u0306\nѶѴ\u030f\nѷѵ\u030f\nӁЖ\u0306",
  "ӂж\u0306\nӐА\u0306\nӑа\u0306\nӒА\u0308\nӓа\u0308\nӖЕ\u0306\nӗе\u0306\nӚӘ\u0308\nӛә\u0308",
  "ӜЖ\u0308\nӝж\u0308\nӞЗ\u0308\nӟз\u0308\nӢИ\u0304\nӣи\u0304\nӤИ\u0308\nӥи\u0308\nӦО\u0308",
  "ӧо\u0308\nӪӨ\u0308\nӫө\u0308\nӬЭ\u0308\nӭэ\u0308\nӮУ\u0304\nӯу\u0304\nӰУ\u0308\nӱу\u0308",
  "ӲУ\u030b\nӳу\u030b\nӴЧ\u0308\nӵч\u0308\nӸЫ\u0308\nӹы\u0308\nևեւ\n\u0622\u0627\u0653",
  "\u0623\u0627\u0654\n\u0624\u0648\u0654\n\u0625\u0627\u0655\n\u0626\u064a\u0654",
  "\u0675\u0627\u0674\n\u0676\u0648\u0674\n\u0677\u06c7\u0674\n\u0678\u064a\u0674",
  "\u06c0\u06d5\u0654\n\u06c2\u06c1\u0654\n\u06d3\u06d2\u0654\nऩन\u093c\nऱर\u093c\nऴळ\u093c",
  "क़क\u093c\nख़ख\u093c\nग़ग\u093c\nज़ज\u093c\nड़ड\u093c\nढ़ढ\u093c\nफ़फ\u093c\nय़य\u093c",
  "\u09cb\u09c7\u09be\n\u09cc\u09c7\u09d7\nড়ড\u09bc\nঢ়ঢ\u09bc\nয়য\u09bc\nਲ਼ਲ\u0a3c\nਸ਼ਸ\u0a3c",
  "ਖ਼ਖ\u0a3c\nਗ਼ਗ\u0a3c\nਜ਼ਜ\u0a3c\nਫ਼ਫ\u0a3c\n\u0b48\u0b47\u0b56\n\u0b4b\u0b47\u0b3e",
  "\u0b4c\u0b47\u0b57\nଡ଼ଡ\u0b3c\nଢ଼ଢ\u0b3c\nஔஒ\u0bd7\n\u0bca\u0bc6\u0bbe\n\u0bcb\u0bc7\u0bbe",
  "\u0bcc\u0bc6\u0bd7\n\u0c48\u0c46\u0c56\n\u0cc0\u0cbf\u0cd5\n\u0cc7\u0cc6\u0cd5",
  "\u0cc8\u0cc6\u0cd6\n\u0cca\u0cc6\u0cc2\n\u0ccb\u0cc6\u0cc2\u0cd5\n\u0d4a\u0d46\u0d3e",
  "\u0d4b\u0d47\u0d3e\n\u0d4c\u0d46\u0d57\n\u0dda\u0dd9\u0dca\n\u0ddc\u0dd9\u0dcf",
  "\u0ddd\u0dd9\u0dcf\u0dca\n\u0dde\u0dd9\u0ddf\nำ\u0e4dา\nຳ\u0ecdາ\nໜຫນ\nໝຫມ\n༌་\nགྷག\u0fb7",
  "ཌྷཌ\u0fb7\nདྷད\u0fb7\nབྷབ\u0fb7\nཛྷཛ\u0fb7\nཀྵཀ\u0fb5\n\u0f73\u0f71\u0f72\n\u0f75\u0f71\u0f74",
  "\u0f76\u0fb2\u0f80\n\u0f77\u0fb2\u0f71\u0f80\n\u0f78\u0fb3\u0f80\n\u0f79\u0fb3\u0f71\u0f80",
  "\u0f81\u0f71\u0f80\n\u0f93\u0f92\u0fb7\n\u0f9d\u0f9c\u0fb7\n\u0fa2\u0fa1\u0fb7",
  "\u0fa7\u0fa6\u0fb7\n\u0fac\u0fab\u0fb7\n\u0fb9\u0f90\u0fb5\nဦဥ\u102e\nḀA\u0325\nḁa\u0325",
  "ḂB\u0307\nḃb\u0307\nḄB\u0323\nḅb\u0323\nḆB\u0331\nḇb\u0331\nḈC\u0327\u0301\nḉc\u0327\u0301",
  "ḊD\u0307\nḋd\u0307\nḌD\u0323\nḍd\u0323\nḎD\u0331\nḏd\u0331\nḐD\u0327\nḑd\u0327\nḒD\u032d",
  "ḓd\u032d\nḔE\u0304\u0300\nḕe\u0304\u0300\nḖE\u0304\u0301\nḗe\u0304\u0301\nḘE\u032d",
  "ḙe\u032d\nḚE\u0330\nḛe\u0330\nḜE\u0327\u0306\nḝe\u0327\u0306\nḞF\u0307\nḟf\u0307\nḠG\u0304",
  "ḡg\u0304\nḢH\u0307\nḣh\u0307\nḤH\u0323\nḥh\u0323\nḦH\u0308\nḧh\u0308\nḨH\u0327\nḩh\u0327",
  "ḪH\u032e\nḫh\u032e\nḬI\u0330\nḭi\u0330\nḮI\u0308\u0301\nḯi\u0308\u0301\nḰK\u0301\nḱk\u0301",
  "ḲK\u0323\nḳk\u0323\nḴK\u0331\nḵk\u0331\nḶL\u0323\nḷl\u0323\nḸL\u0323\u0304\nḹl\u0323\u0304",
  "ḺL\u0331\nḻl\u0331\nḼL\u032d\nḽl\u032d\nḾM\u0301\nḿm\u0301\nṀM\u0307\nṁm\u0307\nṂM\u0323",
  "ṃm\u0323\nṄN\u0307\nṅn\u0307\nṆN\u0323\nṇn\u0323\nṈN\u0331\nṉn\u0331\nṊN\u032d\nṋn\u032d",
  "ṌO\u0303\u0301\nṍo\u0303\u0301\nṎO\u0303\u0308\nṏo\u0303\u0308\nṐO\u0304\u0300",
  "ṑo\u0304\u0300\nṒO\u0304\u0301\nṓo\u0304\u0301\nṔP\u0301\nṕp\u0301\nṖP\u0307\nṗp\u0307",
  "ṘR\u0307\nṙr\u0307\nṚR\u0323\nṛr\u0323\nṜR\u0323\u0304\nṝr\u0323\u0304\nṞR\u0331\nṟr\u0331",
  "ṠS\u0307\nṡs\u0307\nṢS\u0323\nṣs\u0323\nṤS\u0301\u0307\nṥs\u0301\u0307\nṦS\u030c\u0307",
  "ṧs\u030c\u0307\nṨS\u0323\u0307\nṩs\u0323\u0307\nṪT\u0307\nṫt\u0307\nṬT\u0323\nṭt\u0323",
  "ṮT\u0331\nṯt\u0331\nṰT\u032d\nṱt\u032d\nṲU\u0324\nṳu\u0324\nṴU\u0330\nṵu\u0330\nṶU\u032d",
  "ṷu\u032d\nṸU\u0303\u0301\nṹu\u0303\u0301\nṺU\u0304\u0308\nṻu\u0304\u0308\nṼV\u0303",
  "ṽv\u0303\nṾV\u0323\nṿv\u0323\nẀW\u0300\nẁw\u0300\nẂW\u0301\nẃw\u0301\nẄW\u0308\nẅw\u0308",
  "ẆW\u0307\nẇw\u0307\nẈW\u0323\nẉw\u0323\nẊX\u0307\nẋx\u0307\nẌX\u0308\nẍx\u0308\nẎY\u0307",
  "ẏy\u0307\nẐZ\u0302\nẑz\u0302\nẒZ\u0323\nẓz\u0323\nẔZ\u0331\nẕz\u0331\nẖh\u0331\nẗt\u0308",
  "ẘw\u030a\nẙy\u030a\nẚaʾ\nẛs\u0307\nẠA\u0323\nạa\u0323\nẢA\u0309\nảa\u0309\nẤA\u0302\u0301",
  "ấa\u0302\u0301\nẦA\u0302\u0300\nầa\u0302\u0300\nẨA\u0302\u0309\nẩa\u0302\u0309",
  "ẪA\u0302\u0303\nẫa\u0302\u0303\nẬA\u0323\u0302\nậa\u0323\u0302\nẮA\u0306\u0301",
  "ắa\u0306\u0301\nẰA\u0306\u0300\nằa\u0306\u0300\nẲA\u0306\u0309\nẳa\u0306\u0309",
  "ẴA\u0306\u0303\nẵa\u0306\u0303\nẶA\u0323\u0306\nặa\u0323\u0306\nẸE\u0323\nẹe\u0323",
  "ẺE\u0309\nẻe\u0309\nẼE\u0303\nẽe\u0303\nẾE\u0302\u0301\nếe\u0302\u0301\nỀE\u0302\u0300",
  "ềe\u0302\u0300\nỂE\u0302\u0309\nểe\u0302\u0309\nỄE\u0302\u0303\nễe\u0302\u0303",
  "ỆE\u0323\u0302\nệe\u0323\u0302\nỈI\u0309\nỉi\u0309\nỊI\u0323\nịi\u0323\nỌO\u0323\nọo\u0323",
  "ỎO\u0309\nỏo\u0309\nỐO\u0302\u0301\nốo\u0302\u0301\nỒO\u0302\u0300\nồo\u0302\u0300",
  "ỔO\u0302\u0309\nổo\u0302\u0309\nỖO\u0302\u0303\nỗo\u0302\u0303\nỘO\u0323\u0302",
  "ộo\u0323\u0302\nỚO\u031b\u0301\nớo\u031b\u0301\nỜO\u031b\u0300\nờo\u031b\u0300",
  "ỞO\u031b\u0309\nởo\u031b\u0309\nỠO\u031b\u0303\nỡo\u031b\u0303\nỢO\u031b\u0323",
  "ợo\u031b\u0323\nỤU\u0323\nụu\u0323\nỦU\u0309\nủu\u0309\nỨU\u031b\u0301\nứu\u031b\u0301",
  "ỪU\u031b\u0300\nừu\u031b\u0300\nỬU\u031b\u0309\nửu\u031b\u0309\nỮU\u031b\u0303",
  "ữu\u031b\u0303\nỰU\u031b\u0323\nựu\u031b\u0323\nỲY\u0300\nỳy\u0300\nỴY\u0323\nỵy\u0323",
  "ỶY\u0309\nỷy\u0309\nỸY\u0303\nỹy\u0303\nἀα\u0313\nἁα\u0314\nἂα\u0313\u0300\nἃα\u0314\u0300",
  "ἄα\u0313\u0301\nἅα\u0314\u0301\nἆα\u0313\u0342\nἇα\u0314\u0342\nἈΑ\u0313\nἉΑ\u0314",
  "ἊΑ\u0313\u0300\nἋΑ\u0314\u0300\nἌΑ\u0313\u0301\nἍΑ\u0314\u0301\nἎΑ\u0313\u0342",
  "ἏΑ\u0314\u0342\nἐε\u0313\nἑε\u0314\nἒε\u0313\u0300\nἓε\u0314\u0300\nἔε\u0313\u0301",
  "ἕε\u0314\u0301\nἘΕ\u0313\nἙΕ\u0314\nἚΕ\u0313\u0300\nἛΕ\u0314\u0300\nἜΕ\u0313\u0301",
  "ἝΕ\u0314\u0301\nἠη\u0313\nἡη\u0314\nἢη\u0313\u0300\nἣη\u0314\u0300\nἤη\u0313\u0301",
  "ἥη\u0314\u0301\nἦη\u0313\u0342\nἧη\u0314\u0342\nἨΗ\u0313\nἩΗ\u0314\nἪΗ\u0313\u0300",
  "ἫΗ\u0314\u0300\nἬΗ\u0313\u0301\nἭΗ\u0314\u0301\nἮΗ\u0313\u0342\nἯΗ\u0314\u0342\nἰι\u0313",
  "ἱι\u0314\nἲι\u0313\u0300\nἳι\u0314\u0300\nἴι\u0313\u0301\nἵι\u0314\u0301\nἶι\u0313\u0342",
  "ἷι\u0314\u0342\nἸΙ\u0313\nἹΙ\u0314\nἺΙ\u0313\u0300\nἻΙ\u0314\u0300\nἼΙ\u0313\u0301",
  "ἽΙ\u0314\u0301\nἾΙ\u0313\u0342\nἿΙ\u0314\u0342\nὀο\u0313\nὁο\u0314\nὂο\u0313\u0300",
  "ὃο\u0314\u0300\nὄο\u0313\u0301\nὅο\u0314\u0301\nὈΟ\u0313\nὉΟ\u0314\nὊΟ\u0313\u0300",
  "ὋΟ\u0314\u0300\nὌΟ\u0313\u0301\nὍΟ\u0314\u0301\nὐυ\u0313\nὑυ\u0314\nὒυ\u0313\u0300",
  "ὓυ\u0314\u0300\nὔυ\u0313\u0301\nὕυ\u0314\u0301\nὖυ\u0313\u0342\nὗυ\u0314\u0342\nὙΥ\u0314",
  "ὛΥ\u0314\u0300\nὝΥ\u0314\u0301\nὟΥ\u0314\u0342\nὠω\u0313\nὡω\u0314\nὢω\u0313\u0300",
  "ὣω\u0314\u0300\nὤω\u0313\u0301\nὥω\u0314\u0301\nὦω\u0313\u0342\nὧω\u0314\u0342\nὨΩ\u0313",
  "ὩΩ\u0314\nὪΩ\u0313\u0300\nὫΩ\u0314\u0300\nὬΩ\u0313\u0301\nὭΩ\u0314\u0301\nὮΩ\u0313\u0342",
  "ὯΩ\u0314\u0342\nὰα\u0300\nάα\u0301\nὲε\u0300\nέε\u0301\nὴη\u0300\nήη\u0301\nὶι\u0300",
  "ίι\u0301\nὸο\u0300\nόο\u0301\nὺυ\u0300\nύυ\u0301\nὼω\u0300\nώω\u0301\nᾀα\u0313\u0345",
  "ᾁα\u0314\u0345\nᾂα\u0313\u0300\u0345\nᾃα\u0314\u0300\u0345\nᾄα\u0313\u0301\u0345",
  "ᾅα\u0314\u0301\u0345\nᾆα\u0313\u0342\u0345\nᾇα\u0314\u0342\u0345\nᾈΑ\u0313\u0345",
  "ᾉΑ\u0314\u0345\nᾊΑ\u0313\u0300\u0345\nᾋΑ\u0314\u0300\u0345\nᾌΑ\u0313\u0301\u0345",
  "ᾍΑ\u0314\u0301\u0345\nᾎΑ\u0313\u0342\u0345\nᾏΑ\u0314\u0342\u0345\nᾐη\u0313\u0345",
  "ᾑη\u0314\u0345\nᾒη\u0313\u0300\u0345\nᾓη\u0314\u0300\u0345\nᾔη\u0313\u0301\u0345",
  "ᾕη\u0314\u0301\u0345\nᾖη\u0313\u0342\u0345\nᾗη\u0314\u0342\u0345\nᾘΗ\u0313\u0345",
  "ᾙΗ\u0314\u0345\nᾚΗ\u0313\u0300\u0345\nᾛΗ\u0314\u0300\u0345\nᾜΗ\u0313\u0301\u0345",
  "ᾝΗ\u0314\u0301\u0345\nᾞΗ\u0313\u0342\u0345\nᾟΗ\u0314\u0342\u0345\nᾠω\u0313\u0345",
  "ᾡω\u0314\u0345\nᾢω\u0313\u0300\u0345\nᾣω\u0314\u0300\u0345\nᾤω\u0313\u0301\u0345",
  "ᾥω\u0314\u0301\u0345\nᾦω\u0313\u0342\u0345\nᾧω\u0314\u0342\u0345\nᾨΩ\u0313\u0345",
  "ᾩΩ\u0314\u0345\nᾪΩ\u0313\u0300\u0345\nᾫΩ\u0314\u0300\u0345\nᾬΩ\u0313\u0301\u0345",
  "ᾭΩ\u0314\u0301\u0345\nᾮΩ\u0313\u0342\u0345\nᾯΩ\u0314\u0342\u0345\nᾰα\u0306\nᾱα\u0304",
  "ᾲα\u0300\u0345\nᾳα\u0345\nᾴα\u0301\u0345\nᾶα\u0342\nᾷα\u0342\u0345\nᾸΑ\u0306\nᾹΑ\u0304",
  "ᾺΑ\u0300\nΆΑ\u0301\nᾼΑ\u0345\n᾽ \u0313\nιι\n᾿ \u0313\n῀ \u0342\n῁ \u0308\u0342",
  "ῂη\u0300\u0345\nῃη\u0345\nῄη\u0301\u0345\nῆη\u0342\nῇη\u0342\u0345\nῈΕ\u0300\nΈΕ\u0301",
  "ῊΗ\u0300\nΉΗ\u0301\nῌΗ\u0345\n῍ \u0313\u0300\n῎ \u0313\u0301\n῏ \u0313\u0342\nῐι\u0306",
  "ῑι\u0304\nῒι\u0308\u0300\nΐι\u0308\u0301\nῖι\u0342\nῗι\u0308\u0342\nῘΙ\u0306\nῙΙ\u0304",
  "ῚΙ\u0300\nΊΙ\u0301\n῝ \u0314\u0300\n῞ \u0314\u0301\n῟ \u0314\u0342\nῠυ\u0306\nῡυ\u0304",
  "ῢυ\u0308\u0300\nΰυ\u0308\u0301\nῤρ\u0313\nῥρ\u0314\nῦυ\u0342\nῧυ\u0308\u0342\nῨΥ\u0306",
  "ῩΥ\u0304\nῪΥ\u0300\nΎΥ\u0301\nῬΡ\u0314\n῭ \u0308\u0300\n΅ \u0308\u0301\n`\u0060",
  "ῲω\u0300\u0345\nῳω\u0345\nῴω\u0301\u0345\nῶω\u0342\nῷω\u0342\u0345\nῸΟ\u0300\nΌΟ\u0301",
  "ῺΩ\u0300\nΏΩ\u0301\nῼΩ\u0345\n´ \u0301\n῾ \u0314\n\u2000 \n\u2001 \n\u2002 \n\u2003 ",
  "\u2004 \n\u2005 \n\u2006 \n\u2007 \n\u2008 \n\u2009 \n\u200a \n‑‐\n‗ \u0333\n․.\n‥..\n…...",
  "\u202f \n″′′\n‴′′′\n‶‵‵\n‷‵‵‵\n‼!!\n‾ \u0305\n⁇??\n⁈?!\n⁉!?\n⁗′′′′\n\u205f \n⁰0\nⁱi\n⁴4",
  "⁵5\n⁶6\n⁷7\n⁸8\n⁹9\n⁺+\n⁻−\n⁼=\n⁽(\n⁾)\nⁿn\n₀0\n₁1\n₂2\n₃3\n₄4\n₅5\n₆6\n₇7\n₈8\n₉9\n₊+\n₋−",
  "₌=\n₍(\n₎)\n₨Rs\n℀a/c\n℁a/s\nℂC\n℃°C\n℅c/o\n℆c/u\nℇƐ\n℉°F\nℊg\nℋH\nℌH\nℍH\nℎh\nℏħ\nℐI\nℑI",
  "ℒL\nℓl\nℕN\n№No\nℙP\nℚQ\nℛR\nℜR\nℝR\n℠SM\n℡TEL\n™TM\nℤZ\nΩΩ\nℨZ\nKK\nÅA\u030a\nℬB\nℭC\nℯe",
  "ℰE\nℱF\nℳM\nℴo\nℵ\u05d0\nℶ\u05d1\nℷ\u05d2\nℸ\u05d3\nℹi\nℽγ\nℾΓ\nℿΠ\n⅀∑\nⅅD\nⅆd\nⅇe\nⅈi\nⅉj",
  "⅓1⁄3\n⅔2⁄3\n⅕1⁄5\n⅖2⁄5\n⅗3⁄5\n⅘4⁄5\n⅙1⁄6\n⅚5⁄6\n⅛1⁄8\n⅜3⁄8\n⅝5⁄8\n⅞7⁄8\n⅟1⁄\nⅠI\nⅡII\nⅢIII",
  "ⅣIV\nⅤV\nⅥVI\nⅦVII\nⅧVIII\nⅨIX\nⅩX\nⅪXI\nⅫXII\nⅬL\nⅭC\nⅮD\nⅯM\nⅰi\nⅱii\nⅲiii\nⅳiv\nⅴv\nⅵvi",
  "ⅶvii\nⅷviii\nⅸix\nⅹx\nⅺxi\nⅻxii\nⅼl\nⅽc\nⅾd\nⅿm\n↚←\u0338\n↛→\u0338\n↮↔\u0338\n⇍⇐\u0338",
  "⇎⇔\u0338\n⇏⇒\u0338\n∄∃\u0338\n∉∈\u0338\n∌∋\u0338\n∤∣\u0338\n∦∥\u0338\n∬∫∫\n∭∫∫∫\n∯∮∮\n∰∮∮∮",
  "≁∼\u0338\n≄≃\u0338\n≇≅\u0338\n≉≈\u0338\n≠=\u0338\n≢≡\u0338\n≭≍\u0338\n≮<\u0338\n≯>\u0338",
  "≰≤\u0338\n≱≥\u0338\n≴≲\u0338\n≵≳\u0338\n≸≶\u0338\n≹≷\u0338\n⊀≺\u0338\n⊁≻\u0338\n⊄⊂\u0338",
  "⊅⊃\u0338\n⊈⊆\u0338\n⊉⊇\u0338\n⊬⊢\u0338\n⊭⊨\u0338\n⊮⊩\u0338\n⊯⊫\u0338\n⋠≼\u0338\n⋡≽\u0338",
  "⋢⊑\u0338\n⋣⊒\u0338\n⋪⊲\u0338\n⋫⊳\u0338\n⋬⊴\u0338\n⋭⊵\u0338\n〈〈\n〉〉\n①1\n②2\n③3\n④4\n⑤5\n⑥6",
  "⑦7\n⑧8\n⑨9\n⑩10\n⑪11\n⑫12\n⑬13\n⑭14\n⑮15\n⑯16\n⑰17\n⑱18\n⑲19\n⑳20\n⑴(1)\n⑵(2)\n⑶(3)\n⑷(4)",
  "⑸(5)\n⑹(6)\n⑺(7)\n⑻(8)\n⑼(9)\n⑽(10)\n⑾(11)\n⑿(12)\n⒀(13)\n⒁(14)\n⒂(15)\n⒃(16)\n⒄(17)",
  "⒅(18)\n⒆(19)\n⒇(20)\n⒈1.\n⒉2.\n⒊3.\n⒋4.\n⒌5.\n⒍6.\n⒎7.\n⒏8.\n⒐9.\n⒑10.\n⒒11.\n⒓12.\n⒔13.",
  "⒕14.\n⒖15.\n⒗16.\n⒘17.\n⒙18.\n⒚19.\n⒛20.\n⒜(a)\n⒝(b)\n⒞(c)\n⒟(d)\n⒠(e)\n⒡(f)\n⒢(g)\n⒣(h)",
  "⒤(i)\n⒥(j)\n⒦(k)\n⒧(l)\n⒨(m)\n⒩(n)\n⒪(o)\n⒫(p)\n⒬(q)\n⒭(r)\n⒮(s)\n⒯(t)\n⒰(u)\n⒱(v)\n⒲(w)",
  "⒳(x)\n⒴(y)\n⒵(z)\nⒶA\nⒷB\nⒸC\nⒹD\nⒺE\nⒻF\nⒼG\nⒽH\nⒾI\nⒿJ\nⓀK\nⓁL\nⓂM\nⓃN\nⓄO\nⓅP\nⓆQ\nⓇR",
  "ⓈS\nⓉT\nⓊU\nⓋV\nⓌW\nⓍX\nⓎY\nⓏZ\nⓐa\nⓑb\nⓒc\nⓓd\nⓔe\nⓕf\nⓖg\nⓗh\nⓘi\nⓙj\nⓚk\nⓛl\nⓜm\nⓝn\nⓞo",
  "ⓟp\nⓠq\nⓡr\nⓢs\nⓣt\nⓤu\nⓥv\nⓦw\nⓧx\nⓨy\nⓩz\n⓪0\n⨌∫∫∫∫\n⩴::=\n⩵==\n⩶===\n⫝̸⫝\u0338\n⺟母\n⻳龟",
  "⼀一\n⼁丨\n⼂丶\n⼃丿\n⼄乙\n⼅亅\n⼆二\n⼇亠\n⼈人\n⼉儿\n⼊入\n⼋八\n⼌冂\n⼍冖\n⼎冫\n⼏几\n⼐凵\n⼑刀\n⼒力\n⼓勹\n⼔匕\n⼕匚\n⼖匸",
  "⼗十\n⼘卜\n⼙卩\n⼚厂\n⼛厶\n⼜又\n⼝口\n⼞囗\n⼟土\n⼠士\n⼡夂\n⼢夊\n⼣夕\n⼤大\n⼥女\n⼦子\n⼧宀\n⼨寸\n⼩小\n⼪尢\n⼫尸\n⼬屮\n⼭山",
  "⼮巛\n⼯工\n⼰己\n⼱巾\n⼲干\n⼳幺\n⼴广\n⼵廴\n⼶廾\n⼷弋\n⼸弓\n⼹彐\n⼺彡\n⼻彳\n⼼心\n⼽戈\n⼾戶\n⼿手\n⽀支\n⽁攴\n⽂文\n⽃斗\n⽄斤",
  "⽅方\n⽆无\n⽇日\n⽈曰\n⽉月\n⽊木\n⽋欠\n⽌止\n⽍歹\n⽎殳\n⽏毋\n⽐比\n⽑毛\n⽒氏\n⽓气\n⽔水\n⽕火\n⽖爪\n⽗父\n⽘爻\n⽙爿\n⽚片\n⽛牙",
  "⽜牛\n⽝犬\n⽞玄\n⽟玉\n⽠瓜\n⽡瓦\n⽢甘\n⽣生\n⽤用\n⽥田\n⽦疋\n⽧疒\n⽨癶\n⽩白\n⽪皮\n⽫皿\n⽬目\n⽭矛\n⽮矢\n⽯石\n⽰示\n⽱禸\n⽲禾",
  "⽳穴\n⽴立\n⽵竹\n⽶米\n⽷糸\n⽸缶\n⽹网\n⽺羊\n⽻羽\n⽼老\n⽽而\n⽾耒\n⽿耳\n⾀聿\n⾁肉\n⾂臣\n⾃自\n⾄至\n⾅臼\n⾆舌\n⾇舛\n⾈舟\n⾉艮",
  "⾊色\n⾋艸\n⾌虍\n⾍虫\n⾎血\n⾏行\n⾐衣\n⾑襾\n⾒見\n⾓角\n⾔言\n⾕谷\n⾖豆\n⾗豕\n⾘豸\n⾙貝\n⾚赤\n⾛走\n⾜足\n⾝身\n⾞車\n⾟辛\n⾠辰",
  "⾡辵\n⾢邑\n⾣酉\n⾤釆\n⾥里\n⾦金\n⾧長\n⾨門\n⾩阜\n⾪隶\n⾫隹\n⾬雨\n⾭靑\n⾮非\n⾯面\n⾰革\n⾱韋\n⾲韭\n⾳音\n⾴頁\n⾵風\n⾶飛\n⾷食",
  "⾸首\n⾹香\n⾺馬\n⾻骨\n⾼高\n⾽髟\n⾾鬥\n⾿鬯\n⿀鬲\n⿁鬼\n⿂魚\n⿃鳥\n⿄鹵\n⿅鹿\n⿆麥\n⿇麻\n⿈黃\n⿉黍\n⿊黑\n⿋黹\n⿌黽\n⿍鼎\n⿎鼓",
  "⿏鼠\n⿐鼻\n⿑齊\n⿒齒\n⿓龍\n⿔龜\n⿕龠\n\u3000 \n〶〒\n〸十\n〹卄\n〺卅\nがか\u3099\nぎき\u3099\nぐく\u3099",
  "げけ\u3099\nごこ\u3099\nざさ\u3099\nじし\u3099\nずす\u3099\nぜせ\u3099\nぞそ\u3099\nだた\u3099\nぢち\u3099",
  "づつ\u3099\nでて\u3099\nどと\u3099\nばは\u3099\nぱは\u309a\nびひ\u3099\nぴひ\u309a\nぶふ\u3099\nぷふ\u309a",
  "べへ\u3099\nぺへ\u309a\nぼほ\u3099\nぽほ\u309a\nゔう\u3099\n゛ \u3099\n゜ \u309a\nゞゝ\u3099\nゟより",
  "ガカ\u3099\nギキ\u3099\nグク\u3099\nゲケ\u3099\nゴコ\u3099\nザサ\u3099\nジシ\u3099\nズス\u3099\nゼセ\u3099",
  "ゾソ\u3099\nダタ\u3099\nヂチ\u3099\nヅツ\u3099\nデテ\u3099\nドト\u3099\nバハ\u3099\nパハ\u309a\nビヒ\u3099",
  "ピヒ\u309a\nブフ\u3099\nプフ\u309a\nベヘ\u3099\nペヘ\u309a\nボホ\u3099\nポホ\u309a\nヴウ\u3099\nヷワ\u3099",
  "ヸヰ\u3099\nヹヱ\u3099\nヺヲ\u3099\nヾヽ\u3099\nヿコト\nㄱ\u1100\nㄲ\u1101\nㄳ\u11aa\nㄴ\u1102\nㄵ\u11ac",
  "ㄶ\u11ad\nㄷ\u1103\nㄸ\u1104\nㄹ\u1105\nㄺ\u11b0\nㄻ\u11b1\nㄼ\u11b2\nㄽ\u11b3\nㄾ\u11b4\nㄿ\u11b5",
  "ㅀ\u111a\nㅁ\u1106\nㅂ\u1107\nㅃ\u1108\nㅄ\u1121\nㅅ\u1109\nㅆ\u110a\nㅇ\u110b\nㅈ\u110c\nㅉ\u110d",
  "ㅊ\u110e\nㅋ\u110f\nㅌ\u1110\nㅍ\u1111\nㅎ\u1112\nㅏ\u1161\nㅐ\u1162\nㅑ\u1163\nㅒ\u1164\nㅓ\u1165",
  "ㅔ\u1166\nㅕ\u1167\nㅖ\u1168\nㅗ\u1169\nㅘ\u116a\nㅙ\u116b\nㅚ\u116c\nㅛ\u116d\nㅜ\u116e\nㅝ\u116f",
  "ㅞ\u1170\nㅟ\u1171\nㅠ\u1172\nㅡ\u1173\nㅢ\u1174\nㅣ\u1175\nㅤ\u1160\nㅥ\u1114\nㅦ\u1115\nㅧ\u11c7",
  "ㅨ\u11c8\nㅩ\u11cc\nㅪ\u11ce\nㅫ\u11d3\nㅬ\u11d7\nㅭ\u11d9\nㅮ\u111c\nㅯ\u11dd\nㅰ\u11df\nㅱ\u111d",
  "ㅲ\u111e\nㅳ\u1120\nㅴ\u1122\nㅵ\u1123\nㅶ\u1127\nㅷ\u1129\nㅸ\u112b\nㅹ\u112c\nㅺ\u112d\nㅻ\u112e",
  "ㅼ\u112f\nㅽ\u1132\nㅾ\u1136\nㅿ\u1140\nㆀ\u1147\nㆁ\u114c\nㆂ\u11f1\nㆃ\u11f2\nㆄ\u1157\nㆅ\u1158",
  "ㆆ\u1159\nㆇ\u1184\nㆈ\u1185\nㆉ\u1188\nㆊ\u1191\nㆋ\u1192\nㆌ\u1194\nㆍ\u119e\nㆎ\u11a1\n㆒一\n㆓二",
  "㆔三\n㆕四\n㆖上\n㆗中\n㆘下\n㆙甲\n㆚乙\n㆛丙\n㆜丁\n㆝天\n㆞地\n㆟人\n㈀(\u1100)\n㈁(\u1102)\n㈂(\u1103)\n㈃(\u1105)",
  "㈄(\u1106)\n㈅(\u1107)\n㈆(\u1109)\n㈇(\u110b)\n㈈(\u110c)\n㈉(\u110e)\n㈊(\u110f)\n㈋(\u1110)",
  "㈌(\u1111)\n㈍(\u1112)\n㈎(\u1100\u1161)\n㈏(\u1102\u1161)\n㈐(\u1103\u1161)\n㈑(\u1105\u1161)",
  "㈒(\u1106\u1161)\n㈓(\u1107\u1161)\n㈔(\u1109\u1161)\n㈕(\u110b\u1161)\n㈖(\u110c\u1161)",
  "㈗(\u110e\u1161)\n㈘(\u110f\u1161)\n㈙(\u1110\u1161)\n㈚(\u1111\u1161)\n㈛(\u1112\u1161)",
  "㈜(\u110c\u116e)\n㈠(一)\n㈡(二)\n㈢(三)\n㈣(四)\n㈤(五)\n㈥(六)\n㈦(七)\n㈧(八)\n㈨(九)\n㈩(十)\n㈪(月)\n㈫(火)",
  "㈬(水)\n㈭(木)\n㈮(金)\n㈯(土)\n㈰(日)\n㈱(株)\n㈲(有)\n㈳(社)\n㈴(名)\n㈵(特)\n㈶(財)\n㈷(祝)\n㈸(労)\n㈹(代)\n㈺(呼)",
  "㈻(学)\n㈼(監)\n㈽(企)\n㈾(資)\n㈿(協)\n㉀(祭)\n㉁(休)\n㉂(自)\n㉃(至)\n㉑21\n㉒22\n㉓23\n㉔24\n㉕25\n㉖26\n㉗27",
  "㉘28\n㉙29\n㉚30\n㉛31\n㉜32\n㉝33\n㉞34\n㉟35\n㉠\u1100\n㉡\u1102\n㉢\u1103\n㉣\u1105\n㉤\u1106",
  "㉥\u1107\n㉦\u1109\n㉧\u110b\n㉨\u110c\n㉩\u110e\n㉪\u110f\n㉫\u1110\n㉬\u1111\n㉭\u1112",
  "㉮\u1100\u1161\n㉯\u1102\u1161\n㉰\u1103\u1161\n㉱\u1105\u1161\n㉲\u1106\u1161\n㉳\u1107\u1161",
  "㉴\u1109\u1161\n㉵\u110b\u1161\n㉶\u110c\u1161\n㉷\u110e\u1161\n㉸\u110f\u1161\n㉹\u1110\u1161",
  "㉺\u1111\u1161\n㉻\u1112\u1161\n㊀一\n㊁二\n㊂三\n㊃四\n㊄五\n㊅六\n㊆七\n㊇八\n㊈九\n㊉十\n㊊月\n㊋火\n㊌水\n㊍木\n㊎金",
  "㊏土\n㊐日\n㊑株\n㊒有\n㊓社\n㊔名\n㊕特\n㊖財\n㊗祝\n㊘労\n㊙秘\n㊚男\n㊛女\n㊜適\n㊝優\n㊞印\n㊟注\n㊠項\n㊡休\n㊢写\n㊣正\n㊤上\n㊥中",
  "㊦下\n㊧左\n㊨右\n㊩医\n㊪宗\n㊫学\n㊬監\n㊭企\n㊮資\n㊯協\n㊰夜\n㊱36\n㊲37\n㊳38\n㊴39\n㊵40\n㊶41\n㊷42\n㊸43\n㊹44",
  "㊺45\n㊻46\n㊼47\n㊽48\n㊾49\n㊿50\n㋀1月\n㋁2月\n㋂3月\n㋃4月\n㋄5月\n㋅6月\n㋆7月\n㋇8月\n㋈9月\n㋉10月\n㋊11月",
  "㋋12月\n㋐ア\n㋑イ\n㋒ウ\n㋓エ\n㋔オ\n㋕カ\n㋖キ\n㋗ク\n㋘ケ\n㋙コ\n㋚サ\n㋛シ\n㋜ス\n㋝セ\n㋞ソ\n㋟タ\n㋠チ\n㋡ツ\n㋢テ\n㋣ト\n㋤ナ",
  "㋥ニ\n㋦ヌ\n㋧ネ\n㋨ノ\n㋩ハ\n㋪ヒ\n㋫フ\n㋬ヘ\n㋭ホ\n㋮マ\n㋯ミ\n㋰ム\n㋱メ\n㋲モ\n㋳ヤ\n㋴ユ\n㋵ヨ\n㋶ラ\n㋷リ\n㋸ル\n㋹レ\n㋺ロ\n㋻ワ",
  "㋼ヰ\n㋽ヱ\n㋾ヲ\n㌀アハ\u309aート\n㌁アルファ\n㌂アンヘ\u309aア\n㌃アール\n㌄イニンク\u3099\n㌅インチ\n㌆ウォン\n㌇エスクート\u3099",
  "㌈エーカー\n㌉オンス\n㌊オーム\n㌋カイリ\n㌌カラット\n㌍カロリー\n㌎カ\u3099ロン\n㌏カ\u3099ンマ\n㌐キ\u3099カ\u3099\n㌑キ\u3099ニー",
  "㌒キュリー\n㌓キ\u3099ルタ\u3099ー\n㌔キロ\n㌕キロク\u3099ラム\n㌖キロメートル\n㌗キロワット\n㌘ク\u3099ラム\n㌙ク\u3099ラムトン",
  "㌚クルセ\u3099イロ\n㌛クローネ\n㌜ケース\n㌝コルナ\n㌞コーホ\u309a\n㌟サイクル\n㌠サンチーム\n㌡シリンク\u3099\n㌢センチ\n㌣セント",
  "㌤タ\u3099ース\n㌥テ\u3099シ\n㌦ト\u3099ル\n㌧トン\n㌨ナノ\n㌩ノット\n㌪ハイツ\n㌫ハ\u309aーセント\n㌬ハ\u309aーツ",
  "㌭ハ\u3099ーレル\n㌮ヒ\u309aアストル\n㌯ヒ\u309aクル\n㌰ヒ\u309aコ\n㌱ヒ\u3099ル\n㌲ファラット\u3099\n㌳フィート",
  "㌴フ\u3099ッシェル\n㌵フラン\n㌶ヘクタール\n㌷ヘ\u309aソ\n㌸ヘ\u309aニヒ\n㌹ヘルツ\n㌺ヘ\u309aンス\n㌻ヘ\u309aーシ\u3099",
  "㌼ヘ\u3099ータ\n㌽ホ\u309aイント\n㌾ホ\u3099ルト\n㌿ホン\n㍀ホ\u309aント\u3099\n㍁ホール\n㍂ホーン\n㍃マイクロ\n㍄マイル\n㍅マッハ",
  "㍆マルク\n㍇マンション\n㍈ミクロン\n㍉ミリ\n㍊ミリハ\u3099ール\n㍋メカ\u3099\n㍌メカ\u3099トン\n㍍メートル\n㍎ヤート\u3099\n㍏ヤール",
  "㍐ユアン\n㍑リットル\n㍒リラ\n㍓ルヒ\u309aー\n㍔ルーフ\u3099ル\n㍕レム\n㍖レントケ\u3099ン\n㍗ワット\n㍘0点\n㍙1点\n㍚2点\n㍛3点",
  "㍜4点\n㍝5点\n㍞6点\n㍟7点\n㍠8点\n㍡9点\n㍢10点\n㍣11点\n㍤12点\n㍥13点\n㍦14点\n㍧15点\n㍨16点\n㍩17点\n㍪18点\n㍫19点",
  "㍬20点\n㍭21点\n㍮22点\n㍯23点\n㍰24点\n㍱hPa\n㍲da\n㍳AU\n㍴bar\n㍵oV\n㍶pc\n㍻平成\n㍼昭和\n㍽大正\n㍾明治\n㍿株式会社",
  "㎀pA\n㎁nA\n㎂μA\n㎃mA\n㎄kA\n㎅KB\n㎆MB\n㎇GB\n㎈cal\n㎉kcal\n㎊pF\n㎋nF\n㎌μF\n㎍μg\n㎎mg\n㎏kg\n㎐Hz",
  "㎑kHz\n㎒MHz\n㎓GHz\n㎔THz\n㎕μl\n㎖ml\n㎗dl\n㎘kl\n㎙fm\n㎚nm\n㎛μm\n㎜mm\n㎝cm\n㎞km\n㎟mm2\n㎠cm2\n㎡m2",
  "㎢km2\n㎣mm3\n㎤cm3\n㎥m3\n㎦km3\n㎧m∕s\n㎨m∕s2\n㎩Pa\n㎪kPa\n㎫MPa\n㎬GPa\n㎭rad\n㎮rad∕s\n㎯rad∕s2",
  "㎰ps\n㎱ns\n㎲μs\n㎳ms\n㎴pV\n㎵nV\n㎶μV\n㎷mV\n㎸kV\n㎹MV\n㎺pW\n㎻nW\n㎼μW\n㎽mW\n㎾kW\n㎿MW\n㏀kΩ\n㏁MΩ",
  "㏂a.m.\n㏃Bq\n㏄cc\n㏅cd\n㏆C∕kg\n㏇Co.\n㏈dB\n㏉Gy\n㏊ha\n㏋HP\n㏌in\n㏍KK\n㏎KM\n㏏kt\n㏐lm\n㏑ln\n㏒log",
  "㏓lx\n㏔mb\n㏕mil\n㏖mol\n㏗PH\n㏘p.m.\n㏙PPM\n㏚PR\n㏛sr\n㏜Sv\n㏝Wb\n㏠1日\n㏡2日\n㏢3日\n㏣4日\n㏤5日\n㏥6日",
  "㏦7日\n㏧8日\n㏨9日\n㏩10日\n㏪11日\n㏫12日\n㏬13日\n㏭14日\n㏮15日\n㏯16日\n㏰17日\n㏱18日\n㏲19日\n㏳20日\n㏴21日",
  "㏵22日\n㏶23日\n㏷24日\n㏸25日\n㏹26日\n㏺27日\n㏻28日\n㏼29日\n㏽30日\n㏾31日\n豈豈\n更更\n車車\n賈賈\n滑滑\n串串\n句句\n龜龜",
  "龜龜\n契契\n金金\n喇喇\n奈奈\n懶懶\n癩癩\n羅羅\n蘿蘿\n螺螺\n裸裸\n邏邏\n樂樂\n洛洛\n烙烙\n珞珞\n落落\n酪酪\n駱駱\n亂亂\n卵卵\n欄欄\n爛爛",
  "蘭蘭\n鸞鸞\n嵐嵐\n濫濫\n藍藍\n襤襤\n拉拉\n臘臘\n蠟蠟\n廊廊\n朗朗\n浪浪\n狼狼\n郎郎\n來來\n冷冷\n勞勞\n擄擄\n櫓櫓\n爐爐\n盧盧\n老老\n蘆蘆",
  "虜虜\n路路\n露露\n魯魯\n鷺鷺\n碌碌\n祿祿\n綠綠\n菉菉\n錄錄\n鹿鹿\n論論\n壟壟\n弄弄\n籠籠\n聾聾\n牢牢\n磊磊\n賂賂\n雷雷\n壘壘\n屢屢\n樓樓",
  "淚淚\n漏漏\n累累\n縷縷\n陋陋\n勒勒\n肋肋\n凜凜\n凌凌\n稜稜\n綾綾\n菱菱\n陵陵\n讀讀\n拏拏\n樂樂\n諾諾\n丹丹\n寧寧\n怒怒\n率率\n異異\n北北",
  "磻磻\n便便\n復復\n不不\n泌泌\n數數\n索索\n參參\n塞塞\n省省\n葉葉\n說說\n殺殺\n辰辰\n沈沈\n拾拾\n若若\n掠掠\n略略\n亮亮\n兩兩\n凉凉\n梁梁",
  "糧糧\n良良\n諒諒\n量量\n勵勵\n呂呂\n女女\n廬廬\n旅旅\n濾濾\n礪礪\n閭閭\n驪驪\n麗麗\n黎黎\n力力\n曆曆\n歷歷\n轢轢\n年年\n憐憐\n戀戀\n撚撚",
  "漣漣\n煉煉\n璉璉\n秊秊\n練練\n聯聯\n輦輦\n蓮蓮\n連連\n鍊鍊\n列列\n劣劣\n咽咽\n烈烈\n裂裂\n說說\n廉廉\n念念\n捻捻\n殮殮\n簾簾\n獵獵\n令令",
  "囹囹\n寧寧\n嶺嶺\n怜怜\n玲玲\n瑩瑩\n羚羚\n聆聆\n鈴鈴\n零零\n靈靈\n領領\n例例\n禮禮\n醴醴\n隸隸\n惡惡\n了了\n僚僚\n寮寮\n尿尿\n料料\n樂樂",
  "燎燎\n療療\n蓼蓼\n遼遼\n龍龍\n暈暈\n阮阮\n劉劉\n杻杻\n柳柳\n流流\n溜溜\n琉琉\n留留\n硫硫\n紐紐\n類類\n六六\n戮戮\n陸陸\n倫倫\n崙崙\n淪淪",
  "輪輪\n律律\n慄慄\n栗栗\n率率\n隆隆\n利利\n吏吏\n履履\n易易\n李李\n梨梨\n泥泥\n理理\n痢痢\n罹罹\n裏裏\n裡裡\n里里\n離離\n匿匿\n溺溺\n吝吝",
  "燐燐\n璘璘\n藺藺\n隣隣\n鱗鱗\n麟麟\n林林\n淋淋\n臨臨\n立立\n笠笠\n粒粒\n狀狀\n炙炙\n識識\n什什\n茶茶\n刺刺\n切切\n度度\n拓拓\n糖糖\n宅宅",
  "洞洞\n暴暴\n輻輻\n行行\n降降\n見見\n廓廓\n兀兀\n嗀嗀\n塚塚\n晴晴\n凞凞\n猪猪\n益益\n礼礼\n神神\n祥祥\n福福\n靖靖\n精精\n羽羽\n蘒蘒\n諸諸",
  "逸逸\n都都\n飯飯\n飼飼\n館館\n鶴鶴\n侮侮\n僧僧\n免免\n勉勉\n勤勤\n卑卑\n喝喝\n嘆嘆\n器器\n塀塀\n墨墨\n層層\n屮屮\n悔悔\n慨慨\n憎憎\n懲懲",
  "敏敏\n既既\n暑暑\n梅梅\n海海\n渚渚\n漢漢\n煮煮\n爫爫\n琢琢\n碑碑\n社社\n祉祉\n祈祈\n祐祐\n祖祖\n祝祝\n禍禍\n禎禎\n穀穀\n突突\n節節\n練練",
  "縉縉\n繁繁\n署署\n者者\n臭臭\n艹艹\n艹艹\n著著\n褐褐\n視視\n謁謁\n謹謹\n賓賓\n贈贈\n辶辶\n逸逸\n難難\n響響\n頻頻\nﬀff\nﬁfi\nﬂfl",
  "ﬃffi\nﬄffl\nﬅst\nﬆst\nﬓմն\nﬔմե\nﬕմի\nﬖվն\nﬗմխ\n\ufb1d\u05d9\u05b4\n\ufb1f\u05f2\u05b7",
  "\ufb20\u05e2\n\ufb21\u05d0\n\ufb22\u05d3\n\ufb23\u05d4\n\ufb24\u05db\n\ufb25\u05dc",
  "\ufb26\u05dd\n\ufb27\u05e8\n\ufb28\u05ea\n﬩+\n\ufb2a\u05e9\u05c1\n\ufb2b\u05e9\u05c2",
  "\ufb2c\u05e9\u05bc\u05c1\n\ufb2d\u05e9\u05bc\u05c2\n\ufb2e\u05d0\u05b7\n\ufb2f\u05d0\u05b8",
  "\ufb30\u05d0\u05bc\n\ufb31\u05d1\u05bc\n\ufb32\u05d2\u05bc\n\ufb33\u05d3\u05bc",
  "\ufb34\u05d4\u05bc\n\ufb35\u05d5\u05bc\n\ufb36\u05d6\u05bc\n\ufb38\u05d8\u05bc",
  "\ufb39\u05d9\u05bc\n\ufb3a\u05da\u05bc\n\ufb3b\u05db\u05bc\n\ufb3c\u05dc\u05bc",
  "\ufb3e\u05de\u05bc\n\ufb40\u05e0\u05bc\n\ufb41\u05e1\u05bc\n\ufb43\u05e3\u05bc",
  "\ufb44\u05e4\u05bc\n\ufb46\u05e6\u05bc\n\ufb47\u05e7\u05bc\n\ufb48\u05e8\u05bc",
  "\ufb49\u05e9\u05bc\n\ufb4a\u05ea\u05bc\n\ufb4b\u05d5\u05b9\n\ufb4c\u05d1\u05bf",
  "\ufb4d\u05db\u05bf\n\ufb4e\u05e4\u05bf\n\ufb4f\u05d0\u05dc\n\ufb50\u0671\n\ufb51\u0671",
  "\ufb52\u067b\n\ufb53\u067b\n\ufb54\u067b\n\ufb55\u067b\n\ufb56\u067e\n\ufb57\u067e",
  "\ufb58\u067e\n\ufb59\u067e\n\ufb5a\u0680\n\ufb5b\u0680\n\ufb5c\u0680\n\ufb5d\u0680",
  "\ufb5e\u067a\n\ufb5f\u067a\n\ufb60\u067a\n\ufb61\u067a\n\ufb62\u067f\n\ufb63\u067f",
  "\ufb64\u067f\n\ufb65\u067f\n\ufb66\u0679\n\ufb67\u0679\n\ufb68\u0679\n\ufb69\u0679",
  "\ufb6a\u06a4\n\ufb6b\u06a4\n\ufb6c\u06a4\n\ufb6d\u06a4\n\ufb6e\u06a6\n\ufb6f\u06a6",
  "\ufb70\u06a6\n\ufb71\u06a6\n\ufb72\u0684\n\ufb73\u0684\n\ufb74\u0684\n\ufb75\u0684",
  "\ufb76\u0683\n\ufb77\u0683\n\ufb78\u0683\n\ufb79\u0683\n\ufb7a\u0686\n\ufb7b\u0686",
  "\ufb7c\u0686\n\ufb7d\u0686\n\ufb7e\u0687\n\ufb7f\u0687\n\ufb80\u0687\n\ufb81\u0687",
  "\ufb82\u068d\n\ufb83\u068d\n\ufb84\u068c\n\ufb85\u068c\n\ufb86\u068e\n\ufb87\u068e",
  "\ufb88\u0688\n\ufb89\u0688\n\ufb8a\u0698\n\ufb8b\u0698\n\ufb8c\u0691\n\ufb8d\u0691",
  "\ufb8e\u06a9\n\ufb8f\u06a9\n\ufb90\u06a9\n\ufb91\u06a9\n\ufb92\u06af\n\ufb93\u06af",
  "\ufb94\u06af\n\ufb95\u06af\n\ufb96\u06b3\n\ufb97\u06b3\n\ufb98\u06b3\n\ufb99\u06b3",
  "\ufb9a\u06b1\n\ufb9b\u06b1\n\ufb9c\u06b1\n\ufb9d\u06b1\n\ufb9e\u06ba\n\ufb9f\u06ba",
  "\ufba0\u06bb\n\ufba1\u06bb\n\ufba2\u06bb\n\ufba3\u06bb\n\ufba4\u06d5\u0654",
  "\ufba5\u06d5\u0654\n\ufba6\u06c1\n\ufba7\u06c1\n\ufba8\u06c1\n\ufba9\u06c1\n\ufbaa\u06be",
  "\ufbab\u06be\n\ufbac\u06be\n\ufbad\u06be\n\ufbae\u06d2\n\ufbaf\u06d2\n\ufbb0\u06d2\u0654",
  "\ufbb1\u06d2\u0654\n\ufbd3\u06ad\n\ufbd4\u06ad\n\ufbd5\u06ad\n\ufbd6\u06ad\n\ufbd7\u06c7",
  "\ufbd8\u06c7\n\ufbd9\u06c6\n\ufbda\u06c6\n\ufbdb\u06c8\n\ufbdc\u06c8\n\ufbdd\u06c7\u0674",
  "\ufbde\u06cb\n\ufbdf\u06cb\n\ufbe0\u06c5\n\ufbe1\u06c5\n\ufbe2\u06c9\n\ufbe3\u06c9",
  "\ufbe4\u06d0\n\ufbe5\u06d0\n\ufbe6\u06d0\n\ufbe7\u06d0\n\ufbe8\u0649\n\ufbe9\u0649",
  "\ufbea\u064a\u0654\u0627\n\ufbeb\u064a\u0654\u0627\n\ufbec\u064a\u0654\u06d5",
  "\ufbed\u064a\u0654\u06d5\n\ufbee\u064a\u0654\u0648\n\ufbef\u064a\u0654\u0648",
  "\ufbf0\u064a\u0654\u06c7\n\ufbf1\u064a\u0654\u06c7\n\ufbf2\u064a\u0654\u06c6",
  "\ufbf3\u064a\u0654\u06c6\n\ufbf4\u064a\u0654\u06c8\n\ufbf5\u064a\u0654\u06c8",
  "\ufbf6\u064a\u0654\u06d0\n\ufbf7\u064a\u0654\u06d0\n\ufbf8\u064a\u0654\u06d0",
  "\ufbf9\u064a\u0654\u0649\n\ufbfa\u064a\u0654\u0649\n\ufbfb\u064a\u0654\u0649\n\ufbfc\u06cc",
  "\ufbfd\u06cc\n\ufbfe\u06cc\n\ufbff\u06cc\n\ufc00\u064a\u0654\u062c",
  "\ufc01\u064a\u0654\u062d\n\ufc02\u064a\u0654\u0645\n\ufc03\u064a\u0654\u0649",
  "\ufc04\u064a\u0654\u064a\n\ufc05\u0628\u062c\n\ufc06\u0628\u062d\n\ufc07\u0628\u062e",
  "\ufc08\u0628\u0645\n\ufc09\u0628\u0649\n\ufc0a\u0628\u064a\n\ufc0b\u062a\u062c",
  "\ufc0c\u062a\u062d\n\ufc0d\u062a\u062e\n\ufc0e\u062a\u0645\n\ufc0f\u062a\u0649",
  "\ufc10\u062a\u064a\n\ufc11\u062b\u062c\n\ufc12\u062b\u0645\n\ufc13\u062b\u0649",
  "\ufc14\u062b\u064a\n\ufc15\u062c\u062d\n\ufc16\u062c\u0645\n\ufc17\u062d\u062c",
  "\ufc18\u062d\u0645\n\ufc19\u062e\u062c\n\ufc1a\u062e\u062d\n\ufc1b\u062e\u0645",
  "\ufc1c\u0633\u062c\n\ufc1d\u0633\u062d\n\ufc1e\u0633\u062e\n\ufc1f\u0633\u0645",
  "\ufc20\u0635\u062d\n\ufc21\u0635\u0645\n\ufc22\u0636\u062c\n\ufc23\u0636\u062d",
  "\ufc24\u0636\u062e\n\ufc25\u0636\u0645\n\ufc26\u0637\u062d\n\ufc27\u0637\u0645",
  "\ufc28\u0638\u0645\n\ufc29\u0639\u062c\n\ufc2a\u0639\u0645\n\ufc2b\u063a\u062c",
  "\ufc2c\u063a\u0645\n\ufc2d\u0641\u062c\n\ufc2e\u0641\u062d\n\ufc2f\u0641\u062e",
  "\ufc30\u0641\u0645\n\ufc31\u0641\u0649\n\ufc32\u0641\u064a\n\ufc33\u0642\u062d",
  "\ufc34\u0642\u0645\n\ufc35\u0642\u0649\n\ufc36\u0642\u064a\n\ufc37\u0643\u0627",
  "\ufc38\u0643\u062c\n\ufc39\u0643\u062d\n\ufc3a\u0643\u062e\n\ufc3b\u0643\u0644",
  "\ufc3c\u0643\u0645\n\ufc3d\u0643\u0649\n\ufc3e\u0643\u064a\n\ufc3f\u0644\u062c",
  "\ufc40\u0644\u062d\n\ufc41\u0644\u062e\n\ufc42\u0644\u0645\n\ufc43\u0644\u0649",
  "\ufc44\u0644\u064a\n\ufc45\u0645\u062c\n\ufc46\u0645\u062d\n\ufc47\u0645\u062e",
  "\ufc48\u0645\u0645\n\ufc49\u0645\u0649\n\ufc4a\u0645\u064a\n\ufc4b\u0646\u062c",
  "\ufc4c\u0646\u062d\n\ufc4d\u0646\u062e\n\ufc4e\u0646\u0645\n\ufc4f\u0646\u0649",
  "\ufc50\u0646\u064a\n\ufc51\u0647\u062c\n\ufc52\u0647\u0645\n\ufc53\u0647\u0649",
  "\ufc54\u0647\u064a\n\ufc55\u064a\u062c\n\ufc56\u064a\u062d\n\ufc57\u064a\u062e",
  "\ufc58\u064a\u0645\n\ufc59\u064a\u0649\n\ufc5a\u064a\u064a\n\ufc5b\u0630\u0670",
  "\ufc5c\u0631\u0670\n\ufc5d\u0649\u0670\n\ufc5e \u064c\u0651\n\ufc5f \u064d\u0651",
  "\ufc60 \u064e\u0651\n\ufc61 \u064f\u0651\n\ufc62 \u0650\u0651\n\ufc63 \u0651\u0670",
  "\ufc64\u064a\u0654\u0631\n\ufc65\u064a\u0654\u0632\n\ufc66\u064a\u0654\u0645",
  "\ufc67\u064a\u0654\u0646\n\ufc68\u064a\u0654\u0649\n\ufc69\u064a\u0654\u064a",
  "\ufc6a\u0628\u0631\n\ufc6b\u0628\u0632\n\ufc6c\u0628\u0645\n\ufc6d\u0628\u0646",
  "\ufc6e\u0628\u0649\n\ufc6f\u0628\u064a\n\ufc70\u062a\u0631\n\ufc71\u062a\u0632",
  "\ufc72\u062a\u0645\n\ufc73\u062a\u0646\n\ufc74\u062a\u0649\n\ufc75\u062a\u064a",
  "\ufc76\u062b\u0631\n\ufc77\u062b\u0632\n\ufc78\u062b\u0645\n\ufc79\u062b\u0646",
  "\ufc7a\u062b\u0649\n\ufc7b\u062b\u064a\n\ufc7c\u0641\u0649\n\ufc7d\u0641\u064a",
  "\ufc7e\u0642\u0649\n\ufc7f\u0642\u064a\n\ufc80\u0643\u0627\n\ufc81\u0643\u0644",
  "\ufc82\u0643\u0645\n\ufc83\u0643\u0649\n\ufc84\u0643\u064a\n\ufc85\u0644\u0645",
  "\ufc86\u0644\u0649\n\ufc87\u0644\u064a\n\ufc88\u0645\u0627\n\ufc89\u0645\u0645",
  "\ufc8a\u0646\u0631\n\ufc8b\u0646\u0632\n\ufc8c\u0646\u0645\n\ufc8d\u0646\u0646",
  "\ufc8e\u0646\u0649\n\ufc8f\u0646\u064a\n\ufc90\u0649\u0670\n\ufc91\u064a\u0631",
  "\ufc92\u064a\u0632\n\ufc93\u064a\u0645\n\ufc94\u064a\u0646\n\ufc95\u064a\u0649",
  "\ufc96\u064a\u064a\n\ufc97\u064a\u0654\u062c\n\ufc98\u064a\u0654\u062d",
  "\ufc99\u064a\u0654\u062e\n\ufc9a\u064a\u0654\u0645\n\ufc9b\u064a\u0654\u0647",
  "\ufc9c\u0628\u062c\n\ufc9d\u0628\u062d\n\ufc9e\u0628\u062e\n\ufc9f\u0628\u0645",
  "\ufca0\u0628\u0647\n\ufca1\u062a\u062c\n\ufca2\u062a\u062d\n\ufca3\u062a\u062e",
  "\ufca4\u062a\u0645\n\ufca5\u062a\u0647\n\ufca6\u062b\u0645\n\ufca7\u062c\u062d",
  "\ufca8\u062c\u0645\n\ufca9\u062d\u062c\n\ufcaa\u062d\u0645\n\ufcab\u062e\u062c",
  "\ufcac\u062e\u0645\n\ufcad\u0633\u062c\n\ufcae\u0633\u062d\n\ufcaf\u0633\u062e",
  "\ufcb0\u0633\u0645\n\ufcb1\u0635\u062d\n\ufcb2\u0635\u062e\n\ufcb3\u0635\u0645",
  "\ufcb4\u0636\u062c\n\ufcb5\u0636\u062d\n\ufcb6\u0636\u062e\n\ufcb7\u0636\u0645",
  "\ufcb8\u0637\u062d\n\ufcb9\u0638\u0645\n\ufcba\u0639\u062c\n\ufcbb\u0639\u0645",
  "\ufcbc\u063a\u062c\n\ufcbd\u063a\u0645\n\ufcbe\u0641\u062c\n\ufcbf\u0641\u062d",
  "\ufcc0\u0641\u062e\n\ufcc1\u0641\u0645\n\ufcc2\u0642\u062d\n\ufcc3\u0642\u0645",
  "\ufcc4\u0643\u062c\n\ufcc5\u0643\u062d\n\ufcc6\u0643\u062e\n\ufcc7\u0643\u0644",
  "\ufcc8\u0643\u0645\n\ufcc9\u0644\u062c\n\ufcca\u0644\u062d\n\ufccb\u0644\u062e",
  "\ufccc\u0644\u0645\n\ufccd\u0644\u0647\n\ufcce\u0645\u062c\n\ufccf\u0645\u062d",
  "\ufcd0\u0645\u062e\n\ufcd1\u0645\u0645\n\ufcd2\u0646\u062c\n\ufcd3\u0646\u062d",
  "\ufcd4\u0646\u062e\n\ufcd5\u0646\u0645\n\ufcd6\u0646\u0647\n\ufcd7\u0647\u062c",
  "\ufcd8\u0647\u0645\n\ufcd9\u0647\u0670\n\ufcda\u064a\u062c\n\ufcdb\u064a\u062d",
  "\ufcdc\u064a\u062e\n\ufcdd\u064a\u0645\n\ufcde\u064a\u0647\n\ufcdf\u064a\u0654\u0645",
  "\ufce0\u064a\u0654\u0647\n\ufce1\u0628\u0645\n\ufce2\u0628\u0647\n\ufce3\u062a\u0645",
  "\ufce4\u062a\u0647\n\ufce5\u062b\u0645\n\ufce6\u062b\u0647\n\ufce7\u0633\u0645",
  "\ufce8\u0633\u0647\n\ufce9\u0634\u0645\n\ufcea\u0634\u0647\n\ufceb\u0643\u0644",
  "\ufcec\u0643\u0645\n\ufced\u0644\u0645\n\ufcee\u0646\u0645\n\ufcef\u0646\u0647",
  "\ufcf0\u064a\u0645\n\ufcf1\u064a\u0647\n\ufcf2\u0640\u064e\u0651\n\ufcf3\u0640\u064f\u0651",
  "\ufcf4\u0640\u0650\u0651\n\ufcf5\u0637\u0649\n\ufcf6\u0637\u064a\n\ufcf7\u0639\u0649",
  "\ufcf8\u0639\u064a\n\ufcf9\u063a\u0649\n\ufcfa\u063a\u064a\n\ufcfb\u0633\u0649",
  "\ufcfc\u0633\u064a\n\ufcfd\u0634\u0649\n\ufcfe\u0634\u064a\n\ufcff\u062d\u0649",
  "\ufd00\u062d\u064a\n\ufd01\u062c\u0649\n\ufd02\u062c\u064a\n\ufd03\u062e\u0649",
  "\ufd04\u062e\u064a\n\ufd05\u0635\u0649\n\ufd06\u0635\u064a\n\ufd07\u0636\u0649",
  "\ufd08\u0636\u064a\n\ufd09\u0634\u062c\n\ufd0a\u0634\u062d\n\ufd0b\u0634\u062e",
  "\ufd0c\u0634\u0645\n\ufd0d\u0634\u0631\n\ufd0e\u0633\u0631\n\ufd0f\u0635\u0631",
  "\ufd10\u0636\u0631\n\ufd11\u0637\u0649\n\ufd12\u0637\u064a\n\ufd13\u0639\u0649",
  "\ufd14\u0639\u064a\n\ufd15\u063a\u0649\n\ufd16\u063a\u064a\n\ufd17\u0633\u0649",
  "\ufd18\u0633\u064a\n\ufd19\u0634\u0649\n\ufd1a\u0634\u064a\n\ufd1b\u062d\u0649",
  "\ufd1c\u062d\u064a\n\ufd1d\u062c\u0649\n\ufd1e\u062c\u064a\n\ufd1f\u062e\u0649",
  "\ufd20\u062e\u064a\n\ufd21\u0635\u0649\n\ufd22\u0635\u064a\n\ufd23\u0636\u0649",
  "\ufd24\u0636\u064a\n\ufd25\u0634\u062c\n\ufd26\u0634\u062d\n\ufd27\u0634\u062e",
  "\ufd28\u0634\u0645\n\ufd29\u0634\u0631\n\ufd2a\u0633\u0631\n\ufd2b\u0635\u0631",
  "\ufd2c\u0636\u0631\n\ufd2d\u0634\u062c\n\ufd2e\u0634\u062d\n\ufd2f\u0634\u062e",
  "\ufd30\u0634\u0645\n\ufd31\u0633\u0647\n\ufd32\u0634\u0647\n\ufd33\u0637\u0645",
  "\ufd34\u0633\u062c\n\ufd35\u0633\u062d\n\ufd36\u0633\u062e\n\ufd37\u0634\u062c",
  "\ufd38\u0634\u062d\n\ufd39\u0634\u062e\n\ufd3a\u0637\u0645\n\ufd3b\u0638\u0645",
  "\ufd3c\u0627\u064b\n\ufd3d\u0627\u064b\n\ufd50\u062a\u062c\u0645\n\ufd51\u062a\u062d\u062c",
  "\ufd52\u062a\u062d\u062c\n\ufd53\u062a\u062d\u0645\n\ufd54\u062a\u062e\u0645",
  "\ufd55\u062a\u0645\u062c\n\ufd56\u062a\u0645\u062d\n\ufd57\u062a\u0645\u062e",
  "\ufd58\u062c\u0645\u062d\n\ufd59\u062c\u0645\u062d\n\ufd5a\u062d\u0645\u064a",
  "\ufd5b\u062d\u0645\u0649\n\ufd5c\u0633\u062d\u062c\n\ufd5d\u0633\u062c\u062d",
  "\ufd5e\u0633\u062c\u0649\n\ufd5f\u0633\u0645\u062d\n\ufd60\u0633\u0645\u062d",
  "\ufd61\u0633\u0645\u062c\n\ufd62\u0633\u0645\u0645\n\ufd63\u0633\u0645\u0645",
  "\ufd64\u0635\u062d\u062d\n\ufd65\u0635\u062d\u062d\n\ufd66\u0635\u0645\u0645",
  "\ufd67\u0634\u062d\u0645\n\ufd68\u0634\u062d\u0645\n\ufd69\u0634\u062c\u064a",
  "\ufd6a\u0634\u0645\u062e\n\ufd6b\u0634\u0645\u062e\n\ufd6c\u0634\u0645\u0645",
  "\ufd6d\u0634\u0645\u0645\n\ufd6e\u0636\u062d\u0649\n\ufd6f\u0636\u062e\u0645",
  "\ufd70\u0636\u062e\u0645\n\ufd71\u0637\u0645\u062d\n\ufd72\u0637\u0645\u062d",
  "\ufd73\u0637\u0645\u0645\n\ufd74\u0637\u0645\u064a\n\ufd75\u0639\u062c\u0645",
  "\ufd76\u0639\u0645\u0645\n\ufd77\u0639\u0645\u0645\n\ufd78\u0639\u0645\u0649",
  "\ufd79\u063a\u0645\u0645\n\ufd7a\u063a\u0645\u064a\n\ufd7b\u063a\u0645\u0649",
  "\ufd7c\u0641\u062e\u0645\n\ufd7d\u0641\u062e\u0645\n\ufd7e\u0642\u0645\u062d",
  "\ufd7f\u0642\u0645\u0645\n\ufd80\u0644\u062d\u0645\n\ufd81\u0644\u062d\u064a",
  "\ufd82\u0644\u062d\u0649\n\ufd83\u0644\u062c\u062c\n\ufd84\u0644\u062c\u062c",
  "\ufd85\u0644\u062e\u0645\n\ufd86\u0644\u062e\u0645\n\ufd87\u0644\u0645\u062d",
  "\ufd88\u0644\u0645\u062d\n\ufd89\u0645\u062d\u062c\n\ufd8a\u0645\u062d\u0645",
  "\ufd8b\u0645\u062d\u064a\n\ufd8c\u0645\u062c\u062d\n\ufd8d\u0645\u062c\u0645",
  "\ufd8e\u0645\u062e\u062c\n\ufd8f\u0645\u062e\u0645\n\ufd92\u0645\u062c\u062e",
  "\ufd93\u0647\u0645\u062c\n\ufd94\u0647\u0645\u0645\n\ufd95\u0646\u062d\u0645",
  "\ufd96\u0646\u062d\u0649\n\ufd97\u0646\u062c\u0645\n\ufd98\u0646\u062c\u0645",
  "\ufd99\u0646\u062c\u0649\n\ufd9a\u0646\u0645\u064a\n\ufd9b\u0646\u0645\u0649",
  "\ufd9c\u064a\u0645\u0645\n\ufd9d\u064a\u0645\u0645\n\ufd9e\u0628\u062e\u064a",
  "\ufd9f\u062a\u062c\u064a\n\ufda0\u062a\u062c\u0649\n\ufda1\u062a\u062e\u064a",
  "\ufda2\u062a\u062e\u0649\n\ufda3\u062a\u0645\u064a\n\ufda4\u062a\u0645\u0649",
  "\ufda5\u062c\u0645\u064a\n\ufda6\u062c\u062d\u0649\n\ufda7\u062c\u0645\u0649",
  "\ufda8\u0633\u062e\u0649\n\ufda9\u0635\u062d\u064a\n\ufdaa\u0634\u062d\u064a",
  "\ufdab\u0636\u062d\u064a\n\ufdac\u0644\u062c\u064a\n\ufdad\u0644\u0645\u064a",
  "\ufdae\u064a\u062d\u064a\n\ufdaf\u064a\u062c\u064a\n\ufdb0\u064a\u0645\u064a",
  "\ufdb1\u0645\u0645\u064a\n\ufdb2\u0642\u0645\u064a\n\ufdb3\u0646\u062d\u064a",
  "\ufdb4\u0642\u0645\u062d\n\ufdb5\u0644\u062d\u0645\n\ufdb6\u0639\u0645\u064a",
  "\ufdb7\u0643\u0645\u064a\n\ufdb8\u0646\u062c\u062d\n\ufdb9\u0645\u062e\u064a",
  "\ufdba\u0644\u062c\u0645\n\ufdbb\u0643\u0645\u0645\n\ufdbc\u0644\u062c\u0645",
  "\ufdbd\u0646\u062c\u062d\n\ufdbe\u062c\u062d\u064a\n\ufdbf\u062d\u062c\u064a",
  "\ufdc0\u0645\u062c\u064a\n\ufdc1\u0641\u0645\u064a\n\ufdc2\u0628\u062d\u064a",
  "\ufdc3\u0643\u0645\u0645\n\ufdc4\u0639\u062c\u0645\n\ufdc5\u0635\u0645\u0645",
  "\ufdc6\u0633\u062e\u064a\n\ufdc7\u0646\u062c\u064a\n\ufdf0\u0635\u0644\u06d2",
  "\ufdf1\u0642\u0644\u06d2\n\ufdf2\u0627\u0644\u0644\u0647\n\ufdf3\u0627\u0643\u0628\u0631",
  "\ufdf4\u0645\u062d\u0645\u062f\n\ufdf5\u0635\u0644\u0639\u0645",
  "\ufdf6\u0631\u0633\u0648\u0644\n\ufdf7\u0639\u0644\u064a\u0647",
  "\ufdf8\u0648\u0633\u0644\u0645\n\ufdf9\u0635\u0644\u0649",
  "\ufdfa\u0635\u0644\u0649 \u0627\u0644\u0644\u0647 \u0639\u0644\u064a\u0647 \u0648\u0633\u0644\u0645",
  "\ufdfb\u062c\u0644 \u062c\u0644\u0627\u0644\u0647\n\ufdfc\u0631\u06cc\u0627\u0644\n︰..\n︱—",
  "︲–\n︳_\n︴_\n︵(\n︶)\n︷\x7b\n︸\x7d\n︹〔\n︺〕\n︻【\n︼】\n︽《\n︾》\n︿〈\n﹀〉\n﹁「\n﹂」\n﹃『\n﹄』\n﹉ \u0305",
  "﹊ \u0305\n﹋ \u0305\n﹌ \u0305\n﹍_\n﹎_\n﹏_\n﹐,\n﹑、\n﹒.\n﹔;\n﹕:\n﹖?\n﹗!\n﹘—\n﹙(\n﹚)\n﹛\x7b",
  "﹜\x7d\n﹝〔\n﹞〕\n﹟#\n﹠&\n﹡*\n﹢+\n﹣-\n﹤<\n﹥>\n﹦=\n﹨\\\n﹩$\n﹪%\n﹫@\n\ufe70 \u064b",
  "\ufe71\u0640\u064b\n\ufe72 \u064c\n\ufe74 \u064d\n\ufe76 \u064e\n\ufe77\u0640\u064e",
  "\ufe78 \u064f\n\ufe79\u0640\u064f\n\ufe7a \u0650\n\ufe7b\u0640\u0650\n\ufe7c \u0651",
  "\ufe7d\u0640\u0651\n\ufe7e \u0652\n\ufe7f\u0640\u0652\n\ufe80\u0621\n\ufe81\u0627\u0653",
  "\ufe82\u0627\u0653\n\ufe83\u0627\u0654\n\ufe84\u0627\u0654\n\ufe85\u0648\u0654",
  "\ufe86\u0648\u0654\n\ufe87\u0627\u0655\n\ufe88\u0627\u0655\n\ufe89\u064a\u0654",
  "\ufe8a\u064a\u0654\n\ufe8b\u064a\u0654\n\ufe8c\u064a\u0654\n\ufe8d\u0627\n\ufe8e\u0627",
  "\ufe8f\u0628\n\ufe90\u0628\n\ufe91\u0628\n\ufe92\u0628\n\ufe93\u0629\n\ufe94\u0629",
  "\ufe95\u062a\n\ufe96\u062a\n\ufe97\u062a\n\ufe98\u062a\n\ufe99\u062b\n\ufe9a\u062b",
  "\ufe9b\u062b\n\ufe9c\u062b\n\ufe9d\u062c\n\ufe9e\u062c\n\ufe9f\u062c\n\ufea0\u062c",
  "\ufea1\u062d\n\ufea2\u062d\n\ufea3\u062d\n\ufea4\u062d\n\ufea5\u062e\n\ufea6\u062e",
  "\ufea7\u062e\n\ufea8\u062e\n\ufea9\u062f\n\ufeaa\u062f\n\ufeab\u0630\n\ufeac\u0630",
  "\ufead\u0631\n\ufeae\u0631\n\ufeaf\u0632\n\ufeb0\u0632\n\ufeb1\u0633\n\ufeb2\u0633",
  "\ufeb3\u0633\n\ufeb4\u0633\n\ufeb5\u0634\n\ufeb6\u0634\n\ufeb7\u0634\n\ufeb8\u0634",
  "\ufeb9\u0635\n\ufeba\u0635\n\ufebb\u0635\n\ufebc\u0635\n\ufebd\u0636\n\ufebe\u0636",
  "\ufebf\u0636\n\ufec0\u0636\n\ufec1\u0637\n\ufec2\u0637\n\ufec3\u0637\n\ufec4\u0637",
  "\ufec5\u0638\n\ufec6\u0638\n\ufec7\u0638\n\ufec8\u0638\n\ufec9\u0639\n\ufeca\u0639",
  "\ufecb\u0639\n\ufecc\u0639\n\ufecd\u063a\n\ufece\u063a\n\ufecf\u063a\n\ufed0\u063a",
  "\ufed1\u0641\n\ufed2\u0641\n\ufed3\u0641\n\ufed4\u0641\n\ufed5\u0642\n\ufed6\u0642",
  "\ufed7\u0642\n\ufed8\u0642\n\ufed9\u0643\n\ufeda\u0643\n\ufedb\u0643\n\ufedc\u0643",
  "\ufedd\u0644\n\ufede\u0644\n\ufedf\u0644\n\ufee0\u0644\n\ufee1\u0645\n\ufee2\u0645",
  "\ufee3\u0645\n\ufee4\u0645\n\ufee5\u0646\n\ufee6\u0646\n\ufee7\u0646\n\ufee8\u0646",
  "\ufee9\u0647\n\ufeea\u0647\n\ufeeb\u0647\n\ufeec\u0647\n\ufeed\u0648\n\ufeee\u0648",
  "\ufeef\u0649\n\ufef0\u0649\n\ufef1\u064a\n\ufef2\u064a\n\ufef3\u064a\n\ufef4\u064a",
  "\ufef5\u0644\u0627\u0653\n\ufef6\u0644\u0627\u0653\n\ufef7\u0644\u0627\u0654",
  "\ufef8\u0644\u0627\u0654\n\ufef9\u0644\u0627\u0655\n\ufefa\u0644\u0627\u0655",
  "\ufefb\u0644\u0627\n\ufefc\u0644\u0627\n！!\n＂\"\n＃#\n＄$\n％%\n＆&\n＇'\n（(\n）)\n＊*\n＋+\n，,",
  "－-\n．.\n／/\n０0\n１1\n２2\n３3\n４4\n５5\n６6\n７7\n８8\n９9\n：:\n；;\n＜<\n＝=\n＞>\n？?\n＠@\nＡA\nＢB\nＣC",
  "ＤD\nＥE\nＦF\nＧG\nＨH\nＩI\nＪJ\nＫK\nＬL\nＭM\nＮN\nＯO\nＰP\nＱQ\nＲR\nＳS\nＴT\nＵU\nＶV\nＷW\nＸX\nＹY\nＺZ",
  "［[\n＼\\\n］]\n＾^\n＿_\n｀\u0060\nａa\nｂb\nｃc\nｄd\nｅe\nｆf\nｇg\nｈh\nｉi\nｊj\nｋk\nｌl\nｍm\nｎn\nｏo",
  "ｐp\nｑq\nｒr\nｓs\nｔt\nｕu\nｖv\nｗw\nｘx\nｙy\nｚz\n｛\x7b\n｜|\n｝\x7d\n～~\n｟⦅\n｠⦆\n｡。\n｢「\n｣」\n､、",
  "･・\nｦヲ\nｧァ\nｨィ\nｩゥ\nｪェ\nｫォ\nｬャ\nｭュ\nｮョ\nｯッ\nｰー\nｱア\nｲイ\nｳウ\nｴエ\nｵオ\nｶカ\nｷキ\nｸク\nｹケ\nｺコ\nｻサ",
  "ｼシ\nｽス\nｾセ\nｿソ\nﾀタ\nﾁチ\nﾂツ\nﾃテ\nﾄト\nﾅナ\nﾆニ\nﾇヌ\nﾈネ\nﾉノ\nﾊハ\nﾋヒ\nﾌフ\nﾍヘ\nﾎホ\nﾏマ\nﾐミ\nﾑム\nﾒメ",
  "ﾓモ\nﾔヤ\nﾕユ\nﾖヨ\nﾗラ\nﾘリ\nﾙル\nﾚレ\nﾛロ\nﾜワ\nﾝン\nﾞ\u3099\nﾟ\u309a\nﾠ\u1160\nﾡ\u1100\nﾢ\u1101",
  "ﾣ\u11aa\nﾤ\u1102\nﾥ\u11ac\nﾦ\u11ad\nﾧ\u1103\nﾨ\u1104\nﾩ\u1105\nﾪ\u11b0\nﾫ\u11b1\nﾬ\u11b2",
  "ﾭ\u11b3\nﾮ\u11b4\nﾯ\u11b5\nﾰ\u111a\nﾱ\u1106\nﾲ\u1107\nﾳ\u1108\nﾴ\u1121\nﾵ\u1109\nﾶ\u110a",
  "ﾷ\u110b\nﾸ\u110c\nﾹ\u110d\nﾺ\u110e\nﾻ\u110f\nﾼ\u1110\nﾽ\u1111\nﾾ\u1112\nￂ\u1161\nￃ\u1162",
  "ￄ\u1163\nￅ\u1164\nￆ\u1165\nￇ\u1166\nￊ\u1167\nￋ\u1168\nￌ\u1169\nￍ\u116a\nￎ\u116b\nￏ\u116c",
  "ￒ\u116d\nￓ\u116e\nￔ\u116f\nￕ\u1170\nￖ\u1171\nￗ\u1172\nￚ\u1173\nￛ\u1174\nￜ\u1175\n￠¢\n￡£",
  "￢¬\n￣ \u0304\n￤¦\n￥¥\n￦₩\n￨│\n￩←\n￪↑\n￫→\n￬↓\n￭■\n￮○\n𝅗𝅥𝅗𝅥\n𝅘𝅥𝅘𝅥\n𝅘𝅥𝅮𝅘𝅥𝅮\n𝅘𝅥𝅯𝅘𝅥𝅯\n𝅘𝅥𝅰𝅘𝅥𝅰\n𝅘𝅥𝅱𝅘𝅥𝅱",
  "𝅘𝅥𝅲𝅘𝅥𝅲\n𝆹𝅥𝆹𝅥\n𝆺𝅥𝆺𝅥\n𝆹𝅥𝅮𝆹𝅥𝅮\n𝆺𝅥𝅮𝆺𝅥𝅮\n𝆹𝅥𝅯𝆹𝅥𝅯\n𝆺𝅥𝅯𝆺𝅥𝅯\n𝐀A\n𝐁B\n𝐂C\n𝐃D\n𝐄E\n𝐅F\n𝐆G\n𝐇H\n𝐈I\n𝐉J\n𝐊K\n𝐋L\n𝐌M",
  "𝐍N\n𝐎O\n𝐏P\n𝐐Q\n𝐑R\n𝐒S\n𝐓T\n𝐔U\n𝐕V\n𝐖W\n𝐗X\n𝐘Y\n𝐙Z\n𝐚a\n𝐛b\n𝐜c\n𝐝d\n𝐞e\n𝐟f\n𝐠g\n𝐡h\n𝐢i\n𝐣j",
  "𝐤k\n𝐥l\n𝐦m\n𝐧n\n𝐨o\n𝐩p\n𝐪q\n𝐫r\n𝐬s\n𝐭t\n𝐮u\n𝐯v\n𝐰w\n𝐱x\n𝐲y\n𝐳z\n𝐴A\n𝐵B\n𝐶C\n𝐷D\n𝐸E\n𝐹F\n𝐺G",
  "𝐻H\n𝐼I\n𝐽J\n𝐾K\n𝐿L\n𝑀M\n𝑁N\n𝑂O\n𝑃P\n𝑄Q\n𝑅R\n𝑆S\n𝑇T\n𝑈U\n𝑉V\n𝑊W\n𝑋X\n𝑌Y\n𝑍Z\n𝑎a\n𝑏b\n𝑐c\n𝑑d",
  "𝑒e\n𝑓f\n𝑔g\n𝑖i\n𝑗j\n𝑘k\n𝑙l\n𝑚m\n𝑛n\n𝑜o\n𝑝p\n𝑞q\n𝑟r\n𝑠s\n𝑡t\n𝑢u\n𝑣v\n𝑤w\n𝑥x\n𝑦y\n𝑧z\n𝑨A\n𝑩B",
  "𝑪C\n𝑫D\n𝑬E\n𝑭F\n𝑮G\n𝑯H\n𝑰I\n𝑱J\n𝑲K\n𝑳L\n𝑴M\n𝑵N\n𝑶O\n𝑷P\n𝑸Q\n𝑹R\n𝑺S\n𝑻T\n𝑼U\n𝑽V\n𝑾W\n𝑿X\n𝒀Y",
  "𝒁Z\n𝒂a\n𝒃b\n𝒄c\n𝒅d\n𝒆e\n𝒇f\n𝒈g\n𝒉h\n𝒊i\n𝒋j\n𝒌k\n𝒍l\n𝒎m\n𝒏n\n𝒐o\n𝒑p\n𝒒q\n𝒓r\n𝒔s\n𝒕t\n𝒖u\n𝒗v",
  "𝒘w\n𝒙x\n𝒚y\n𝒛z\n𝒜A\n𝒞C\n𝒟D\n𝒢G\n𝒥J\n𝒦K\n𝒩N\n𝒪O\n𝒫P\n𝒬Q\n𝒮S\n𝒯T\n𝒰U\n𝒱V\n𝒲W\n𝒳X\n𝒴Y\n𝒵Z\n𝒶a",
  "𝒷b\n𝒸c\n𝒹d\n𝒻f\n𝒽h\n𝒾i\n𝒿j\n𝓀k\n𝓂m\n𝓃n\n𝓅p\n𝓆q\n𝓇r\n𝓈s\n𝓉t\n𝓊u\n𝓋v\n𝓌w\n𝓍x\n𝓎y\n𝓏z\n𝓐A\n𝓑B",
  "𝓒C\n𝓓D\n𝓔E\n𝓕F\n𝓖G\n𝓗H\n𝓘I\n𝓙J\n𝓚K\n𝓛L\n𝓜M\n𝓝N\n𝓞O\n𝓟P\n𝓠Q\n𝓡R\n𝓢S\n𝓣T\n𝓤U\n𝓥V\n𝓦W\n𝓧X\n𝓨Y",
  "𝓩Z\n𝓪a\n𝓫b\n𝓬c\n𝓭d\n𝓮e\n𝓯f\n𝓰g\n𝓱h\n𝓲i\n𝓳j\n𝓴k\n𝓵l\n𝓶m\n𝓷n\n𝓸o\n𝓹p\n𝓺q\n𝓻r\n𝓼s\n𝓽t\n𝓾u\n𝓿v",
  "𝔀w\n𝔁x\n𝔂y\n𝔃z\n𝔄A\n𝔅B\n𝔇D\n𝔈E\n𝔉F\n𝔊G\n𝔍J\n𝔎K\n𝔏L\n𝔐M\n𝔑N\n𝔒O\n𝔓P\n𝔔Q\n𝔖S\n𝔗T\n𝔘U\n𝔙V\n𝔚W",
  "𝔛X\n𝔜Y\n𝔞a\n𝔟b\n𝔠c\n𝔡d\n𝔢e\n𝔣f\n𝔤g\n𝔥h\n𝔦i\n𝔧j\n𝔨k\n𝔩l\n𝔪m\n𝔫n\n𝔬o\n𝔭p\n𝔮q\n𝔯r\n𝔰s\n𝔱t\n𝔲u",
  "𝔳v\n𝔴w\n𝔵x\n𝔶y\n𝔷z\n𝔸A\n𝔹B\n𝔻D\n𝔼E\n𝔽F\n𝔾G\n𝕀I\n𝕁J\n𝕂K\n𝕃L\n𝕄M\n𝕆O\n𝕊S\n𝕋T\n𝕌U\n𝕍V\n𝕎W\n𝕏X",
  "𝕐Y\n𝕒a\n𝕓b\n𝕔c\n𝕕d\n𝕖e\n𝕗f\n𝕘g\n𝕙h\n𝕚i\n𝕛j\n𝕜k\n𝕝l\n𝕞m\n𝕟n\n𝕠o\n𝕡p\n𝕢q\n𝕣r\n𝕤s\n𝕥t\n𝕦u\n𝕧v",
  "𝕨w\n𝕩x\n𝕪y\n𝕫z\n𝕬A\n𝕭B\n𝕮C\n𝕯D\n𝕰E\n𝕱F\n𝕲G\n𝕳H\n𝕴I\n𝕵J\n𝕶K\n𝕷L\n𝕸M\n𝕹N\n𝕺O\n𝕻P\n𝕼Q\n𝕽R\n𝕾S",
  "𝕿T\n𝖀U\n𝖁V\n𝖂W\n𝖃X\n𝖄Y\n𝖅Z\n𝖆a\n𝖇b\n𝖈c\n𝖉d\n𝖊e\n𝖋f\n𝖌g\n𝖍h\n𝖎i\n𝖏j\n𝖐k\n𝖑l\n𝖒m\n𝖓n\n𝖔o\n𝖕p",
  "𝖖q\n𝖗r\n𝖘s\n𝖙t\n𝖚u\n𝖛v\n𝖜w\n𝖝x\n𝖞y\n𝖟z\n𝖠A\n𝖡B\n𝖢C\n𝖣D\n𝖤E\n𝖥F\n𝖦G\n𝖧H\n𝖨I\n𝖩J\n𝖪K\n𝖫L\n𝖬M",
  "𝖭N\n𝖮O\n𝖯P\n𝖰Q\n𝖱R\n𝖲S\n𝖳T\n𝖴U\n𝖵V\n𝖶W\n𝖷X\n𝖸Y\n𝖹Z\n𝖺a\n𝖻b\n𝖼c\n𝖽d\n𝖾e\n𝖿f\n𝗀g\n𝗁h\n𝗂i\n𝗃j",
  "𝗄k\n𝗅l\n𝗆m\n𝗇n\n𝗈o\n𝗉p\n𝗊q\n𝗋r\n𝗌s\n𝗍t\n𝗎u\n𝗏v\n𝗐w\n𝗑x\n𝗒y\n𝗓z\n𝗔A\n𝗕B\n𝗖C\n𝗗D\n𝗘E\n𝗙F\n𝗚G",
  "𝗛H\n𝗜I\n𝗝J\n𝗞K\n𝗟L\n𝗠M\n𝗡N\n𝗢O\n𝗣P\n𝗤Q\n𝗥R\n𝗦S\n𝗧T\n𝗨U\n𝗩V\n𝗪W\n𝗫X\n𝗬Y\n𝗭Z\n𝗮a\n𝗯b\n𝗰c\n𝗱d",
  "𝗲e\n𝗳f\n𝗴g\n𝗵h\n𝗶i\n𝗷j\n𝗸k\n𝗹l\n𝗺m\n𝗻n\n𝗼o\n𝗽p\n𝗾q\n𝗿r\n𝘀s\n𝘁t\n𝘂u\n𝘃v\n𝘄w\n𝘅x\n𝘆y\n𝘇z\n𝘈A",
  "𝘉B\n𝘊C\n𝘋D\n𝘌E\n𝘍F\n𝘎G\n𝘏H\n𝘐I\n𝘑J\n𝘒K\n𝘓L\n𝘔M\n𝘕N\n𝘖O\n𝘗P\n𝘘Q\n𝘙R\n𝘚S\n𝘛T\n𝘜U\n𝘝V\n𝘞W\n𝘟X",
  "𝘠Y\n𝘡Z\n𝘢a\n𝘣b\n𝘤c\n𝘥d\n𝘦e\n𝘧f\n𝘨g\n𝘩h\n𝘪i\n𝘫j\n𝘬k\n𝘭l\n𝘮m\n𝘯n\n𝘰o\n𝘱p\n𝘲q\n𝘳r\n𝘴s\n𝘵t\n𝘶u",
  "𝘷v\n𝘸w\n𝘹x\n𝘺y\n𝘻z\n𝘼A\n𝘽B\n𝘾C\n𝘿D\n𝙀E\n𝙁F\n𝙂G\n𝙃H\n𝙄I\n𝙅J\n𝙆K\n𝙇L\n𝙈M\n𝙉N\n𝙊O\n𝙋P\n𝙌Q\n𝙍R",
  "𝙎S\n𝙏T\n𝙐U\n𝙑V\n𝙒W\n𝙓X\n𝙔Y\n𝙕Z\n𝙖a\n𝙗b\n𝙘c\n𝙙d\n𝙚e\n𝙛f\n𝙜g\n𝙝h\n𝙞i\n𝙟j\n𝙠k\n𝙡l\n𝙢m\n𝙣n\n𝙤o",
  "𝙥p\n𝙦q\n𝙧r\n𝙨s\n𝙩t\n𝙪u\n𝙫v\n𝙬w\n𝙭x\n𝙮y\n𝙯z\n𝙰A\n𝙱B\n𝙲C\n𝙳D\n𝙴E\n𝙵F\n𝙶G\n𝙷H\n𝙸I\n𝙹J\n𝙺K\n𝙻L",
  "𝙼M\n𝙽N\n𝙾O\n𝙿P\n𝚀Q\n𝚁R\n𝚂S\n𝚃T\n𝚄U\n𝚅V\n𝚆W\n𝚇X\n𝚈Y\n𝚉Z\n𝚊a\n𝚋b\n𝚌c\n𝚍d\n𝚎e\n𝚏f\n𝚐g\n𝚑h\n𝚒i",
  "𝚓j\n𝚔k\n𝚕l\n𝚖m\n𝚗n\n𝚘o\n𝚙p\n𝚚q\n𝚛r\n𝚜s\n𝚝t\n𝚞u\n𝚟v\n𝚠w\n𝚡x\n𝚢y\n𝚣z\n𝚨Α\n𝚩Β\n𝚪Γ\n𝚫Δ\n𝚬Ε\n𝚭Ζ",
  "𝚮Η\n𝚯Θ\n𝚰Ι\n𝚱Κ\n𝚲Λ\n𝚳Μ\n𝚴Ν\n𝚵Ξ\n𝚶Ο\n𝚷Π\n𝚸Ρ\n𝚹Θ\n𝚺Σ\n𝚻Τ\n𝚼Υ\n𝚽Φ\n𝚾Χ\n𝚿Ψ\n𝛀Ω\n𝛁∇\n𝛂α\n𝛃β\n𝛄γ",
  "𝛅δ\n𝛆ε\n𝛇ζ\n𝛈η\n𝛉θ\n𝛊ι\n𝛋κ\n𝛌λ\n𝛍μ\n𝛎ν\n𝛏ξ\n𝛐ο\n𝛑π\n𝛒ρ\n𝛓ς\n𝛔σ\n𝛕τ\n𝛖υ\n𝛗φ\n𝛘χ\n𝛙ψ\n𝛚ω\n𝛛∂",
  "𝛜ε\n𝛝θ\n𝛞κ\n𝛟φ\n𝛠ρ\n𝛡π\n𝛢Α\n𝛣Β\n𝛤Γ\n𝛥Δ\n𝛦Ε\n𝛧Ζ\n𝛨Η\n𝛩Θ\n𝛪Ι\n𝛫Κ\n𝛬Λ\n𝛭Μ\n𝛮Ν\n𝛯Ξ\n𝛰Ο\n𝛱Π\n𝛲Ρ",
  "𝛳Θ\n𝛴Σ\n𝛵Τ\n𝛶Υ\n𝛷Φ\n𝛸Χ\n𝛹Ψ\n𝛺Ω\n𝛻∇\n𝛼α\n𝛽β\n𝛾γ\n𝛿δ\n𝜀ε\n𝜁ζ\n𝜂η\n𝜃θ\n𝜄ι\n𝜅κ\n𝜆λ\n𝜇μ\n𝜈ν\n𝜉ξ",
  "𝜊ο\n𝜋π\n𝜌ρ\n𝜍ς\n𝜎σ\n𝜏τ\n𝜐υ\n𝜑φ\n𝜒χ\n𝜓ψ\n𝜔ω\n𝜕∂\n𝜖ε\n𝜗θ\n𝜘κ\n𝜙φ\n𝜚ρ\n𝜛π\n𝜜Α\n𝜝Β\n𝜞Γ\n𝜟Δ\n𝜠Ε",
  "𝜡Ζ\n𝜢Η\n𝜣Θ\n𝜤Ι\n𝜥Κ\n𝜦Λ\n𝜧Μ\n𝜨Ν\n𝜩Ξ\n𝜪Ο\n𝜫Π\n𝜬Ρ\n𝜭Θ\n𝜮Σ\n𝜯Τ\n𝜰Υ\n𝜱Φ\n𝜲Χ\n𝜳Ψ\n𝜴Ω\n𝜵∇\n𝜶α\n𝜷β",
  "𝜸γ\n𝜹δ\n𝜺ε\n𝜻ζ\n𝜼η\n𝜽θ\n𝜾ι\n𝜿κ\n𝝀λ\n𝝁μ\n𝝂ν\n𝝃ξ\n𝝄ο\n𝝅π\n𝝆ρ\n𝝇ς\n𝝈σ\n𝝉τ\n𝝊υ\n𝝋φ\n𝝌χ\n𝝍ψ\n𝝎ω",
  "𝝏∂\n𝝐ε\n𝝑θ\n𝝒κ\n𝝓φ\n𝝔ρ\n𝝕π\n𝝖Α\n𝝗Β\n𝝘Γ\n𝝙Δ\n𝝚Ε\n𝝛Ζ\n𝝜Η\n𝝝Θ\n𝝞Ι\n𝝟Κ\n𝝠Λ\n𝝡Μ\n𝝢Ν\n𝝣Ξ\n𝝤Ο\n𝝥Π",
  "𝝦Ρ\n𝝧Θ\n𝝨Σ\n𝝩Τ\n𝝪Υ\n𝝫Φ\n𝝬Χ\n𝝭Ψ\n𝝮Ω\n𝝯∇\n𝝰α\n𝝱β\n𝝲γ\n𝝳δ\n𝝴ε\n𝝵ζ\n𝝶η\n𝝷θ\n𝝸ι\n𝝹κ\n𝝺λ\n𝝻μ\n𝝼ν",
  "𝝽ξ\n𝝾ο\n𝝿π\n𝞀ρ\n𝞁ς\n𝞂σ\n𝞃τ\n𝞄υ\n𝞅φ\n𝞆χ\n𝞇ψ\n𝞈ω\n𝞉∂\n𝞊ε\n𝞋θ\n𝞌κ\n𝞍φ\n𝞎ρ\n𝞏π\n𝞐Α\n𝞑Β\n𝞒Γ\n𝞓Δ",
  "𝞔Ε\n𝞕Ζ\n𝞖Η\n𝞗Θ\n𝞘Ι\n𝞙Κ\n𝞚Λ\n𝞛Μ\n𝞜Ν\n𝞝Ξ\n𝞞Ο\n𝞟Π\n𝞠Ρ\n𝞡Θ\n𝞢Σ\n𝞣Τ\n𝞤Υ\n𝞥Φ\n𝞦Χ\n𝞧Ψ\n𝞨Ω\n𝞩∇\n𝞪α",
  "𝞫β\n𝞬γ\n𝞭δ\n𝞮ε\n𝞯ζ\n𝞰η\n𝞱θ\n𝞲ι\n𝞳κ\n𝞴λ\n𝞵μ\n𝞶ν\n𝞷ξ\n𝞸ο\n𝞹π\n𝞺ρ\n𝞻ς\n𝞼σ\n𝞽τ\n𝞾υ\n𝞿φ\n𝟀χ\n𝟁ψ",
  "𝟂ω\n𝟃∂\n𝟄ε\n𝟅θ\n𝟆κ\n𝟇φ\n𝟈ρ\n𝟉π\n𝟎0\n𝟏1\n𝟐2\n𝟑3\n𝟒4\n𝟓5\n𝟔6\n𝟕7\n𝟖8\n𝟗9\n𝟘0\n𝟙1\n𝟚2\n𝟛3\n𝟜4",
  "𝟝5\n𝟞6\n𝟟7\n𝟠8\n𝟡9\n𝟢0\n𝟣1\n𝟤2\n𝟥3\n𝟦4\n𝟧5\n𝟨6\n𝟩7\n𝟪8\n𝟫9\n𝟬0\n𝟭1\n𝟮2\n𝟯3\n𝟰4\n𝟱5\n𝟲6\n𝟳7",
  "𝟴8\n𝟵9\n𝟶0\n𝟷1\n𝟸2\n𝟹3\n𝟺4\n𝟻5\n𝟼6\n𝟽7\n𝟾8\n𝟿9\n丽丽\n丸丸\n乁乁\n𠄢𠄢\n你你\n侮侮\n侻侻\n倂倂\n偺偺\n備備\n僧僧",
  "像像\n㒞㒞\n𠘺𠘺\n免免\n兔兔\n兤兤\n具具\n𠔜𠔜\n㒹㒹\n內內\n再再\n𠕋𠕋\n冗冗\n冤冤\n仌仌\n冬冬\n况况\n𩇟𩇟\n凵凵\n刃刃\n㓟㓟\n刻刻\n剆剆",
  "割割\n剷剷\n㔕㔕\n勇勇\n勉勉\n勤勤\n勺勺\n包包\n匆匆\n北北\n卉卉\n卑卑\n博博\n即即\n卽卽\n卿卿\n卿卿\n卿卿\n𠨬𠨬\n灰灰\n及及\n叟叟\n𠭣𠭣",
  "叫叫\n叱叱\n吆吆\n咞咞\n吸吸\n呈呈\n周周\n咢咢\n哶哶\n唐唐\n啓啓\n啣啣\n善善\n善善\n喙喙\n喫喫\n喳喳\n嗂嗂\n圖圖\n嘆嘆\n圗圗\n噑噑\n噴噴",
  "切切\n壮壮\n城城\n埴埴\n堍堍\n型型\n堲堲\n報報\n墬墬\n𡓤𡓤\n売売\n壷壷\n夆夆\n多多\n夢夢\n奢奢\n𡚨𡚨\n𡛪𡛪\n姬姬\n娛娛\n娧娧\n姘姘\n婦婦",
  "㛮㛮\n㛼𡍪\n嬈嬈\n嬾嬾\n嬾嬾\n𡧈𡧈\n寃寃\n寘寘\n寧寧\n寳寳\n𡬘𡬘\n寿寿\n将将\n当弳\n尢尢\n㞁㞁\n屠屠\n屮屮\n峀峀\n岍岍\n𡷤𡷤\n嵃嵃\n𡷦𡷦",
  "嵮嵮\n嵫嵫\n嵼嵼\n巡巡\n巢巢\n㠯㠯\n巽巽\n帨帨\n帽帽\n幩幩\n㡢㡢\n𢆃𢆃\n㡼㡼\n庰庰\n庳庳\n庶庶\n廊廊\n𪎒𪎒\n廾廾\n𢌱𢌱\n𢌱𢌱\n舁舁\n弢弢",
  "弢弢\n㣇㣇\n𣊸𣊸\n𦇚𦇚\n形形\n彫彫\n㣣㣣\n徚徚\n忍忍\n志志\n忹忹\n悁悁\n㤺㤺\n㤜㤜\n悔悔\n𢛔𢛔\n惇惇\n慈慈\n慌慌\n慎慎\n慌慌\n慺慺\n憎憎",
  "憲憲\n憤憤\n憯憯\n懞懞\n懲懲\n懶懶\n成成\n戛戛\n扝扝\n抱抱\n拔拔\n捐捐\n𢬌𢬌\n挽挽\n拼拼\n捨捨\n掃掃\n揤揤\n𢯱𢯱\n搢搢\n揅揅\n掩掩\n㨮㨮",
  "摩摩\n摾摾\n撝撝\n摷摷\n㩬㩬\n敏敏\n敬敬\n𣀊𣀊\n旣旣\n書書\n晉晉\n㬙㬙\n暑暑\n㬈㬈\n㫤㫤\n冒冒\n冕冕\n最最\n暜暜\n肭肭\n䏙䏙\n朗朗\n望望",
  "朡朡\n杞杞\n杓杓\n𣏃𣏃\n㭉㭉\n柺柺\n枅枅\n桒桒\n梅梅\n𣑭𣑭\n梎梎\n栟栟\n椔椔\n㮝㮝\n楂楂\n榣榣\n槪槪\n檨檨\n𣚣𣚣\n櫛櫛\n㰘㰘\n次次\n𣢧𣢧",
  "歔歔\n㱎㱎\n歲歲\n殟殟\n殺殺\n殻殻\n𣪍𣪍\n𡴋𡴋\n𣫺𣫺\n汎汎\n𣲼𣲼\n沿沿\n泍泍\n汧汧\n洖洖\n派派\n海海\n流流\n浩浩\n浸浸\n涅涅\n𣴞𣴞\n洴洴",
  "港港\n湮湮\n㴳㴳\n滋滋\n滇滇\n𣻑𣻑\n淹淹\n潮潮\n𣽞𣽞\n𣾎𣾎\n濆濆\n瀹瀹\n瀞瀞\n瀛瀛\n㶖㶖\n灊灊\n災災\n灷灷\n炭炭\n𠔥𠔥\n煅煅\n𤉣𤉣\n熜熜",
  "𤎫䎫\n爨爨\n爵爵\n牐牐\n𤘈𤘈\n犀犀\n犕犕\n𤜵𤜵\n𤠔𤠔\n獺獺\n王王\n㺬㺬\n玥玥\n㺸㺸\n㺸㺸\n瑇瑇\n瑜瑜\n瑱瑱\n璅璅\n瓊瓊\n㼛㼛\n甤甤\n𤰶𤰶",
  "甾甾\n𤲒𤲒\n異異\n𢆟𢆟\n瘐瘐\n𤾡𤾡\n𤾸𤾸\n𥁄𥁄\n㿼㿼\n䀈䀈\n直直\n𥃳𥃳\n𥃲𥃲\n𥄙𥄙\n𥄳𥄳\n眞眞\n真真\n真真\n睊睊\n䀹䀹\n瞋瞋\n䁆䁆\n䂖䂖",
  "𥐝𥐝\n硎硎\n碌碌\n磌磌\n䃣䃣\n𥘦𥘦\n祖祖\n𥚚𥚚\n𥛅𥛅\n福福\n秫秫\n䄯䄯\n穀穀\n穊穊\n穏穏\n𥥼𥥼\n𥪧𥪧\n𥪧𥪧\n竮窮\n䈂䈂\n𥮫𥮫\n篆篆\n築築",
  "䈧䈧\n𥲀𥲀\n糒糒\n䊠䊠\n糨糨\n糣糣\n紀紀\n𥾆𥾆\n絣絣\n䌁䌁\n緇緇\n縂縂\n繅繅\n䌴䌴\n𦈨𦈨\n𦉇𦉇\n䍙䍙\n𦋙𦋙\n罺罺\n𦌾𦌾\n羕羕\n翺翺\n者者",
  "𦓚𦓚\n𦔣𦔣\n聠聠\n𦖨𦖨\n聰聰\n𣍟𣍟\n䏕䏕\n育育\n脃脃\n䐋䐋\n脾脾\n媵媵\n𦞧𦞧\n𦞵𦞵\n𣎓𣎓\n𣎜𣎜\n舁舁\n舄舄\n辞辞\n䑫䑫\n芑芑\n芋芋\n芝芝",
  "劳劳\n花花\n芳芳\n芽芽\n苦苦\n𦬼𦬼\n若若\n茝茝\n荣荣\n莭莭\n茣茣\n莽莽\n菧菧\n著著\n荓荓\n菊菊\n菌菌\n菜菜\n𦰶𦰶\n𦵫𦵫\n𦳕𦳕\n䔫䔫\n蓱蓱",
  "蓳蓳\n蔖蔖\n𧏊𧏊\n蕤蕤\n𦼬𦼬\n䕝䕝\n䕡䕡\n𦾱𦾱\n𧃒𧃒\n䕫䕫\n虐虐\n虜虜\n虧虧\n虩虩\n蚩蚩\n蚈蚈\n蜎蜎\n蛢蛢\n蝹蝹\n蜨蜨\n蝫蝫\n螆螆\n䗗䵗",
  "蟡蟡\n蠁蠁\n䗹䗹\n衠衠\n衣衣\n𧙧𧙧\n裗裗\n裞裞\n䘵䘵\n裺裺\n㒻㒻\n𧢮𧢮\n𧥦𧥦\n䚾䚾\n䛇䛇\n誠誠\n諭諭\n變變\n豕豕\n𧲨𧲨\n貫貫\n賁賁\n贛贛",
  "起起\n𧼯𧼯\n𠠄𠠄\n跋跋\n趼趼\n跰跰\n𠣞𠣞\n軔軔\n輸輸\n𨗒𨗒\n𨗭𨗭\n邔邔\n郱郱\n鄑鄑\n𨜮𨜮\n鄛鄛\n鈸鈸\n鋗鋗\n鋘鋘\n鉼鉼\n鏹鏹\n鐕鐕\n𨯺𨯺",
  "開開\n䦕䦕\n閷閷\n𨵷𨵷\n䧦䧦\n雃雃\n嶲嶲\n霣霣\n𩅅𩅅\n𩈚𩈚\n䩮䩮\n䩶䩶\n韠韠\n𩐊𩐊\n䪲䪲\n𩒖𩒖\n頋頋\n頋頋\n頩頩\n𩖶𩖶\n飢飢\n䬳䬳\n餩餩",
  "馧馧\n駂駂\n駾駾\n䯎䯎\n𩬰𩬰\n鬒鬒\n鱀鱀\n鳽鳽\n䳎䳎\n䳭䳭\n鵧鵧\n𪃎𪃎\n䳸䳸\n𪄅𪄅\n𪈎𪈎\n𪊑𪊑\n麻麻\n䵖䵖\n黹黹\n黾黾\n鼅鼅\n鼏鼏\n鼖鼖",
  "鼻鼻\n𪘀𪘀"]

/-- Characters and the two characters of which they are put together. -/
def pairsTable : List String := [
  "ÀA\u0300\nÁA\u0301\nÂA\u0302\nÃA\u0303\nÄA\u0308\nÅA\u030a\nÇC\u0327\nÈE\u0300\nÉE\u0301",
  "ÊE\u0302\nËE\u0308\nÌI\u0300\nÍI\u0301\nÎI\u0302\nÏI\u0308\nÑN\u0303\nÒO\u0300\nÓO\u0301",
  "ÔO\u0302\nÕO\u0303\nÖO\u0308\nÙU\u0300\nÚU\u0301\nÛU\u0302\nÜU\u0308\nÝY\u0301\nàa\u0300",
  "áa\u0301\nâa\u0302\nãa\u0303\näa\u0308\nåa\u030a\nçc\u0327\nèe\u0300\née\u0301\nêe\u0302",
  "ëe\u0308\nìi\u0300\níi\u0301\nîi\u0302\nïi\u0308\nñn\u0303\nòo\u0300\nóo\u0301\nôo\u0302",
  "õo\u0303\nöo\u0308\nùu\u0300\núu\u0301\nûu\u0302\nüu\u0308\nýy\u0301\nÿy\u0308\nĀA\u0304",
  "āa\u0304\nĂA\u0306\năa\u0306\nĄA\u0328\nąa\u0328\nĆC\u0301\nćc\u0301\nĈC\u0302\nĉc\u0302",
  "ĊC\u0307\nċc\u0307\nČC\u030c\nčc\u030c\nĎD\u030c\nďd\u030c\nĒE\u0304\nēe\u0304\nĔE\u0306",
  "ĕe\u0306\nĖE\u0307\nėe\u0307\nĘE\u0328\nęe\u0328\nĚE\u030c\něe\u030c\nĜG\u0302\nĝg\u0302",
  "ĞG\u0306\nğg\u0306\nĠG\u0307\nġg\u0307\nĢG\u0327\nģg\u0327\nĤH\u0302\nĥh\u0302\nĨI\u0303",
  "ĩi\u0303\nĪI\u0304\nīi\u0304\nĬI\u0306\nĭi\u0306\nĮI\u0328\nįi\u0328\nİI\u0307\nĴJ\u0302",
  "ĵj\u0302\nĶK\u0327\nķk\u0327\nĹL\u0301\nĺl\u0301\nĻL\u0327\nļl\u0327\nĽL\u030c\nľl\u030c",
  "ŃN\u0301\nńn\u0301\nŅN\u0327\nņn\u0327\nŇN\u030c\nňn\u030c\nŌO\u0304\nōo\u0304\nŎO\u0306",
  "ŏo\u0306\nŐO\u030b\nőo\u030b\nŔR\u0301\nŕr\u0301\nŖR\u0327\nŗr\u0327\nŘR\u030c\nřr\u030c",
  "ŚS\u0301\nśs\u0301\nŜS\u0302\nŝs\u0302\nŞS\u0327\nşs\u0327\nŠS\u030c\nšs\u030c\nŢT\u0327",
  "ţt\u0327\nŤT\u030c\nťt\u030c\nŨU\u0303\nũu\u0303\nŪU\u0304\nūu\u0304\nŬU\u0306\nŭu\u0306",
  "ŮU\u030a\nůu\u030a\nŰU\u030b\nűu\u030b\nŲU\u0328\nųu\u0328\nŴW\u0302\nŵw\u0302\nŶY\u0302",
  "ŷy\u0302\nŸY\u0308\nŹZ\u0301\nźz\u0301\nŻZ\u0307\nżz\u0307\nŽZ\u030c\nžz\u030c\nƠO\u031b",
  "ơo\u031b\nƯU\u031b\nưu\u031b\nǍA\u030c\nǎa\u030c\nǏI\u030c\nǐi\u030c\nǑO\u030c\nǒo\u030c",
  "ǓU\u030c\nǔu\u030c\nǕÜ\u0304\nǖü\u0304\nǗÜ\u0301\nǘü\u0301\nǙÜ\u030c\nǚü\u030c\nǛÜ\u0300",
  "ǜü\u0300\nǞÄ\u0304\nǟä\u0304\nǠȦ\u0304\nǡȧ\u0304\nǢÆ\u0304\nǣæ\u0304\nǦG\u030c\nǧg\u030c",
  "ǨK\u030c\nǩk\u030c\nǪO\u0328\nǫo\u0328\nǬǪ\u0304\nǭǫ\u0304\nǮƷ\u030c\nǯʒ\u030c\nǰj\u030c",
  "ǴG\u0301\nǵg\u0301\nǸN\u0300\nǹn\u0300\nǺÅ\u0301\nǻå\u0301\nǼÆ\u0301\nǽæ\u0301\nǾØ\u0301",
  "ǿø\u0301\nȀA\u030f\nȁa\u030f\nȂA\u0311\nȃa\u0311\nȄE\u030f\nȅe\u030f\nȆE\u0311\nȇe\u0311",
  "ȈI\u030f\nȉi\u030f\nȊI\u0311\nȋi\u0311\nȌO\u030f\nȍo\u030f\nȎO\u0311\nȏo\u0311\nȐR\u030f",
  "ȑr\u030f\nȒR\u0311\nȓr\u0311\nȔU\u030f\nȕu\u030f\nȖU\u0311\nȗu\u0311\nȘS\u0326\nșs\u0326",
  "ȚT\u0326\nțt\u0326\nȞH\u030c\nȟh\u030c\nȦA\u0307\nȧa\u0307\nȨE\u0327\nȩe\u0327\nȪÖ\u0304",
  "ȫö\u0304\nȬÕ\u0304\nȭõ\u0304\nȮO\u0307\nȯo\u0307\nȰȮ\u0304\nȱȯ\u0304\nȲY\u0304\nȳy\u0304",
  "΅¨\u0301\nΆΑ\u0301\nΈΕ\u0301\nΉΗ\u0301\nΊΙ\u0301\nΌΟ\u0301\nΎΥ\u0301\nΏΩ\u0301\nΐϊ\u0301",
  "ΪΙ\u0308\nΫΥ\u0308\nάα\u0301\nέε\u0301\nήη\u0301\nίι\u0301\nΰϋ\u0301\nϊι\u0308\nϋυ\u0308",
  "όο\u0301\nύυ\u0301\nώω\u0301\nϓϒ\u0301\nϔϒ\u0308\nЀЕ\u0300\nЁЕ\u0308\nЃГ\u0301\nЇІ\u0308",
  "ЌК\u0301\nЍИ\u0300\nЎУ\u0306\nЙИ\u0306\nйи\u0306\nѐе\u0300\nёе\u0308\nѓг\u0301\nїі\u0308",
  "ќк\u0301\nѝи\u0300\nўу\u0306\nѶѴ\u030f\nѷѵ\u030f\nӁЖ\u0306\nӂж\u0306\nӐА\u0306\nӑа\u0306",
  "ӒА\u0308\nӓа\u0308\nӖЕ\u0306\nӗе\u0306\nӚӘ\u0308\nӛә\u0308\nӜЖ\u0308\nӝж\u0308\nӞЗ\u0308",
  "ӟз\u0308\nӢИ\u0304\nӣи\u0304\nӤИ\u0308\nӥи\u0308\nӦО\u0308\nӧо\u0308\nӪӨ\u0308\nӫө\u0308",
  "ӬЭ\u0308\nӭэ\u0308\nӮУ\u0304\nӯу\u0304\nӰУ\u0308\nӱу\u0308\nӲУ\u030b\nӳу\u030b\nӴЧ\u0308",
  "ӵч\u0308\nӸЫ\u0308\nӹы\u0308\n\u0622\u0627\u0653\n\u0623\u0627\u0654\n\u0624\u0648\u0654",
  "\u0625\u0627\u0655\n\u0626\u064a\u0654\n\u06c0\u06d5\u0654\n\u06c2\u06c1\u0654",
  "\u06d3\u06d2\u0654\nऩन\u093c\nऱर\u093c\nऴळ\u093c\n\u09cb\u09c7\u09be\n\u09cc\u09c7\u09d7",
  "\u0b48\u0b47\u0b56\n\u0b4b\u0b47\u0b3e\n\u0b4c\u0b47\u0b57\nஔஒ\u0bd7\n\u0bca\u0bc6\u0bbe",
  "\u0bcb\u0bc7\u0bbe\n\u0bcc\u0bc6\u0bd7\n\u0c48\u0c46\u0c56\n\u0cc0\u0cbf\u0cd5",
  "\u0cc7\u0cc6\u0cd5\n\u0cc8\u0cc6\u0cd6\n\u0cca\u0cc6\u0cc2\n\u0ccb\u0cca\u0cd5",
  "\u0d4a\u0d46\u0d3e\n\u0d4b\u0d47\u0d3e\n\u0d4c\u0d46\u0d57\n\u0dda\u0dd9\u0dca",
  "\u0ddc\u0dd9\u0dcf\n\u0ddd\u0ddc\u0dca\n\u0dde\u0dd9\u0ddf\nဦဥ\u102e\nᬆᬅ\u1b35\nᬈᬇ\u1b35",
  "ᬊᬉ\u1b35\nᬌᬋ\u1b35\nᬎᬍ\u1b35\nᬒᬑ\u1b35\n\u1b3b\u1b3a\u1b35\n\u1b3d\u1b3c\u1b35",
  "\u1b40\u1b3e\u1b35\n\u1b41\u1b3f\u1b35\n\u1b43\u1b42\u1b35\nḀA\u0325\nḁa\u0325\nḂB\u0307",
  "ḃb\u0307\nḄB\u0323\nḅb\u0323\nḆB\u0331\nḇb\u0331\nḈÇ\u0301\nḉç\u0301\nḊD\u0307\nḋd\u0307",
  "ḌD\u0323\nḍd\u0323\nḎD\u0331\nḏd\u0331\nḐD\u0327\nḑd\u0327\nḒD\u032d\nḓd\u032d\nḔĒ\u0300",
  "ḕē\u0300\nḖĒ\u0301\nḗē\u0301\nḘE\u032d\nḙe\u032d\nḚE\u0330\nḛe\u0330\nḜȨ\u0306\nḝȩ\u0306",
  "ḞF\u0307\nḟf\u0307\nḠG\u0304\nḡg\u0304\nḢH\u0307\nḣh\u0307\nḤH\u0323\nḥh\u0323\nḦH\u0308",
  "ḧh\u0308\nḨH\u0327\nḩh\u0327\nḪH\u032e\nḫh\u032e\nḬI\u0330\nḭi\u0330\nḮÏ\u0301\nḯï\u0301",
  "ḰK\u0301\nḱk\u0301\nḲK\u0323\nḳk\u0323\nḴK\u0331\nḵk\u0331\nḶL\u0323\nḷl\u0323\nḸḶ\u0304",
  "ḹḷ\u0304\nḺL\u0331\nḻl\u0331\nḼL\u032d\nḽl\u032d\nḾM\u0301\nḿm\u0301\nṀM\u0307\nṁm\u0307",
  "ṂM\u0323\nṃm\u0323\nṄN\u0307\nṅn\u0307\nṆN\u0323\nṇn\u0323\nṈN\u0331\nṉn\u0331\nṊN\u032d",
  "ṋn\u032d\nṌÕ\u0301\nṍõ\u0301\nṎÕ\u0308\nṏõ\u0308\nṐŌ\u0300\nṑō\u0300\nṒŌ\u0301\nṓō\u0301",
  "ṔP\u0301\nṕp\u0301\nṖP\u0307\nṗp\u0307\nṘR\u0307\nṙr\u0307\nṚR\u0323\nṛr\u0323\nṜṚ\u0304",
  "ṝṛ\u0304\nṞR\u0331\nṟr\u0331\nṠS\u0307\nṡs\u0307\nṢS\u0323\nṣs\u0323\nṤŚ\u0307\nṥś\u0307",
  "ṦŠ\u0307\nṧš\u0307\nṨṢ\u0307\nṩṣ\u0307\nṪT\u0307\nṫt\u0307\nṬT\u0323\nṭt\u0323\nṮT\u0331",
  "ṯt\u0331\nṰT\u032d\nṱt\u032d\nṲU\u0324\nṳu\u0324\nṴU\u0330\nṵu\u0330\nṶU\u032d\nṷu\u032d",
  "ṸŨ\u0301\nṹũ\u0301\nṺŪ\u0308\nṻū\u0308\nṼV\u0303\nṽv\u0303\nṾV\u0323\nṿv\u0323\nẀW\u0300",
  "ẁw\u0300\nẂW\u0301\nẃw\u0301\nẄW\u0308\nẅw\u0308\nẆW\u0307\nẇw\u0307\nẈW\u0323\nẉw\u0323",
  "ẊX\u0307\nẋx\u0307\nẌX\u0308\nẍx\u0308\nẎY\u0307\nẏy\u0307\nẐZ\u0302\nẑz\u0302\nẒZ\u0323",
  "ẓz\u0323\nẔZ\u0331\nẕz\u0331\nẖh\u0331\nẗt\u0308\nẘw\u030a\nẙy\u030a\nẛſ\u0307\nẠA\u0323",
  "ạa\u0323\nẢA\u0309\nảa\u0309\nẤÂ\u0301\nấâ\u0301\nẦÂ\u0300\nầâ\u0300\nẨÂ\u0309\nẩâ\u0309",
  "ẪÂ\u0303\nẫâ\u0303\nẬẠ\u0302\nậạ\u0302\nẮĂ\u0301\nắă\u0301\nẰĂ\u0300\nằă\u0300\nẲĂ\u0309",
  "ẳă\u0309\nẴĂ\u0303\nẵă\u0303\nẶẠ\u0306\nặạ\u0306\nẸE\u0323\nẹe\u0323\nẺE\u0309\nẻe\u0309",
  "ẼE\u0303\nẽe\u0303\nẾÊ\u0301\nếê\u0301\nỀÊ\u0300\nềê\u0300\nỂÊ\u0309\nểê\u0309\nỄÊ\u0303",
  "ễê\u0303\nỆẸ\u0302\nệẹ\u0302\nỈI\u0309\nỉi\u0309\nỊI\u0323\nịi\u0323\nỌO\u0323\nọo\u0323",
  "ỎO\u0309\nỏo\u0309\nỐÔ\u0301\nốô\u0301\nỒÔ\u0300\nồô\u0300\nỔÔ\u0309\nổô\u0309\nỖÔ\u0303",
  "ỗô\u0303\nỘỌ\u0302\nộọ\u0302\nỚƠ\u0301\nớơ\u0301\nỜƠ\u0300\nờơ\u0300\nỞƠ\u0309\nởơ\u0309",
  "ỠƠ\u0303\nỡơ\u0303\nỢƠ\u0323\nợơ\u0323\nỤU\u0323\nụu\u0323\nỦU\u0309\nủu\u0309\nỨƯ\u0301",
  "ứư\u0301\nỪƯ\u0300\nừư\u0300\nỬƯ\u0309\nửư\u0309\nỮƯ\u0303\nữư\u0303\nỰƯ\u0323\nựư\u0323",
  "ỲY\u0300\nỳy\u0300\nỴY\u0323\nỵy\u0323\nỶY\u0309\nỷy\u0309\nỸY\u0303\nỹy\u0303\nἀα\u0313",
  "ἁα\u0314\nἂἀ\u0300\nἃἁ\u0300\nἄἀ\u0301\nἅἁ\u0301\nἆἀ\u0342\nἇἁ\u0342\nἈΑ\u0313\nἉΑ\u0314",
  "ἊἈ\u0300\nἋἉ\u0300\nἌἈ\u0301\nἍἉ\u0301\nἎἈ\u0342\nἏἉ\u0342\nἐε\u0313\nἑε\u0314\nἒἐ\u0300",
  "ἓἑ\u0300\nἔἐ\u0301\nἕἑ\u0301\nἘΕ\u0313\nἙΕ\u0314\nἚἘ\u0300\nἛἙ\u0300\nἜἘ\u0301\nἝἙ\u0301",
  "ἠη\u0313\nἡη\u0314\nἢἠ\u0300\nἣἡ\u0300\nἤἠ\u0301\nἥἡ\u0301\nἦἠ\u0342\nἧἡ\u0342\nἨΗ\u0313",
  "ἩΗ\u0314\nἪἨ\u0300\nἫἩ\u0300\nἬἨ\u0301\nἭἩ\u0301\nἮἨ\u0342\nἯἩ\u0342\nἰι\u0313\nἱι\u0314",
  "ἲἰ\u0300\nἳἱ\u0300\nἴἰ\u0301\nἵἱ\u0301\nἶἰ\u0342\nἷἱ\u0342\nἸΙ\u0313\nἹΙ\u0314\nἺἸ\u0300",
  "ἻἹ\u0300\nἼἸ\u0301\nἽἹ\u0301\nἾἸ\u0342\nἿἹ\u0342\nὀο\u0313\nὁο\u0314\nὂὀ\u0300\nὃὁ\u0300",
  "ὄὀ\u0301\nὅὁ\u0301\nὈΟ\u0313\nὉΟ\u0314\nὊὈ\u0300\nὋὉ\u0300\nὌὈ\u0301\nὍὉ\u0301\nὐυ\u0313",
  "ὑυ\u0314\nὒὐ\u0300\nὓὑ\u0300\nὔὐ\u0301\nὕὑ\u0301\nὖὐ\u0342\nὗὑ\u0342\nὙΥ\u0314\nὛὙ\u0300",
  "ὝὙ\u0301\nὟὙ\u0342\nὠω\u0313\nὡω\u0314\nὢὠ\u0300\nὣὡ\u0300\nὤὠ\u0301\nὥὡ\u0301\nὦὠ\u0342",
  "ὧὡ\u0342\nὨΩ\u0313\nὩΩ\u0314\nὪὨ\u0300\nὫὩ\u0300\nὬὨ\u0301\nὭὩ\u0301\nὮὨ\u0342\nὯὩ\u0342",
  "ὰα\u0300\nὲε\u0300\nὴη\u0300\nὶι\u0300\nὸο\u0300\nὺυ\u0300\nὼω\u0300\nᾀἀ\u0345\nᾁἁ\u0345",
  "ᾂἂ\u0345\nᾃἃ\u0345\nᾄἄ\u0345\nᾅἅ\u0345\nᾆἆ\u0345\nᾇἇ\u0345\nᾈἈ\u0345\nᾉἉ\u0345\nᾊἊ\u0345",
  "ᾋἋ\u0345\nᾌἌ\u0345\nᾍἍ\u0345\nᾎἎ\u0345\nᾏἏ\u0345\nᾐἠ\u0345\nᾑἡ\u0345\nᾒἢ\u0345\nᾓἣ\u0345",
  "ᾔἤ\u0345\nᾕἥ\u0345\nᾖἦ\u0345\nᾗἧ\u0345\nᾘἨ\u0345\nᾙἩ\u0345\nᾚἪ\u0345\nᾛἫ\u0345\nᾜἬ\u0345",
  "ᾝἭ\u0345\nᾞἮ\u0345\nᾟἯ\u0345\nᾠὠ\u0345\nᾡὡ\u0345\nᾢὢ\u0345\nᾣὣ\u0345\nᾤὤ\u0345\nᾥὥ\u0345",
  "ᾦὦ\u0345\nᾧὧ\u0345\nᾨὨ\u0345\nᾩὩ\u0345\nᾪὪ\u0345\nᾫὫ\u0345\nᾬὬ\u0345\nᾭὭ\u0345\nᾮὮ\u0345",
  "ᾯὯ\u0345\nᾰα\u0306\nᾱα\u0304\nᾲὰ\u0345\nᾳα\u0345\nᾴά\u0345\nᾶα\u0342\nᾷᾶ\u0345\nᾸΑ\u0306",
  "ᾹΑ\u0304\nᾺΑ\u0300\nᾼΑ\u0345\n῁¨\u0342\nῂὴ\u0345\nῃη\u0345\nῄή\u0345\nῆη\u0342\nῇῆ\u0345",
  "ῈΕ\u0300\nῊΗ\u0300\nῌΗ\u0345\n῍᾿\u0300\n῎᾿\u0301\n῏᾿\u0342\nῐι\u0306\nῑι\u0304\nῒϊ\u0300",
  "ῖι\u0342\nῗϊ\u0342\nῘΙ\u0306\nῙΙ\u0304\nῚΙ\u0300\n῝῾\u0300\n῞῾\u0301\n῟῾\u0342\nῠυ\u0306",
  "ῡυ\u0304\nῢϋ\u0300\nῤρ\u0313\nῥρ\u0314\nῦυ\u0342\nῧϋ\u0342\nῨΥ\u0306\nῩΥ\u0304\nῪΥ\u0300",
  "ῬΡ\u0314\n῭¨\u0300\nῲὼ\u0345\nῳω\u0345\nῴώ\u0345\nῶω\u0342\nῷῶ\u0345\nῸΟ\u0300\nῺΩ\u0300",
  "ῼΩ\u0345\n↚←\u0338\n↛→\u0338\n↮↔\u0338\n⇍⇐\u0338\n⇎⇔\u0338\n⇏⇒\u0338\n∄∃\u0338\n∉∈\u0338",
  "∌∋\u0338\n∤∣\u0338\n∦∥\u0338\n≁∼\u0338\n≄≃\u0338\n≇≅\u0338\n≉≈\u0338\n≠=\u0338\n≢≡\u0338",
  "≭≍\u0338\n≮<\u0338\n≯>\u0338\n≰≤\u0338\n≱≥\u0338\n≴≲\u0338\n≵≳\u0338\n≸≶\u0338\n≹≷\u0338",
  "⊀≺\u0338\n⊁≻\u0338\n⊄⊂\u0338\n⊅⊃\u0338\n⊈⊆\u0338\n⊉⊇\u0338\n⊬⊢\u0338\n⊭⊨\u0338\n⊮⊩\u0338",
  "⊯⊫\u0338\n⋠≼\u0338\n⋡≽\u0338\n⋢⊑\u0338\n⋣⊒\u0338\n⋪⊲\u0338\n⋫⊳\u0338\n⋬⊴\u0338\n⋭⊵\u0338",
  "がか\u3099\nぎき\u3099\nぐく\u3099\nげけ\u3099\nごこ\u3099\nざさ\u3099\nじし\u3099\nずす\u3099\nぜせ\u3099",
  "ぞそ\u3099\nだた\u3099\nぢち\u3099\nづつ\u3099\nでて\u3099\nどと\u3099\nばは\u3099\nぱは\u309a\nびひ\u3099",
  "ぴひ\u309a\nぶふ\u3099\nぷふ\u309a\nべへ\u3099\nぺへ\u309a\nぼほ\u3099\nぽほ\u309a\nゔう\u3099\nゞゝ\u3099",
  "ガカ\u3099\nギキ\u3099\nグク\u3099\nゲケ\u3099\nゴコ\u3099\nザサ\u3099\nジシ\u3099\nズス\u3099\nゼセ\u3099",
  "ゾソ\u3099\nダタ\u3099\nヂチ\u3099\nヅツ\u3099\nデテ\u3099\nドト\u3099\nバハ\u3099\nパハ\u309a\nビヒ\u3099",
  "ピヒ\u309a\nブフ\u3099\nプフ\u309a\nベヘ\u3099\nペヘ\u309a\nボホ\u3099\nポホ\u309a\nヴウ\u3099\nヷワ\u3099",
  "ヸヰ\u3099\nヹヱ\u3099\nヺヲ\u3099\nヾヽ\u3099\n𑂚𑂚\n𑂜𑂜\n𑂫𑂫\n𑄮𑄮\n𑄯𑄯\n𑍋𑍋\n𑍌𑍌\n𑒻𑒻\n𑒼𑒼\n𑒾𑒾",
  "𑖺𑖺\n𑖻𑖻\n𑤸𑤸"]

/-- The classes of marks: the first and the last code point, and the class. -/
def markClasses : List (Nat × Nat × Nat) :=
  [(0x300, 0x314, 230), (0x315, 0x315, 232), (0x316, 0x319, 220), (0x31a, 0x31a, 232),
   (0x31b, 0x31b, 216), (0x31c, 0x320, 220), (0x321, 0x322, 202), (0x323, 0x326, 220),
   (0x327, 0x328, 202), (0x329, 0x333, 220), (0x334, 0x338, 1), (0x339, 0x33c, 220),
   (0x33d, 0x344, 230), (0x345, 0x345, 240), (0x346, 0x346, 230), (0x347, 0x349, 220),
   (0x34a, 0x34c, 230), (0x34d, 0x34e, 220), (0x350, 0x352, 230), (0x353, 0x356, 220),
   (0x357, 0x357, 230), (0x358, 0x358, 232), (0x359, 0x35a, 220), (0x35b, 0x35b, 230),
   (0x35c, 0x35c, 233), (0x35d, 0x35e, 234), (0x35f, 0x35f, 233), (0x360, 0x361, 234),
   (0x362, 0x362, 233), (0x363, 0x36f, 230), (0x483, 0x487, 230), (0x591, 0x591, 220),
   (0x592, 0x595, 230), (0x596, 0x596, 220), (0x597, 0x599, 230), (0x59a, 0x59a, 222),
   (0x59b, 0x59b, 220), (0x59c, 0x5a1, 230), (0x5a2, 0x5a7, 220), (0x5a8, 0x5a9, 230),
   (0x5aa, 0x5aa, 220), (0x5ab, 0x5ac, 230), (0x5ad, 0x5ad, 222), (0x5ae, 0x5ae, 228),
   (0x5af, 0x5af, 230), (0x5b0, 0x5b0, 10), (0x5b1, 0x5b1, 11), (0x5b2, 0x5b2, 12),
   (0x5b3, 0x5b3, 13), (0x5b4, 0x5b4, 14), (0x5b5, 0x5b5, 15), (0x5b6, 0x5b6, 16),
   (0x5b7, 0x5b7, 17), (0x5b8, 0x5b8, 18), (0x5b9, 0x5ba, 19), (0x5bb, 0x5bb, 20),
   (0x5bc, 0x5bc, 21), (0x5bd, 0x5bd, 22), (0x5bf, 0x5bf, 23), (0x5c1, 0x5c1, 24),
   (0x5c2, 0x5c2, 25), (0x5c4, 0x5c4, 230), (0x5c5, 0x5c5, 220), (0x5c7, 0x5c7, 18),
   (0x610, 0x617, 230), (0x618, 0x618, 30), (0x619, 0x619, 31), (0x61a, 0x61a, 32),
   (0x64b, 0x64b, 27), (0x64c, 0x64c, 28), (0x64d, 0x64d, 29), (0x64e, 0x64e, 30),
   (0x64f, 0x64f, 31), (0x650, 0x650, 32), (0x651, 0x651, 33), (0x652, 0x652, 34),
   (0x653, 0x654, 230), (0x655, 0x656, 220), (0x657, 0x65b, 230), (0x65c, 0x65c, 220),
   (0x65d, 0x65e, 230), (0x65f, 0x65f, 220), (0x670, 0x670, 35), (0x6d6, 0x6dc, 230),
   (0x6df, 0x6e2, 230), (0x6e3, 0x6e3, 220), (0x6e4, 0x6e4, 230), (0x6e7, 0x6e8, 230),
   (0x6ea, 0x6ea, 220), (0x6eb, 0x6ec, 230), (0x6ed, 0x6ed, 220), (0x711, 0x711, 36),
   (0x730, 0x730, 230), (0x731, 0x731, 220), (0x732, 0x733, 230), (0x734, 0x734, 220),
   (0x735, 0x736, 230), (0x737, 0x739, 220), (0x73a, 0x73a, 230), (0x73b, 0x73c, 220),
   (0x73d, 0x73d, 230), (0x73e, 0x73e, 220), (0x73f, 0x741, 230), (0x742, 0x742, 220),
   (0x743, 0x743, 230), (0x744, 0x744, 220), (0x745, 0x745, 230), (0x746, 0x746, 220),
   (0x747, 0x747, 230), (0x748, 0x748, 220), (0x749, 0x74a, 230), (0x7eb, 0x7f1, 230),
   (0x7f2, 0x7f2, 220), (0x7f3, 0x7f3, 230), (0x7fd, 0x7fd, 220), (0x816, 0x819, 230),
   (0x81b, 0x823, 230), (0x825, 0x827, 230), (0x829, 0x82d, 230), (0x859, 0x85b, 220),
   (0x898, 0x898, 230), (0x899, 0x89b, 220), (0x89c, 0x89f, 230), (0x8ca, 0x8ce, 230),
   (0x8cf, 0x8d3, 220), (0x8d4, 0x8e1, 230), (0x8e3, 0x8e3, 220), (0x8e4, 0x8e5, 230),
   (0x8e6, 0x8e6, 220), (0x8e7, 0x8e8, 230), (0x8e9, 0x8e9, 220), (0x8ea, 0x8ec, 230),
   (0x8ed, 0x8ef, 220), (0x8f0, 0x8f0, 27), (0x8f1, 0x8f1, 28), (0x8f2, 0x8f2, 29),
   (0x8f3, 0x8f5, 230), (0x8f6, 0x8f6, 220), (0x8f7, 0x8f8, 230), (0x8f9, 0x8fa, 220),
   (0x8fb, 0x8ff, 230), (0x93c, 0x93c, 7), (0x94d, 0x94d, 9), (0x951, 0x951, 230),
   (0x952, 0x952, 220), (0x953, 0x954, 230), (0x9bc, 0x9bc, 7), (0x9cd, 0x9cd, 9),
   (0x9fe, 0x9fe, 230), (0xa3c, 0xa3c, 7), (0xa4d, 0xa4d, 9), (0xabc, 0xabc, 7),
   (0xacd, 0xacd, 9), (0xb3c, 0xb3c, 7), (0xb4d, 0xb4d, 9), (0xbcd, 0xbcd, 9), (0xc3c, 0xc3c, 7),
   (0xc4d, 0xc4d, 9), (0xc55, 0xc55, 84), (0xc56, 0xc56, 91), (0xcbc, 0xcbc, 7),
   (0xccd, 0xccd, 9), (0xd3b, 0xd3c, 9), (0xd4d, 0xd4d, 9), (0xdca, 0xdca, 9),
   (0xe38, 0xe39, 103), (0xe3a, 0xe3a, 9), (0xe48, 0xe4b, 107), (0xeb8, 0xeb9, 118),
   (0xeba, 0xeba, 9), (0xec8, 0xecb, 122), (0xf18, 0xf19, 220), (0xf35, 0xf35, 220),
   (0xf37, 0xf37, 220), (0xf39, 0xf39, 216), (0xf71, 0xf71, 129), (0xf72, 0xf72, 130),
   (0xf74, 0xf74, 132), (0xf7a, 0xf7d, 130), (0xf80, 0xf80, 130), (0xf82, 0xf83, 230),
   (0xf84, 0xf84, 9), (0xf86, 0xf87, 230), (0xfc6, 0xfc6, 220), (0x1037, 0x1037, 7),
   (0x1039, 0x103a, 9), (0x108d, 0x108d, 220), (0x135d, 0x135f, 230), (0x1714, 0x1715, 9),
   (0x1734, 0x1734, 9), (0x17d2, 0x17d2, 9), (0x17dd, 0x17dd, 230), (0x18a9, 0x18a9, 228),
   (0x1939, 0x1939, 222), (0x193a, 0x193a, 230), (0x193b, 0x193b, 220), (0x1a17, 0x1a17, 230),
   (0x1a18, 0x1a18, 220), (0x1a60, 0x1a60, 9), (0x1a75, 0x1a7c, 230), (0x1a7f, 0x1a7f, 220),
   (0x1ab0, 0x1ab4, 230), (0x1ab5, 0x1aba, 220), (0x1abb, 0x1abc, 230), (0x1abd, 0x1abd, 220),
   (0x1abf, 0x1ac0, 220), (0x1ac1, 0x1ac2, 230), (0x1ac3, 0x1ac4, 220), (0x1ac5, 0x1ac9, 230),
   (0x1aca, 0x1aca, 220), (0x1acb, 0x1ace, 230), (0x1b34, 0x1b34, 7), (0x1b44, 0x1b44, 9),
   (0x1b6b, 0x1b6b, 230), (0x1b6c, 0x1b6c, 220), (0x1b6d, 0x1b73, 230), (0x1baa, 0x1bab, 9),
   (0x1be6, 0x1be6, 7), (0x1bf2, 0x1bf3, 9), (0x1c37, 0x1c37, 7), (0x1cd0, 0x1cd2, 230),
   (0x1cd4, 0x1cd4, 1), (0x1cd5, 0x1cd9, 220), (0x1cda, 0x1cdb, 230), (0x1cdc, 0x1cdf, 220),
   (0x1ce0, 0x1ce0, 230), (0x1ce2, 0x1ce8, 1), (0x1ced, 0x1ced, 220), (0x1cf4, 0x1cf4, 230),
   (0x1cf8, 0x1cf9, 230), (0x1dc0, 0x1dc1, 230), (0x1dc2, 0x1dc2, 220), (0x1dc3, 0x1dc9, 230),
   (0x1dca, 0x1dca, 220), (0x1dcb, 0x1dcc, 230), (0x1dcd, 0x1dcd, 234), (0x1dce, 0x1dce, 214),
   (0x1dcf, 0x1dcf, 220), (0x1dd0, 0x1dd0, 202), (0x1dd1, 0x1df5, 230), (0x1df6, 0x1df6, 232),
   (0x1df7, 0x1df8, 228), (0x1df9, 0x1df9, 220), (0x1dfa, 0x1dfa, 218), (0x1dfb, 0x1dfb, 230),
   (0x1dfc, 0x1dfc, 233), (0x1dfd, 0x1dfd, 220), (0x1dfe, 0x1dfe, 230), (0x1dff, 0x1dff, 220),
   (0x20d0, 0x20d1, 230), (0x20d2, 0x20d3, 1), (0x20d4, 0x20d7, 230), (0x20d8, 0x20da, 1),
   (0x20db, 0x20dc, 230), (0x20e1, 0x20e1, 230), (0x20e5, 0x20e6, 1), (0x20e7, 0x20e7, 230),
   (0x20e8, 0x20e8, 220), (0x20e9, 0x20e9, 230), (0x20ea, 0x20eb, 1), (0x20ec, 0x20ef, 220),
   (0x20f0, 0x20f0, 230), (0x2cef, 0x2cf1, 230), (0x2d7f, 0x2d7f, 9), (0x2de0, 0x2dff, 230),
   (0x302a, 0x302a, 218), (0x302b, 0x302b, 228), (0x302c, 0x302c, 232), (0x302d, 0x302d, 222),
   (0x302e, 0x302f, 224), (0x3099, 0x309a, 8), (0xa66f, 0xa66f, 230), (0xa674, 0xa67d, 230),
   (0xa69e, 0xa69f, 230), (0xa6f0, 0xa6f1, 230), (0xa806, 0xa806, 9), (0xa82c, 0xa82c, 9),
   (0xa8c4, 0xa8c4, 9), (0xa8e0, 0xa8f1, 230), (0xa92b, 0xa92d, 220), (0xa953, 0xa953, 9),
   (0xa9b3, 0xa9b3, 7), (0xa9c0, 0xa9c0, 9), (0xaab0, 0xaab0, 230), (0xaab2, 0xaab3, 230),
   (0xaab4, 0xaab4, 220), (0xaab7, 0xaab8, 230), (0xaabe, 0xaabf, 230), (0xaac1, 0xaac1, 230),
   (0xaaf6, 0xaaf6, 9), (0xabed, 0xabed, 9), (0xfb1e, 0xfb1e, 26), (0xfe20, 0xfe26, 230),
   (0xfe27, 0xfe2d, 220), (0xfe2e, 0xfe2f, 230), (0x101fd, 0x101fd, 220), (0x102e0, 0x102e0, 220),
   (0x10376, 0x1037a, 230), (0x10a0d, 0x10a0d, 220), (0x10a0f, 0x10a0f, 230),
   (0x10a38, 0x10a38, 230), (0x10a39, 0x10a39, 1), (0x10a3a, 0x10a3a, 220), (0x10a3f, 0x10a3f, 9),
   (0x10ae5, 0x10ae5, 230), (0x10ae6, 0x10ae6, 220), (0x10d24, 0x10d27, 230),
   (0x10eab, 0x10eac, 230), (0x10f46, 0x10f47, 220), (0x10f48, 0x10f4a, 230),
   (0x10f4b, 0x10f4b, 220), (0x10f4c, 0x10f4c, 230), (0x10f4d, 0x10f50, 220),
   (0x10f82, 0x10f82, 230), (0x10f83, 0x10f83, 220), (0x10f84, 0x10f84, 230),
   (0x10f85, 0x10f85, 220), (0x11046, 0x11046, 9), (0x11070, 0x11070, 9), (0x1107f, 0x1107f, 9),
   (0x110b9, 0x110b9, 9), (0x110ba, 0x110ba, 7), (0x11100, 0x11102, 230), (0x11133, 0x11134, 9),
   (0x11173, 0x11173, 7), (0x111c0, 0x111c0, 9), (0x111ca, 0x111ca, 7), (0x11235, 0x11235, 9),
   (0x11236, 0x11236, 7), (0x112e9, 0x112e9, 7), (0x112ea, 0x112ea, 9), (0x1133b, 0x1133c, 7),
   (0x1134d, 0x1134d, 9), (0x11366, 0x1136c, 230), (0x11370, 0x11374, 230), (0x11442, 0x11442, 9),
   (0x11446, 0x11446, 7), (0x1145e, 0x1145e, 230), (0x114c2, 0x114c2, 9), (0x114c3, 0x114c3, 7),
   (0x115bf, 0x115bf, 9), (0x115c0, 0x115c0, 7), (0x1163f, 0x1163f, 9), (0x116b6, 0x116b6, 9),
   (0x116b7, 0x116b7, 7), (0x1172b, 0x1172b, 9), (0x11839, 0x11839, 9), (0x1183a, 0x1183a, 7),
   (0x1193d, 0x1193e, 9), (0x11943, 0x11943, 7), (0x119e0, 0x119e0, 9), (0x11a34, 0x11a34, 9),
   (0x11a47, 0x11a47, 9), (0x11a99, 0x11a99, 9), (0x11c3f, 0x11c3f, 9), (0x11d42, 0x11d42, 7),
   (0x11d44, 0x11d45, 9), (0x11d97, 0x11d97, 9), (0x16af0, 0x16af4, 1), (0x16b30, 0x16b36, 230),
   (0x16ff0, 0x16ff1, 6), (0x1bc9e, 0x1bc9e, 1), (0x1d165, 0x1d166, 216), (0x1d167, 0x1d169, 1),
   (0x1d16d, 0x1d16d, 226), (0x1d16e, 0x1d172, 216), (0x1d17b, 0x1d182, 220),
   (0x1d185, 0x1d189, 230), (0x1d18a, 0x1d18b, 220), (0x1d1aa, 0x1d1ad, 230),
   (0x1d242, 0x1d244, 230), (0x1e000, 0x1e006, 230), (0x1e008, 0x1e018, 230),
   (0x1e01b, 0x1e021, 230), (0x1e023, 0x1e024, 230), (0x1e026, 0x1e02a, 230),
   (0x1e130, 0x1e136, 230), (0x1e2ae, 0x1e2ae, 230), (0x1e2ec, 0x1e2ef, 230),
   (0x1e8d0, 0x1e8d6, 220), (0x1e944, 0x1e949, 230), (0x1e94a, 0x1e94a, 7)]

end Tabstave.Text.Normal
