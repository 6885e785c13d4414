/-!
# Names of character properties

The loose names that a pattern may give a property of characters: of properties that hold or do not
hold, of general categories, of scripts and of the values of a few other properties. Each stands with
the sizes of what matches its characters and of what matches the others, reckoned as `Ranges.size` does.
-/

namespace AddonConfig.Pattern.Property

/-- The names of a set of characters and the sizes of what matches it and its complement. -/
structure Entry where
  names : List String
  size : Nat
  complement : Nat
  deriving Repr

/-- Properties that a character has or has not. -/
def flags : List Entry :=
  [⟨["ahex", "asciihexdigit"], 88, 1072⟩, ⟨["alpha", "alphabetic"], 47072, 44508⟩,
   ⟨["bidic", "bidicontrol"], 336, 1580⟩, ⟨["bidim", "bidimirrored"], 5560, 8336⟩,
   ⟨["cased"], 10372, 12428⟩, ⟨["caseignorable", "ci"], 24496, 34912⟩,
   ⟨["changeswhencasefolded", "cwcf"], 25064, 28536⟩, ⟨["changeswhencasemapped", "cwcm"], 8396, 10468⟩,
   ⟨["changeswhenlowercased", "cwl"], 24504, 27976⟩, ⟨["changeswhentitlecased", "cwt"], 25312, 28820⟩,
   ⟨["changeswhenuppercased", "cwu"], 25380, 28956⟩, ⟨["dash"], 1632, 4024⟩,
   ⟨["defaultignorablecodepoint", "di"], 1476, 4200⟩, ⟨["dep", "deprecated"], 736, 2668⟩,
   ⟨["dia", "diacritic"], 13476, 23748⟩, ⟨["ebase", "emojimodifierbase"], 2144, 4468⟩,
   ⟨["ecomp", "emojicomponent"], 908, 2864⟩, ⟨["emod", "emojimodifier"], 196, 1300⟩,
   ⟨["emoji"], 7624, 10296⟩, ⟨["emojipresentation", "epres"], 4820, 6828⟩,
   ⟨["ext", "extender"], 2980, 7820⟩, ⟨["extendedpictographic", "extpict"], 5072, 6988⟩,
   ⟨["graphemebase", "grbase"], 55568, 50116⟩, ⟨["graphemeextend", "grext"], 20196, 29688⟩,
   ⟨["graphemelink"], 4136, 10092⟩, ⟨["hex", "hexdigit"], 376, 1484⟩, ⟨["hyphen"], 840, 2744⟩,
   ⟨["idc", "idcontinue"], 49428, 45844⟩, ⟨["idcompatmathcontinue"], 1096, 2792⟩,
   ⟨["idcompatmathstart"], 820, 2376⟩, ⟨["ideo", "ideographic"], 3952, 3964⟩,
   ⟨["ids", "idstart"], 42868, 42864⟩, ⟨["idsb", "idsbinaryoperator"], 300, 1576⟩,
   ⟨["idst", "idstrinaryoperator"], 164, 1268⟩, ⟨["idsu", "idsunaryoperator"], 164, 1232⟩,
   ⟨["joinc", "joincontrol"], 164, 1268⟩, ⟨["loe", "logicalorderexception"], 540, 1988⟩,
   ⟨["lower", "lowercase"], 28196, 31972⟩, ⟨["math"], 7168, 9348⟩,
   ⟨["mcm", "modifiercombiningmark"], 516, 1696⟩, ⟨["nchar", "noncharactercodepoint"], 1992, 5356⟩,
   ⟨["otheralphabetic"], 14096, 20448⟩, ⟨["otherdefaultignorablecodepoint"], 1040, 3004⟩,
   ⟨["othergraphemeextend"], 3368, 7584⟩, ⟨["otheridcontinue"], 668, 2432⟩,
   ⟨["otheridstart"], 400, 1816⟩, ⟨["otherlowercase"], 1976, 4664⟩, ⟨["othermath"], 6700, 8764⟩,
   ⟨["otheruppercase"], 640, 2048⟩, ⟨["patsyn", "patternsyntax"], 1792, 3244⟩,
   ⟨["patternwhitespace", "patws"], 340, 1480⟩, ⟨["pcm", "prependedconcatenationmark"], 636, 2128⟩,
   ⟨["qmark", "quotationmark"], 852, 2512⟩, ⟨["radical"], 404, 1368⟩,
   ⟨["regionalindicator", "ri"], 196, 1300⟩, ⟨["sd", "softdotted"], 2248, 5236⟩,
   ⟨["sentenceterminal", "sterm"], 5796, 13172⟩, ⟨["space", "whitespace", "wspace"], 680, 1924⟩,
   ⟨["term", "terminalpunctuation"], 7316, 15772⟩, ⟨["uideo", "unifiedideograph"], 2776, 2824⟩,
   ⟨["upper", "uppercase"], 26976, 30720⟩, ⟨["variationselector", "vs"], 500, 1976⟩,
   ⟨["xidc", "xidcontinue"], 49816, 46128⟩, ⟨["xids", "xidstart"], 43256, 43148⟩]

/-- General categories, the one of surrogates left out, since no character has it. -/
def categories : List Entry :=
  [⟨["any"], 964, 64⟩, ⟨["assigned"], 50972, 42372⟩, ⟨["ascii"], 72, 928⟩,
   ⟨["c", "other"], 43024, 50756⟩, ⟨["cc", "control", "cntrl"], 204, 1032⟩,
   ⟨["cf", "format"], 1784, 4776⟩, ⟨["cn", "unassigned"], 42372, 50972⟩,
   ⟨["co", "privateuse"], 864, 1196⟩, ⟨["l", "letter"], 42732, 42836⟩,
   ⟨["lc", "casedletter"], 9576, 11324⟩, ⟨["ll", "lowercaseletter"], 27568, 31172⟩,
   ⟨["lm", "modifierletter"], 4984, 10724⟩, ⟨["lo", "otherletter"], 34076, 36720⟩,
   ⟨["lt", "titlecaseletter"], 552, 1696⟩, ⟨["lu", "uppercaseletter"], 26496, 30072⟩,
   ⟨["m", "mark", "combiningmark"], 18732, 27108⟩, ⟨["mc", "spacingmark"], 10308, 15932⟩,
   ⟨["me", "enclosingmark"], 468, 2088⟩, ⟨["mn", "nonspacingmark"], 19348, 28876⟩,
   ⟨["n", "number"], 9748, 20400⟩, ⟨["nd", "decimalnumber", "digit"], 5116, 12720⟩,
   ⟨["nl", "letternumber"], 1112, 3176⟩, ⟨["no", "othernumber"], 5100, 11008⟩,
   ⟨["p", "punctuation", "punct"], 11884, 22828⟩, ⟨["pc", "connectorpunctuation"], 540, 1884⟩,
   ⟨["pd", "dashpunctuation"], 1392, 3608⟩, ⟨["pe", "closepunctuation"], 3504, 5968⟩,
   ⟨["pf", "finalpunctuation"], 552, 1796⟩, ⟨["pi", "initialpunctuation"], 588, 1832⟩,
   ⟨["po", "otherpunctuation"], 11212, 21536⟩, ⟨["ps", "openpunctuation"], 3644, 6040⟩,
   ⟨["s", "symbol"], 15792, 21316⟩, ⟨["sc", "currencysymbol"], 1720, 4720⟩,
   ⟨["sk", "modifiersymbol"], 2020, 4500⟩, ⟨["sm", "mathsymbol"], 3960, 6944⟩,
   ⟨["so", "othersymbol"], 13088, 16940⟩, ⟨["z", "separator"], 608, 1852⟩,
   ⟨["zl", "lineseparator"], 164, 1268⟩, ⟨["zp", "paragraphseparator"], 164, 1268⟩,
   ⟨["zs", "spaceseparator"], 572, 1816⟩]

/-- Scripts, those left out that no character has. -/
def scripts : List Entry :=
  [⟨["adlam", "adlm"], 336, 1372⟩, ⟨["aghb", "caucasianalbanian"], 300, 1304⟩, ⟨["ahom"], 336, 1404⟩,
   ⟨["anatolianhieroglyphs", "hluw"], 264, 1300⟩, ⟨["arab", "arabic"], 3580, 4780⟩,
   ⟨["armenian", "armn"], 440, 1544⟩, ⟨["armi", "imperialaramaic"], 232, 1236⟩,
   ⟨["avestan", "avst"], 232, 1200⟩, ⟨["bali", "balinese"], 268, 1200⟩, ⟨["bamu", "bamum"], 432, 1704⟩,
   ⟨["bass", "bassavah"], 232, 1372⟩, ⟨["batak", "batk"], 200, 1200⟩, ⟨["beng", "bengali"], 700, 1600⟩,
   ⟨["bhaiksuki", "bhks"], 372, 1440⟩, ⟨["bopo", "bopomofo"], 300, 1644⟩,
   ⟨["brah", "brahmi"], 336, 1268⟩, ⟨["brai", "braille"], 164, 1232⟩, ⟨["bugi", "buginese"], 200, 1236⟩,
   ⟨["buhd", "buhid"], 164, 1200⟩, ⟨["cakm", "chakma"], 300, 1368⟩,
   ⟨["canadianaboriginal", "cans"], 432, 1672⟩, ⟨["cari", "carian"], 264, 1268⟩, ⟨["cham"], 304, 1440⟩,
   ⟨["cher", "cherokee"], 436, 1640⟩, ⟨["chorasmian", "chrs"], 264, 1200⟩,
   ⟨["common", "zyyy"], 12608, 15548⟩, ⟨["copt", "coptic", "qaac"], 336, 1472⟩,
   ⟨["cpmn", "cyprominoan"], 264, 1300⟩, ⟨["cprt", "cypriot"], 376, 1344⟩,
   ⟨["cuneiform", "xsux"], 572, 1472⟩, ⟨["cyrillic", "cyrl"], 1244, 2964⟩,
   ⟨["deseret", "dsrt"], 264, 1200⟩, ⟨["deva", "devanagari"], 536, 1808⟩,
   ⟨["diak", "divesakuru"], 516, 1584⟩, ⟨["dogr", "dogra"], 196, 1300⟩,
   ⟨["dupl", "duployan"], 440, 1476⟩, ⟨["egyp", "egyptianhieroglyphs"], 536, 1332⟩,
   ⟨["elba", "elbasan"], 196, 1200⟩, ⟨["elym", "elymaic"], 196, 1168⟩,
   ⟨["ethi", "ethiopic"], 2016, 3524⟩, ⟨["gara", "garay"], 336, 1304⟩,
   ⟨["geor", "georgian"], 652, 1856⟩, ⟨["glag", "glagolitic"], 508, 1712⟩,
   ⟨["gong", "gunjalagondi"], 444, 1548⟩, ⟨["gonm", "masaramgondi"], 480, 1548⟩,
   ⟨["goth", "gothic"], 264, 1268⟩, ⟨["gran", "grantha"], 768, 1836⟩, ⟨["greek", "grek"], 2244, 3960⟩,
   ⟨["gujarati", "gujr"], 700, 1600⟩, ⟨["gukh", "gurungkhema"], 196, 1300⟩,
   ⟨["gurmukhi", "guru"], 772, 1708⟩, ⟨["han", "hani"], 3620, 3632⟩, ⟨["hang", "hangul"], 1456, 2672⟩,
   ⟨["hanifirohingya", "rohg"], 232, 1236⟩, ⟨["hano", "hanunoo"], 164, 1236⟩,
   ⟨["hatr", "hatran"], 268, 1272⟩, ⟨["hebr", "hebrew"], 584, 1724⟩, ⟨["hira", "hiragana"], 740, 2216⟩,
   ⟨["hmng", "pahawhhmong"], 476, 1476⟩, ⟨["hmnp", "nyiakengpuachuehmong"], 336, 1440⟩,
   ⟨["hung", "oldhungarian"], 300, 1268⟩, ⟨["inherited", "qaai", "zinh"], 2408, 5400⟩,
   ⟨["inscriptionalpahlavi", "phli"], 232, 1236⟩, ⟨["inscriptionalparthian", "prti"], 232, 1236⟩,
   ⟨["ital", "olditalic"], 232, 1236⟩, ⟨["java", "javanese"], 304, 1372⟩,
   ⟨["kaithi", "kthi"], 300, 1336⟩, ⟨["kali", "kayahli"], 200, 1336⟩,
   ⟨["kana", "katakana"], 1220, 2940⟩, ⟨["kannada", "knda"], 664, 1564⟩, ⟨["kawi"], 336, 1404⟩,
   ⟨["khar", "kharoshthi"], 516, 1484⟩, ⟨["khitansmallscript", "kits"], 400, 1604⟩,
   ⟨["khmer", "khmr"], 372, 1408⟩, ⟨["khoj", "khojki"], 300, 1368⟩, ⟨["khudawadi", "sind"], 300, 1404⟩,
   ⟨["kiratrai", "krai"], 196, 1300⟩, ⟨["lana", "taitham"], 444, 1444⟩, ⟨["lao", "laoo"], 556, 1528⟩,
   ⟨["latin", "latn"], 2848, 4904⟩, ⟨["lepc", "lepcha"], 304, 1304⟩, ⟨["limb", "limbu"], 340, 1376⟩,
   ⟨["lina", "lineara"], 368, 1304⟩, ⟨["linb", "linearb"], 580, 1412⟩, ⟨["lisu"], 296, 1672⟩,
   ⟨["lyci", "lycian"], 196, 1200⟩, ⟨["lydi", "lydian"], 232, 1236⟩, ⟨["mahajani", "mahj"], 196, 1336⟩,
   ⟨["maka", "makasar"], 196, 1336⟩, ⟨["malayalam", "mlym"], 448, 1312⟩,
   ⟨["mand", "mandaic"], 200, 1136⟩, ⟨["mani", "manichaean"], 232, 1236⟩,
   ⟨["marc", "marchen"], 336, 1440⟩, ⟨["medefaidrin", "medf"], 264, 1300⟩,
   ⟨["meeteimayek", "mtei"], 268, 1508⟩, ⟨["mend", "mendekikakui"], 300, 1336⟩,
   ⟨["merc", "meroiticcursive"], 336, 1304⟩, ⟨["mero", "meroitichieroglyphs"], 196, 1200⟩,
   ⟨["miao", "plrd"], 404, 1404⟩, ⟨["modi"], 300, 1336⟩, ⟨["mong", "mongolian"], 540, 1780⟩,
   ⟨["mro", "mroo"], 268, 1372⟩, ⟨["mult", "multani"], 340, 1444⟩, ⟨["myanmar", "mymr"], 532, 2012⟩,
   ⟨["nabataean", "nbat"], 232, 1236⟩, ⟨["nagm", "nagmundari"], 196, 1336⟩,
   ⟨["nand", "nandinagari"], 336, 1440⟩, ⟨["narb", "oldnortharabian"], 196, 1200⟩,
   ⟨["newa"], 300, 1336⟩, ⟨["newtailue", "talu"], 340, 1340⟩, ⟨["nko", "nkoo"], 168, 1032⟩,
   ⟨["nshu", "nushu"], 432, 1672⟩, ⟨["ogam", "ogham"], 164, 1200⟩, ⟨["olchiki", "olck"], 164, 1200⟩,
   ⟨["oldpermic", "perm"], 196, 1236⟩, ⟨["oldpersian", "xpeo"], 300, 1304⟩,
   ⟨["oldsogdian", "sogo"], 196, 1200⟩, ⟨["oldsoutharabian", "sarb"], 196, 1200⟩,
   ⟨["oldturkic", "orkh"], 264, 1200⟩, ⟨["olduyghur", "ougr"], 264, 1268⟩,
   ⟨["olonal", "onao"], 232, 1336⟩, ⟨["oriya", "orya"], 700, 1636⟩, ⟨["osage", "osge"], 300, 1304⟩,
   ⟨["osma", "osmanya"], 232, 1236⟩, ⟨["palm", "palmyrene"], 196, 1200⟩,
   ⟨["pauc", "paucinhau"], 196, 1300⟩, ⟨["phag", "phagspa"], 164, 1300⟩,
   ⟨["phlp", "psalterpahlavi"], 268, 1272⟩, ⟨["phnx", "phoenician"], 232, 1236⟩,
   ⟨["rejang", "rjng"], 268, 1404⟩, ⟨["runic", "runr"], 268, 1304⟩, ⟨["samaritan", "samr"], 200, 1068⟩,
   ⟨["saur", "saurashtra"], 268, 1336⟩, ⟨["sgnw", "signwriting"], 336, 1372⟩,
   ⟨["sharada", "shrd"], 264, 1300⟩, ⟨["shavian", "shaw"], 196, 1200⟩, ⟨["sidd", "siddham"], 300, 1368⟩,
   ⟨["sinh", "sinhala"], 724, 1936⟩, ⟨["sogd", "sogdian"], 264, 1268⟩,
   ⟨["sora", "sorasompeng"], 232, 1372⟩, ⟨["soyo", "soyombo"], 264, 1368⟩,
   ⟨["sund", "sundanese"], 232, 1268⟩, ⟨["sunu", "sunuwar"], 232, 1336⟩,
   ⟨["sylo", "sylotinagri"], 164, 1300⟩, ⟨["syrc", "syriac"], 372, 1376⟩,
   ⟨["tagalog", "tglg"], 200, 1236⟩, ⟨["tagb", "tagbanwa"], 236, 1308⟩, ⟨["taile", "tale"], 200, 1272⟩,
   ⟨["taiviet", "tavt"], 268, 1336⟩, ⟨["takr", "takri"], 264, 1368⟩, ⟨["tamil", "taml"], 940, 1976⟩,
   ⟨["tang", "tangut"], 600, 1572⟩, ⟨["tangsa", "tnsa"], 332, 1436⟩, ⟨["telu", "telugu"], 664, 1528⟩,
   ⟨["tfng", "tifinagh"], 304, 1404⟩, ⟨["thaa", "thaana"], 132, 1100⟩, ⟨["thai"], 232, 1204⟩,
   ⟨["tibetan", "tibt"], 584, 1312⟩, ⟨["tirh", "tirhuta"], 300, 1336⟩, ⟨["todhri", "todr"], 196, 1200⟩,
   ⟨["toto"], 196, 1336⟩, ⟨["tulutigalari", "tutg"], 624, 1692⟩, ⟨["ugar", "ugaritic"], 232, 1236⟩,
   ⟨["vai", "vaii"], 232, 1300⟩, ⟨["vith", "vithkuqi"], 516, 1520⟩, ⟨["wancho", "wcho"], 232, 1300⟩,
   ⟨["wara", "warangciti"], 300, 1368⟩, ⟨["yezi", "yezidi"], 268, 1272⟩, ⟨["yi", "yiii"], 336, 1300⟩,
   ⟨["zanabazarsquare", "zanb"], 264, 1300⟩]

/-- Scripts with the characters that several scripts use, where that is another set than the script. -/
def extensions : List Entry :=
  [⟨["adlam", "adlm"], 640, 2156⟩, ⟨["aghb", "caucasianalbanian"], 472, 1616⟩,
   ⟨["arab", "arabic"], 3432, 5180⟩, ⟨["armenian", "armn"], 508, 1716⟩,
   ⟨["avestan", "avst"], 400, 1676⟩, ⟨["beng", "bengali"], 1360, 2844⟩,
   ⟨["bopo", "bopomofo"], 892, 2584⟩, ⟨["bugi", "buginese"], 300, 1608⟩, ⟨["buhd", "buhid"], 232, 1304⟩,
   ⟨["cakm", "chakma"], 500, 1776⟩, ⟨["cari", "carian"], 536, 1952⟩, ⟨["cher", "cherokee"], 648, 1920⟩,
   ⟨["common", "zyyy"], 11220, 13084⟩, ⟨["copt", "coptic", "qaac"], 812, 2332⟩,
   ⟨["cpmn", "cyprominoan"], 364, 1536⟩, ⟨["cprt", "cypriot"], 516, 1516⟩,
   ⟨["cyrillic", "cyrl"], 1524, 3728⟩, ⟨["deva", "devanagari"], 872, 2696⟩,
   ⟨["dogr", "dogra"], 396, 1844⟩, ⟨["dupl", "duployan"], 748, 2196⟩, ⟨["elba", "elbasan"], 332, 1476⟩,
   ⟨["ethi", "ethiopic"], 2084, 3696⟩, ⟨["gara", "garay"], 476, 1548⟩,
   ⟨["geor", "georgian"], 888, 2440⟩, ⟨["glag", "glagolitic"], 1188, 3292⟩,
   ⟨["gong", "gunjalagondi"], 612, 1824⟩, ⟨["gonm", "masaramgondi"], 580, 1720⟩,
   ⟨["goth", "gothic"], 472, 1616⟩, ⟨["gran", "grantha"], 1384, 3008⟩, ⟨["greek", "grek"], 2696, 4552⟩,
   ⟨["gujarati", "gujr"], 904, 2180⟩, ⟨["gukh", "gurungkhema"], 296, 1472⟩,
   ⟨["gurmukhi", "guru"], 976, 2288⟩, ⟨["han", "hani"], 4952, 5992⟩, ⟨["hang", "hangul"], 1804, 3196⟩,
   ⟨["hanifirohingya", "rohg"], 508, 1720⟩, ⟨["hano", "hanunoo"], 164, 1236⟩,
   ⟨["hebr", "hebrew"], 652, 1896⟩, ⟨["hira", "hiragana"], 1328, 3120⟩,
   ⟨["hung", "oldhungarian"], 572, 1952⟩, ⟨["inherited", "qaai", "zinh"], 2048, 4380⟩,
   ⟨["java", "javanese"], 304, 1372⟩, ⟨["kaithi", "kthi"], 600, 2252⟩, ⟨["kali", "kayahli"], 164, 1300⟩,
   ⟨["kana", "katakana"], 1604, 3536⟩, ⟨["kannada", "knda"], 1112, 2560⟩,
   ⟨["khoj", "khojki"], 500, 1912⟩, ⟨["khudawadi", "sind"], 500, 1948⟩, ⟨["latin", "latn"], 4100, 6548⟩,
   ⟨["limb", "limbu"], 440, 1548⟩, ⟨["lina", "lineara"], 436, 1476⟩, ⟨["linb", "linearb"], 720, 1516⟩,
   ⟨["lisu"], 532, 2252⟩, ⟨["lyci", "lycian"], 296, 1572⟩, ⟨["lydi", "lydian"], 400, 1712⟩,
   ⟨["mahajani", "mahj"], 464, 1984⟩, ⟨["malayalam", "mlym"], 788, 2200⟩,
   ⟨["mand", "mandaic"], 268, 1272⟩, ⟨["mani", "manichaean"], 300, 1372⟩,
   ⟨["mero", "meroitichieroglyphs"], 296, 1572⟩, ⟨["modi"], 400, 1708⟩,
   ⟨["mong", "mongolian"], 704, 2152⟩, ⟨["mult", "multani"], 440, 1616⟩,
   ⟨["myanmar", "mymr"], 600, 2184⟩, ⟨["nand", "nandinagari"], 812, 2536⟩, ⟨["newa"], 680, 1960⟩,
   ⟨["nko", "nkoo"], 408, 1512⟩, ⟨["oldpermic", "perm"], 472, 1720⟩, ⟨["oldturkic", "orkh"], 432, 1744⟩,
   ⟨["olduyghur", "ougr"], 400, 1576⟩, ⟨["olonal", "onao"], 332, 1508⟩, ⟨["oriya", "orya"], 940, 2152⟩,
   ⟨["osage", "osge"], 508, 1652⟩, ⟨["phag", "phagspa"], 500, 2016⟩,
   ⟨["phlp", "psalterpahlavi"], 336, 1408⟩, ⟨["runic", "runr"], 232, 1268⟩,
   ⟨["samaritan", "samr"], 300, 1440⟩, ⟨["sharada", "shrd"], 780, 2332⟩,
   ⟨["shavian", "shaw"], 264, 1304⟩, ⟨["sinh", "sinhala"], 892, 2380⟩, ⟨["sogd", "sogdian"], 332, 1404⟩,
   ⟨["sunu", "sunuwar"], 480, 1652⟩, ⟨["sylo", "sylotinagri"], 332, 1644⟩,
   ⟨["syrc", "syriac"], 1036, 2420⟩, ⟨["tagalog", "tglg"], 236, 1272⟩,
   ⟨["tagb", "tagbanwa"], 304, 1412⟩, ⟨["taile", "tale"], 408, 1616⟩, ⟨["takr", "takri"], 464, 1912⟩,
   ⟨["tamil", "taml"], 1384, 3072⟩, ⟨["tang", "tangut"], 800, 2112⟩, ⟨["telu", "telugu"], 976, 2116⟩,
   ⟨["tfng", "tifinagh"], 480, 1684⟩, ⟨["thaa", "thaana"], 476, 1756⟩, ⟨["thai"], 472, 1620⟩,
   ⟨["tibetan", "tibt"], 684, 1616⟩, ⟨["tirh", "tirhuta"], 708, 2260⟩, ⟨["todhri", "todr"], 476, 1620⟩,
   ⟨["toto"], 264, 1508⟩, ⟨["tulutigalari", "tutg"], 1028, 2716⟩, ⟨["yezi", "yezidi"], 476, 1620⟩,
   ⟨["yi", "yiii"], 676, 2120⟩]

/-- The characters of a version of the standard. -/
def ages : List Entry :=
  [⟨["1.1", "v11"], 16976, 16296⟩, ⟨["2.0", "v20"], 19596, 20236⟩, ⟨["2.1", "v21"], 19596, 20236⟩,
   ⟨["3.0", "v30"], 23448, 22988⟩, ⟨["3.1", "v31"], 26276, 25492⟩, ⟨["3.2", "v32"], 26168, 24872⟩,
   ⟨["4.0", "v40"], 27036, 25908⟩, ⟨["4.1", "v41"], 28760, 26864⟩, ⟨["5.0", "v50"], 29484, 27652⟩,
   ⟨["5.1", "v51"], 30896, 28368⟩, ⟨["5.2", "v52"], 33396, 30452⟩, ⟨["6.0", "v60"], 35372, 32048⟩,
   ⟨["6.1", "v61"], 37296, 33980⟩, ⟨["6.2", "v62"], 37296, 33980⟩, ⟨["6.3", "v63"], 37296, 33980⟩,
   ⟨["7.0", "v70"], 41612, 37448⟩, ⟨["8.0", "v80"], 42648, 38240⟩, ⟨["9.0", "v90"], 44312, 39428⟩,
   ⟨["10.0", "v100"], 45516, 39908⟩, ⟨["11.0", "v110"], 46548, 41136⟩, ⟨["12.0", "v120"], 47412, 41820⟩,
   ⟨["12.1", "v121"], 47276, 41752⟩, ⟨["13.0", "v130"], 48276, 42240⟩, ⟨["14.0", "v140"], 49064, 43228⟩,
   ⟨["15.0", "v150"], 50096, 43808⟩, ⟨["15.1", "v151"], 50268, 43840⟩, ⟨["16.0", "v160"], 52000, 45052⟩]

def graphemeBreaks : List Entry :=
  [⟨["cn", "control"], 1556, 3920⟩, ⟨["cr"], 72, 1000⟩, ⟨["ex", "extend"], 19632, 29192⟩,
   ⟨["l"], 332, 1572⟩, ⟨["lf"], 72, 1000⟩, ⟨["lv"], 20156, 26492⟩, ⟨["lvt"], 25556, 21128⟩,
   ⟨["pp", "prepend"], 1180, 3400⟩, ⟨["ri", "regionalindicator"], 196, 1300⟩,
   ⟨["sm", "spacingmark"], 9312, 14764⟩, ⟨["t"], 332, 1304⟩, ⟨["v"], 400, 1404⟩, ⟨["zwj"], 164, 1268⟩]

def wordBreaks : List Entry :=
  [⟨["le", "aletter"], 35008, 37664⟩, ⟨["cr"], 72, 1000⟩, ⟨["dq", "doublequote"], 72, 1000⟩,
   ⟨["extend"], 18512, 26920⟩, ⟨["ex", "extendnumlet"], 576, 1920⟩, ⟨["fo", "format"], 1680, 4776⟩,
   ⟨["hl", "hebrewletter"], 552, 1728⟩, ⟨["ka", "katakana"], 1288, 3044⟩, ⟨["lf"], 72, 1000⟩,
   ⟨["ml", "midletter"], 708, 2472⟩, ⟨["mn", "midnum"], 920, 2788⟩, ⟨["mb", "midnumlet"], 440, 1820⟩,
   ⟨["nl", "newline"], 268, 1408⟩, ⟨["nu", "numeric"], 4676, 11692⟩,
   ⟨["ri", "regionalindicator"], 196, 1300⟩, ⟨["sq", "singlequote"], 72, 1000⟩,
   ⟨["wsegspace"], 504, 1712⟩, ⟨["zwj"], 164, 1268⟩]

def sentenceBreaks : List Entry :=
  [⟨["at", "aterm"], 368, 1748⟩, ⟨["cr"], 72, 1000⟩, ⟨["cl", "close"], 2584, 5184⟩,
   ⟨["ex", "extend"], 18412, 26684⟩, ⟨["fo", "format"], 1716, 4812⟩, ⟨["lf"], 72, 1000⟩,
   ⟨["lo", "lower"], 27880, 31624⟩, ⟨["nu", "numeric"], 4676, 11692⟩, ⟨["le", "oletter"], 34536, 37768⟩,
   ⟨["sc", "scontinue"], 1196, 3068⟩, ⟨["st", "sterm"], 5240, 12268⟩, ⟨["se", "sep"], 232, 1372⟩,
   ⟨["sp"], 644, 1888⟩, ⟨["up", "upper"], 26768, 30340⟩]

end AddonConfig.Pattern.Property
