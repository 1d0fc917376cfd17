import Switchyard.Text.Unicode.Property
/-!
# Scripts

The `Script` and `Script_Extensions` properties of Unicode 16.0. Every code point belongs to
one script; its script extensions are the scripts it is used with, its own script when it has
no others.

Both are kept as runs (see `readRuns`) whose values are script numbers: a script's number is
its place in `scriptNames`. `scriptBoundaries?` turns the runs into the inversion list of one
script.
-/
namespace Switchyard.Unicode

/-- The scripts by their names in loose form, the long name first, in the order of their long
names. -/
def scriptNames : Array (List String) := #[
  ["adlam", "adlm"], ["ahom"], ["anatolianhieroglyphs", "hluw"], ["arabic", "arab"],
  ["armenian", "armn"], ["avestan", "avst"], ["balinese", "bali"], ["bamum", "bamu"],
  ["bassavah", "bass"], ["batak", "batk"], ["bengali", "beng"], ["bhaiksuki", "bhks"],
  ["bopomofo", "bopo"], ["brahmi", "brah"], ["braille", "brai"], ["buginese", "bugi"],
  ["buhid", "buhd"], ["canadianaboriginal", "cans"], ["carian", "cari"],
  ["caucasianalbanian", "aghb"], ["chakma", "cakm"], ["cham"], ["cherokee", "cher"],
  ["chorasmian", "chrs"], ["common", "zyyy"], ["coptic", "copt", "qaac"],
  ["cuneiform", "xsux"], ["cypriot", "cprt"], ["cyprominoan", "cpmn"], ["cyrillic", "cyrl"],
  ["deseret", "dsrt"], ["devanagari", "deva"], ["divesakuru", "diak"], ["dogra", "dogr"],
  ["duployan", "dupl"], ["egyptianhieroglyphs", "egyp"], ["elbasan", "elba"],
  ["elymaic", "elym"], ["ethiopic", "ethi"], ["garay", "gara"], ["georgian", "geor"],
  ["glagolitic", "glag"], ["gothic", "goth"], ["grantha", "gran"], ["greek", "grek"],
  ["gujarati", "gujr"], ["gunjalagondi", "gong"], ["gurmukhi", "guru"],
  ["gurungkhema", "gukh"], ["han", "hani"], ["hangul", "hang"], ["hanifirohingya", "rohg"],
  ["hanunoo", "hano"], ["hatran", "hatr"], ["hebrew", "hebr"], ["hiragana", "hira"],
  ["imperialaramaic", "armi"], ["inherited", "zinh", "qaai"], ["inscriptionalpahlavi", "phli"],
  ["inscriptionalparthian", "prti"], ["javanese", "java"], ["kaithi", "kthi"],
  ["kannada", "knda"], ["katakana", "kana"], ["katakanaorhiragana", "hrkt"], ["kawi"],
  ["kayahli", "kali"], ["kharoshthi", "khar"], ["khitansmallscript", "kits"],
  ["khmer", "khmr"], ["khojki", "khoj"], ["khudawadi", "sind"], ["kiratrai", "krai"],
  ["lao", "laoo"], ["latin", "latn"], ["lepcha", "lepc"], ["limbu", "limb"],
  ["lineara", "lina"], ["linearb", "linb"], ["lisu"], ["lycian", "lyci"], ["lydian", "lydi"],
  ["mahajani", "mahj"], ["makasar", "maka"], ["malayalam", "mlym"], ["mandaic", "mand"],
  ["manichaean", "mani"], ["marchen", "marc"], ["masaramgondi", "gonm"],
  ["medefaidrin", "medf"], ["meeteimayek", "mtei"], ["mendekikakui", "mend"],
  ["meroiticcursive", "merc"], ["meroitichieroglyphs", "mero"], ["miao", "plrd"], ["modi"],
  ["mongolian", "mong"], ["mro", "mroo"], ["multani", "mult"], ["myanmar", "mymr"],
  ["nabataean", "nbat"], ["nagmundari", "nagm"], ["nandinagari", "nand"],
  ["newtailue", "talu"], ["newa"], ["nko", "nkoo"], ["nushu", "nshu"],
  ["nyiakengpuachuehmong", "hmnp"], ["ogham", "ogam"], ["olchiki", "olck"], ["olonal", "onao"],
  ["oldhungarian", "hung"], ["olditalic", "ital"], ["oldnortharabian", "narb"],
  ["oldpermic", "perm"], ["oldpersian", "xpeo"], ["oldsogdian", "sogo"],
  ["oldsoutharabian", "sarb"], ["oldturkic", "orkh"], ["olduyghur", "ougr"], ["oriya", "orya"],
  ["osage", "osge"], ["osmanya", "osma"], ["pahawhhmong", "hmng"], ["palmyrene", "palm"],
  ["paucinhau", "pauc"], ["phagspa", "phag"], ["phoenician", "phnx"],
  ["psalterpahlavi", "phlp"], ["rejang", "rjng"], ["runic", "runr"], ["samaritan", "samr"],
  ["saurashtra", "saur"], ["sharada", "shrd"], ["shavian", "shaw"], ["siddham", "sidd"],
  ["signwriting", "sgnw"], ["sinhala", "sinh"], ["sogdian", "sogd"], ["sorasompeng", "sora"],
  ["soyombo", "soyo"], ["sundanese", "sund"], ["sunuwar", "sunu"], ["sylotinagri", "sylo"],
  ["syriac", "syrc"], ["tagalog", "tglg"], ["tagbanwa", "tagb"], ["taile", "tale"],
  ["taitham", "lana"], ["taiviet", "tavt"], ["takri", "takr"], ["tamil", "taml"],
  ["tangsa", "tnsa"], ["tangut", "tang"], ["telugu", "telu"], ["thaana", "thaa"], ["thai"],
  ["tibetan", "tibt"], ["tifinagh", "tfng"], ["tirhuta", "tirh"], ["todhri", "todr"], ["toto"],
  ["tulutigalari", "tutg"], ["ugaritic", "ugar"], ["unknown", "zzzz"], ["vai", "vaii"],
  ["vithkuqi", "vith"], ["wancho", "wcho"], ["warangciti", "wara"], ["yezidi", "yezi"],
  ["yi", "yiii"], ["zanabazarsquare", "zanb"]]

/-- The long names of the scripts that pattern tables leave out: the script of unassigned code
points, and a name for two scripts together. -/
def unlistedScripts : List String := ["unknown", "katakanaorhiragana"]

/-- The runs of the `Script` property. -/
def scriptText : String :=
  "0.24 65.74 26.24 6.74 26.24 47.74 1.24 15.74 1.24 5.74 23.24 1.74 31.24 1.74 449.24 39.74 " ++
  "5.24 5.12 2.24 20.57 112.44 4.24 1.44 3.164 2.44 4.24 1.44 1.164 4.44 1.24 1.44 1.24 1.44 " ++
  "3.164 1.44 1.164 1.44 20.164 1.44 63.25 14.44 16.29 133.57 2.29 169.164 1.4 38.164 2.4 " ++
  "50.164 2.4 3.164 1.54 55.164 8.54 27.164 4.54 6.164 11.3 5.24 1.3 6.24 1.3 14.24 1.3 3.24 " ++
  "1.3 32.24 1.3 10.57 11.3 26.57 1.3 108.24 1.3 34.144 14.164 1.144 60.164 2.144 3.3 48.155 " ++
  "50.164 14.105 59.164 2.105 3.131 46.164 2.131 15.164 1.85 28.164 2.85 1.164 1.144 11.164 5.3 " ++
  "31.164 1.3 2.164 5.3 75.24 1.3 29.31 81.57 4.31 15.24 2.31 26.10 4.164 1.10 8.164 2.10 2.164 " ++
  "2.10 22.164 1.10 7.164 1.10 1.164 3.10 4.164 2.10 9.164 2.10 2.164 2.10 4.164 8.10 1.164 " ++
  "4.10 2.164 1.10 5.164 2.10 25.164 2.47 3.164 1.47 6.164 4.47 2.164 2.47 22.164 1.47 7.164 " ++
  "1.47 2.164 1.47 2.164 1.47 2.164 2.47 1.164 1.47 5.164 4.47 2.164 2.47 3.164 3.47 1.164 7.47 " ++
  "4.164 1.47 1.164 7.47 17.164 10.45 3.164 1.45 9.164 1.45 3.164 1.45 22.164 1.45 7.164 1.45 " ++
  "2.164 1.45 5.164 2.45 10.164 1.45 3.164 1.45 3.164 2.45 1.164 15.45 4.164 2.45 12.164 7.45 " ++
  "7.164 1.120 3.164 1.120 8.164 2.120 2.164 2.120 22.164 1.120 7.164 1.120 2.164 1.120 5.164 " ++
  "2.120 9.164 2.120 2.164 2.120 3.164 7.120 3.164 4.120 2.164 1.120 5.164 2.120 18.164 10.151 " ++
  "2.164 1.151 6.164 3.151 3.164 1.151 4.164 3.151 2.164 1.151 1.164 1.151 2.164 3.151 2.164 " ++
  "3.151 3.164 3.151 12.164 4.151 5.164 3.151 3.164 1.151 4.164 2.151 1.164 6.151 1.164 14.151 " ++
  "21.164 5.154 13.164 1.154 3.164 1.154 23.164 1.154 16.164 2.154 9.164 1.154 3.164 1.154 " ++
  "4.164 7.154 2.164 1.154 3.164 2.154 1.164 2.154 4.164 2.154 10.164 7.154 9.62 13.164 1.62 " ++
  "3.164 1.62 23.164 1.62 10.164 1.62 5.164 2.62 9.164 1.62 3.164 1.62 4.164 7.62 2.164 6.62 " ++
  "2.164 1.62 4.164 2.62 10.164 1.62 3.164 12.84 13.164 1.84 3.164 1.84 51.164 1.84 3.164 1.84 " ++
  "6.164 4.84 16.164 2.84 26.164 1.137 3.164 1.137 18.164 3.137 24.164 1.137 9.164 1.137 1.164 " ++
  "2.137 7.164 3.137 1.164 4.137 6.164 1.137 1.164 1.137 8.164 6.137 10.164 2.137 3.164 12.156 " ++
  "58.164 4.24 1.156 28.164 37.73 2.164 1.73 1.164 1.73 5.164 1.73 24.164 1.73 1.164 1.73 " ++
  "23.164 2.73 5.164 1.73 1.164 1.73 7.164 1.73 10.164 2.73 4.164 32.157 72.164 1.157 36.164 " ++
  "4.157 39.164 1.157 36.164 1.157 15.164 1.157 7.24 4.157 2.164 37.99 160.40 38.164 1.40 1.164 " ++
  "5.40 1.164 2.40 43.24 1.40 4.50 256.38 73.164 1.38 4.164 2.38 7.164 1.38 1.164 1.38 4.164 " ++
  "2.38 41.164 1.38 4.164 2.38 33.164 1.38 4.164 2.38 7.164 1.38 1.164 1.38 4.164 2.38 15.164 " ++
  "1.38 57.164 1.38 4.164 2.38 67.164 2.38 32.164 3.38 26.164 6.22 86.164 2.22 6.164 2.17 " ++
  "640.108 29.164 3.130 75.24 3.130 11.164 7.145 22.164 9.145 1.52 21.24 2.164 9.16 20.164 " ++
  "12.146 13.164 1.146 3.164 1.146 2.164 12.69 94.164 2.69 10.164 6.69 10.164 6.96 2.24 2.96 " ++
  "1.24 1.96 20.164 6.96 89.164 7.96 43.164 5.17 70.164 10.76 31.164 1.76 12.164 4.76 12.164 " ++
  "4.76 1.164 3.76 12.147 30.164 2.147 5.164 11.103 44.164 4.103 26.164 6.103 11.164 3.103 2.69 " ++
  "32.15 28.164 2.15 2.148 63.164 1.148 29.164 2.148 11.164 6.148 10.164 6.148 14.164 2.57 " ++
  "31.164 49.6 77.164 1.6 50.141 64.9 52.164 8.9 4.75 56.164 3.75 15.164 3.75 3.109 48.29 " ++
  "11.164 5.40 43.164 2.40 3.141 8.164 8.57 3.24 1.57 13.24 1.57 7.24 4.57 1.24 6.57 1.24 3.57 " ++
  "2.24 1.164 5.74 38.44 5.29 1.74 49.44 5.74 4.44 5.74 13.29 1.74 70.44 1.57 64.74 256.44 " ++
  "22.164 2.44 6.164 2.44 38.164 2.44 6.164 2.44 8.164 1.44 1.164 1.44 1.164 1.44 1.164 1.44 " ++
  "31.164 2.44 53.164 1.44 15.164 1.44 14.164 2.44 6.164 1.44 19.164 2.44 3.164 1.44 9.164 1.24 " ++
  "12.57 2.24 87.164 1.24 11.74 1.164 2.24 11.74 1.24 15.164 1.74 13.164 3.24 33.164 15.57 " ++
  "33.164 15.24 38.44 1.24 3.74 2.24 6.74 1.24 27.74 1.24 17.74 41.24 3.164 4.24 666.164 22.24 " ++
  "11.164 21.24 928.14 256.24 628.164 2.24 32.164 1.24 105.41 96.74 32.25 116.164 5.25 7.40 " ++
  "38.164 1.40 1.164 5.40 1.164 2.158 56.164 7.158 2.164 14.158 1.38 23.164 9.38 7.164 1.38 " ++
  "7.164 1.38 7.164 1.38 7.164 1.38 7.164 1.38 7.164 1.38 7.164 1.38 7.164 1.29 32.24 94.164 " ++
  "34.49 26.164 1.49 89.164 12.49 214.164 26.24 21.49 1.24 1.49 1.24 25.49 9.57 4.50 2.24 8.49 " ++
  "4.24 4.164 1.55 86.164 2.57 2.24 2.55 3.24 1.63 90.24 2.63 3.164 5.12 43.164 1.50 94.164 " ++
  "1.24 16.12 32.24 38.164 9.24 1.63 16.50 31.164 1.24 64.50 31.24 81.63 47.24 1.63 88.24 " ++
  "168.49 6592.24 64.49 20992.170 1165.164 3.170 55.164 9.79 48.165 300.164 20.29 96.7 88.164 " ++
  "8.24 34.74 102.24 3.74 67.164 2.74 2.164 1.74 1.164 1.74 8.164 21.74 14.143 45.164 3.24 " ++
  "10.164 6.126 56.164 8.132 70.164 8.132 12.164 6.31 32.66 46.24 1.66 1.129 36.164 11.129 1.50 " ++
  "29.164 3.60 78.164 1.24 1.60 10.164 4.60 2.99 31.164 1.21 55.164 9.21 14.164 2.21 10.164 " ++
  "2.21 4.99 32.149 67.164 24.149 5.90 23.164 10.38 6.164 2.38 6.164 2.38 6.164 9.38 7.164 1.38 " ++
  "7.164 1.74 43.24 1.74 9.44 1.74 4.24 2.164 4.22 80.90 46.164 2.90 10.164 6.50 11172.164 " ++
  "12.50 23.164 4.50 49.164 8452.49 366.164 2.49 106.164 38.74 7.164 12.4 5.164 5.54 26.164 " ++
  "1.54 5.164 1.54 1.164 1.54 2.164 1.54 2.164 1.54 10.3 115.164 16.3 363.24 2.3 80.164 2.3 " ++
  "54.164 7.3 1.164 32.3 16.57 16.24 10.164 6.57 14.29 2.24 35.164 1.24 19.164 1.24 4.164 4.3 " ++
  "5.164 1.3 135.164 2.24 1.164 1.24 32.74 26.24 6.74 26.24 11.63 10.24 1.63 45.24 2.50 31.164 " ++
  "3.50 6.164 2.50 6.164 2.50 6.164 2.50 3.164 3.24 7.164 1.24 7.164 10.24 5.164 2.78 12.164 " ++
  "1.78 26.164 1.78 19.164 1.78 2.164 1.78 15.164 2.78 14.164 34.78 123.164 5.24 3.164 4.24 " ++
  "45.164 3.24 9.44 79.164 1.24 13.164 3.44 1.164 47.24 45.57 1.164 130.80 29.164 3.18 49.164 " ++
  "15.57 1.24 27.164 4.112 36.164 9.112 3.42 27.164 5.114 43.164 5.163 30.164 1.163 1.115 " ++
  "36.164 4.115 14.164 42.30 80.134 48.122 30.164 2.122 10.164 6.121 36.164 4.121 36.164 4.36 " ++
  "40.164 8.19 52.164 11.19 1.166 11.164 1.166 15.164 1.166 7.164 1.166 2.164 1.166 11.164 " ++
  "1.166 15.164 1.166 7.164 1.166 2.164 3.160 52.164 12.77 311.164 9.77 22.164 10.77 8.164 " ++
  "24.74 6.164 1.74 42.164 1.74 9.164 69.27 6.164 2.27 1.164 1.27 44.164 1.27 2.164 3.27 1.164 " ++
  "2.27 1.56 22.164 1.56 9.124 32.100 31.164 8.100 9.164 48.53 19.164 1.53 2.164 5.53 5.127 " ++
  "28.164 3.127 1.81 26.164 5.81 1.164 64.93 32.92 24.164 4.92 20.164 2.92 46.67 4.164 1.67 " ++
  "2.164 5.67 8.164 1.67 3.164 1.67 29.164 2.67 3.164 4.67 10.164 7.67 9.164 7.117 32.113 " ++
  "32.164 32.86 39.164 4.86 12.164 9.5 54.164 3.5 7.59 22.164 2.59 8.58 19.164 5.58 8.128 " ++
  "18.164 7.128 4.164 12.128 7.164 80.118 73.164 55.111 51.164 13.111 51.164 7.111 6.51 40.164 " ++
  "8.51 10.164 6.39 38.164 3.39 29.164 8.39 2.164 208.3 31.164 1.169 42.164 1.169 3.164 2.169 " ++
  "2.164 16.3 3.164 55.3 4.116 40.164 8.138 42.164 22.119 26.164 38.23 28.164 20.37 23.164 9.13 " ++
  "78.164 4.13 36.164 9.13 1.61 67.164 10.61 1.164 2.139 25.164 7.139 10.164 6.20 53.164 1.20 " ++
  "18.164 8.82 39.164 9.133 96.164 1.137 20.164 11.70 18.164 1.70 47.164 62.98 7.164 1.98 1.164 " ++
  "1.98 4.164 1.98 15.164 1.98 11.164 6.71 59.164 5.71 10.164 6.43 4.164 1.43 8.164 2.43 2.164 " ++
  "2.43 22.164 1.43 7.164 1.43 2.164 1.43 5.164 1.57 1.43 9.164 2.43 2.164 2.43 3.164 2.43 " ++
  "1.164 6.43 1.164 5.43 7.164 2.43 7.164 3.43 5.164 11.162 10.164 1.162 1.164 2.162 1.164 " ++
  "1.162 38.164 1.162 10.164 1.162 1.164 2.162 1.164 1.162 4.164 1.162 10.164 1.162 2.164 8.162 " ++
  "2.164 29.104 92.164 1.104 5.164 30.159 72.164 8.159 10.164 166.135 54.164 2.135 38.164 34.95 " ++
  "69.164 11.95 10.164 6.96 13.164 19.150 58.164 6.150 10.164 6.99 20.164 28.1 27.164 2.1 " ++
  "15.164 4.1 23.164 185.33 60.164 100.168 83.164 12.168 1.32 7.164 2.32 1.164 2.32 8.164 1.32 " ++
  "2.164 1.32 30.164 1.32 2.164 2.32 12.164 9.32 10.164 70.102 8.164 2.102 46.164 2.102 11.164 " ++
  "27.171 72.164 8.140 83.164 13.17 16.125 57.164 7.31 10.164 182.142 34.164 14.142 10.164 6.11 " ++
  "9.164 1.11 45.164 1.11 14.164 10.11 29.164 3.87 32.164 2.87 22.164 1.87 14.164 73.88 7.164 " ++
  "1.88 2.164 1.88 44.164 3.88 1.164 1.88 2.164 1.88 9.164 8.88 10.164 6.46 6.164 1.46 2.164 " ++
  "1.46 37.164 1.46 2.164 1.46 6.164 7.46 10.164 310.83 25.164 7.65 17.164 1.65 41.164 3.65 " ++
  "29.164 85.79 1.164 15.151 50.164 13.151 1.26 922.164 102.26 111.164 1.26 5.164 11.26 196.164 " ++
  "2636.28 99.164 13.35 1110.164 10.35 3995.164 5.2 583.164 6841.48 58.164 1734.7 569.164 7.97 " ++
  "31.164 1.97 10.164 4.97 2.152 79.164 1.152 10.164 6.8 30.164 2.8 6.164 10.123 70.164 10.123 " ++
  "10.164 1.123 7.164 1.123 21.164 5.123 19.164 432.72 58.164 198.89 91.164 101.94 75.164 4.94 " ++
  "57.164 7.94 17.164 64.153 1.106 1.49 2.68 1.164 11.49 2.164 14.153 6136.164 8.153 768.68 " ++
  "470.164 41.68 1.153 9.164 8935.63 4.164 1.63 7.164 1.63 2.164 1.63 1.55 287.63 3.164 15.55 " ++
  "1.164 29.55 3.164 2.63 1.164 14.63 4.164 8.106 396.164 2308.34 107.164 5.34 13.164 3.34 " ++
  "9.164 7.34 10.164 2.34 4.24 4.164 3932.24 250.164 6.24 436.164 76.57 46.164 2.57 23.164 9.24 " ++
  "116.164 60.24 246.164 10.24 39.164 2.24 62.57 3.24 17.57 8.24 2.57 7.24 30.57 4.24 61.164 " ++
  "21.44 70.164 122.24 20.164 12.24 20.164 12.24 87.164 9.24 25.164 135.24 85.164 1.24 71.164 " ++
  "1.24 2.164 2.24 1.164 2.24 2.164 2.24 4.164 1.24 12.164 1.24 1.164 1.24 7.164 1.24 65.164 " ++
  "1.24 4.164 2.24 8.164 1.24 7.164 1.24 28.164 1.24 4.164 1.24 5.164 1.24 1.164 3.24 7.164 " ++
  "1.24 340.164 2.24 292.164 2.24 50.136 652.164 15.136 5.164 1.136 15.164 1104.74 31.164 6.74 " ++
  "6.164 213.41 7.164 1.41 17.164 2.41 7.164 1.41 2.164 1.41 5.164 5.29 62.164 33.29 1.164 " ++
  "112.107 45.164 3.107 14.164 2.107 10.164 4.107 2.164 320.161 31.164 17.167 58.164 5.167 " ++
  "1.164 464.101 42.164 214.110 43.164 4.110 1.164 480.38 7.164 1.38 4.164 1.38 2.164 1.38 " ++
  "15.164 1.91 197.164 2.91 16.164 41.0 76.164 4.0 10.164 4.0 2.164 785.24 68.164 76.24 61.164 " ++
  "194.3 4.164 1.3 27.164 1.3 2.164 1.3 1.164 2.3 1.164 1.3 10.164 1.3 4.164 1.3 1.164 1.3 " ++
  "1.164 6.3 1.164 4.3 1.164 1.3 1.164 1.3 1.164 1.3 3.164 1.3 2.164 1.3 1.164 2.3 1.164 1.3 " ++
  "1.164 1.3 1.164 1.3 1.164 1.3 1.164 1.3 2.164 1.3 1.164 2.3 4.164 1.3 7.164 1.3 4.164 1.3 " ++
  "4.164 1.3 1.164 1.3 10.164 1.3 17.164 5.3 3.164 1.3 5.164 1.3 17.164 52.3 2.164 270.24 " ++
  "44.164 4.24 100.164 12.24 15.164 2.24 15.164 1.24 15.164 1.24 37.164 10.24 174.164 56.24 " ++
  "26.55 1.24 2.164 13.24 44.164 4.24 9.164 7.24 2.164 14.24 6.164 154.24 984.164 4.24 17.164 " ++
  "3.24 13.164 3.24 119.164 4.24 95.164 6.24 12.164 4.24 1.164 15.24 12.164 4.24 56.164 8.24 " ++
  "10.164 6.24 40.164 8.24 30.164 2.24 12.164 4.24 2.164 62.24 340.164 12.24 14.164 2.24 13.164 " ++
  "3.24 10.164 5.24 56.164 7.24 15.164 2.24 11.164 6.24 9.164 7.24 147.164 1.24 102.164 1030.49 " ++
  "42720.164 32.49 4154.164 6.49 222.164 2.49 5762.164 14.49 7473.164 15.49 622.164 2466.49 " ++
  "542.164 1506.49 4939.164 5.49 4192.164 711761.24 1.164 30.24 96.164 128.57 240.164"

/-- The runs of the `Script_Extensions` property. -/
def extensionText : String :=
  "0.24 65.74 26.24 6.74 26.24 47.74 1.24 12.5,18,25,34,36,40,41,42,44,46,49,74,81,82,114,134 " ++
  "1.24 2.74 1.24 5.74 23.24 1.74 31.24 1.74 449.24 3.10,29,31,74,79,156,161 1.24 10.12,74 1.24 " ++
  "1.12,74 3.24 1.74,79 1.24 9.74,156 1.24 1.12,74 1.24 6.74 5.24 5.12 2.24 " ++
  "20.22,25,29,44,74,114,142,147 1.22,29,44,74,121,142,147,160 1.22,29,74,158 " ++
  "1.41,74,142,144,156 1.19,22,25,29,42,44,74,121,144,158,160 1.25,36,41,42,63,74 " ++
  "1.29,44,74,114,158 1.25,34,54,74,114,144,147,158,160 1.4,29,34,42,44,54,74,114,144,147,158 " ++
  "1.74,158 1.34,74,144 1.22,29,74,121 1.22,74,147 1.74,142 1.38,74 1.57 1.74,142 1.29,74,160 " ++
  "1.57 1.44,74,114,160 1.57 15.22,34,63,74,144,158 1.22,34,74,144 1.74,144 1.57 7.74,142,144 " ++
  "1.74,144 1.57 1.22,74,144 1.19,22,42,74,142,144,156 1.57 16.44 1.57 2.44 1.57 18.74,121 1.57 " ++
  "5.19,74,160 1.57 4.74 13.44 4.25,44 2.44 2.164 2.44 4.24 1.44 1.164 4.44 1.24 1.44 1.24 1.44 " ++
  "3.164 1.44 1.164 1.44 20.164 1.44 63.25 14.44 16.29 131.29,114 1.29,41 1.29,74 2.29,41 1.29 " ++
  "168.164 1.4 38.164 2.4 48.4,40,41 1.4 1.164 2.4 3.164 1.54 55.164 8.54 27.164 4.54 6.164 " ++
  "11.3 5.24 1.3 6.3,39,51,105,144,155,169 1.3 14.3,39,51,105,144,155,169 1.3,144,155 1.3 " ++
  "2.0,3,39,51,105,144,155,169 1.3 32.0,3,51,85,86,119,128,138,144 1.3 10.3,144 11.3 " ++
  "10.3,155,169 10.3 6.3,144 1.3 99.3,51 1.3 8.24 1.3 34.144 14.164 1.144 60.164 2.144 3.3 " ++
  "48.155 50.164 14.105 59.164 2.105 3.131 46.164 2.131 15.164 1.85 28.164 2.85 1.164 1.144 " ++
  "11.164 5.3 31.164 1.3 2.164 5.3 75.24 1.3 29.31 " ++
  "81.10,31,43,45,47,62,74,84,102,104,120,133,151,154,159 " ++
  "1.10,31,43,45,47,62,74,84,104,120,151,154,159 1.57 2.31 " ++
  "15.10,31,33,43,45,46,47,62,71,82,84,88,102,110,120,137,143,150,151,154,159 " ++
  "1.10,31,33,43,45,46,47,48,62,71,76,82,84,88,102,110,120,137,143,150,151,154,159 " ++
  "1.31,33,61,82 10.31 16.10 4.164 1.10 8.164 2.10 2.164 2.10 22.164 1.10 7.164 1.10 1.164 3.10 " ++
  "4.164 2.10 9.164 2.10 2.164 2.10 4.164 8.10 1.164 4.10 2.164 1.10 5.164 2.10,20,143 10.10 " ++
  "15.164 2.47 3.164 1.47 6.164 4.47 2.164 2.47 22.164 1.47 7.164 1.47 2.164 1.47 2.164 1.47 " ++
  "2.164 2.47 1.164 1.47 5.164 4.47 2.164 2.47 3.164 3.47 1.164 7.47 4.164 1.47 1.164 7.47,98 " ++
  "10.47 7.164 10.45 3.164 1.45 9.164 1.45 3.164 1.45 22.164 1.45 7.164 1.45 2.164 1.45 5.164 " ++
  "2.45 10.164 1.45 3.164 1.45 3.164 2.45 1.164 15.45 4.164 2.45,70 10.45 2.164 7.45 7.164 " ++
  "1.120 3.164 1.120 8.164 2.120 2.164 2.120 22.164 1.120 7.164 1.120 2.164 1.120 5.164 2.120 " ++
  "9.164 2.120 2.164 2.120 3.164 7.120 3.164 4.120 2.164 1.120 5.164 2.120 18.164 10.151 2.164 " ++
  "1.151 6.164 3.151 3.164 1.151 4.164 3.151 2.164 1.151 1.164 1.151 2.164 3.151 2.164 3.151 " ++
  "3.164 3.151 12.164 4.151 5.164 3.151 3.164 1.151 4.164 2.151 1.164 6.151 1.164 14.43,151 " ++
  "14.151 7.164 5.154 13.164 1.154 3.164 1.154 23.164 1.154 16.164 2.154 9.164 1.154 3.164 " ++
  "1.154 4.164 7.154 2.164 1.154 3.164 2.154 1.164 2.154 4.164 2.154 10.164 7.154 9.62 13.164 " ++
  "1.62 3.164 1.62 23.164 1.62 10.164 1.62 5.164 2.62 9.164 1.62 3.164 1.62 4.164 7.62 2.164 " ++
  "6.62 2.164 1.62 4.164 2.62,102,162 10.164 1.62 3.164 12.84 13.164 1.84 3.164 1.84 51.164 " ++
  "1.84 3.164 1.84 6.164 4.84 16.164 2.84 26.164 1.137 3.164 1.137 18.164 3.137 24.164 1.137 " ++
  "9.164 1.137 1.164 2.137 7.164 3.137 1.164 4.137 6.164 1.137 1.164 1.137 8.164 6.137 10.164 " ++
  "2.137 3.164 12.156 58.164 4.24 1.156 28.164 37.73 2.164 1.73 1.164 1.73 5.164 1.73 24.164 " ++
  "1.73 1.164 1.73 23.164 2.73 5.164 1.73 1.164 1.73 7.164 1.73 10.164 2.73 4.164 32.157 72.164 " ++
  "1.157 36.164 4.157 39.164 1.157 36.164 1.157 15.164 1.157 7.24 4.157 2.164 37.99 " ++
  "64.20,99,147 10.99 86.40 38.164 1.40 1.164 5.40 1.164 2.40 43.40,41,74 1.40 4.50 256.38 " ++
  "73.164 1.38 4.164 2.38 7.164 1.38 1.164 1.38 4.164 2.38 41.164 1.38 4.164 2.38 33.164 1.38 " ++
  "4.164 2.38 7.164 1.38 1.164 1.38 4.164 2.38 15.164 1.38 57.164 1.38 4.164 2.38 67.164 2.38 " ++
  "32.164 3.38 26.164 6.22 86.164 2.22 6.164 2.17 640.108 29.164 3.130 89.164 7.145 22.164 " ++
  "9.145 1.52 21.16,52,145,146 2.164 9.16 20.164 12.146 13.164 1.146 3.164 1.146 2.164 12.69 " ++
  "94.164 2.69 10.164 6.69 10.164 6.96 2.96,126 2.96 1.96,126 1.96 20.164 6.96 89.164 7.96 " ++
  "43.164 5.17 70.164 10.76 31.164 1.76 12.164 4.76 12.164 4.76 1.164 3.76 12.147 30.164 2.147 " ++
  "5.164 11.103 44.164 4.103 26.164 6.103 11.164 3.103 2.69 32.15 28.164 2.15 2.148 63.164 " ++
  "1.148 29.164 2.148 11.164 6.148 10.164 6.148 14.164 2.57 31.164 49.6 77.164 1.6 50.141 64.9 " ++
  "52.164 8.9 4.75 56.164 3.75 15.164 3.75 3.109 48.29 11.164 5.40 43.164 2.40 3.141 8.164 " ++
  "8.10,31,43,62 1.31 1.10,31,43,62 1.31,43,62 1.31 1.10,31,104,154,159 1.10,31,154 " ++
  "1.31,104,133 1.10,31,104,154 1.31,133 1.31,62,84,120,151,154 1.31 1.31,133 2.31 2.31,133 " ++
  "1.10,31 1.31,104,159 1.31 6.31,102,104 1.10,31,133 1.31,104 1.31 1.10,31,104,133 1.31 " ++
  "4.10,31,43,62,84,102,120,137,154,159,162 1.31,43 1.31,43,62,162 1.10,31 2.10 1.31,43 2.102 " ++
  "1.164 5.74 38.44 5.29 1.74 49.44 5.74 4.44 5.74 13.29 1.74 70.44 3.57 54.29,74,144 1.57 " ++
  "1.144 1.57 5.74 256.44 22.164 2.44 6.164 2.44 38.164 2.44 6.164 2.44 8.164 1.44 1.164 1.44 " ++
  "1.164 1.44 1.164 1.44 31.164 2.44 53.164 1.44 15.164 1.44 14.164 2.44 6.164 1.44 19.164 2.44 " ++
  "3.164 1.44 9.164 1.24 12.57 2.24 33.74,96,126 1.24 31.0,3 1.24 10.18,40,41,80,111,118 1.24 " ++
  "2.18,44,93,111 1.24 7.164 1.24 11.74 1.164 2.24 11.74 1.24 15.164 1.74 13.164 3.24 33.164 " ++
  "15.57 32.31,43,74 1.164 15.24 38.44 1.24 3.74 2.24 6.74 1.24 27.74 1.24 17.74 41.24 3.164 " ++
  "4.24 666.164 22.24 11.164 21.24 928.14 256.24 628.164 2.24 32.164 1.24 105.41 96.74 32.25 " ++
  "116.164 5.25 7.40 38.164 1.40 1.164 5.40 1.164 2.158 56.164 7.158 2.164 14.158 1.38 23.164 " ++
  "9.38 7.164 1.38 7.164 1.38 7.164 1.38 7.164 1.38 7.164 1.38 7.164 1.38 7.164 1.38 7.164 1.29 " ++
  "32.24 23.25,74 1.24 24.5,118 1.5,18,40,61,81,111,131 1.24 10.34 1.24 4.0,3,111 1.24 1.29,41 " ++
  "1.24 26.164 34.49 26.164 1.49 89.164 12.49 214.164 26.49,153 16.24 1.12,49,50,55,63,96,170 " ++
  "1.12,49,50,55,63,96,126,170 1.12,49,50,55,63 1.24 1.49 3.12,49,50,55,63,96,157,170 " ++
  "2.12,49,50,55,63,79,96,157,170 2.12,49,50,55,63,170 6.24 1.12,49,50,55,63 " ++
  "1.12,49,50,55,63,170 8.12,49,50,55,63 4.24 1.49 9.12,49 4.50 2.12,49,50,55,63 1.55,63 5.24 " ++
  "1.12,49,50,55,63 1.49 4.49,55,63 2.49 2.164 1.55 86.164 2.55,63 4.55 3.55,63 1.63 " ++
  "90.12,49,50,55,63,170 1.55,63 1.63 3.164 5.12 43.164 1.50 94.164 1.49 16.12 32.49 38.164 " ++
  "9.49,153 1.63 16.50 31.164 1.49 40.24 24.50 31.24 1.49 49.24 15.49 12.24 4.63 47.49 1.63 " ++
  "88.49 25.24 10.49 5.24 96.49 31.24 1.49 6592.24 64.49 20992.170 1165.164 3.170 55.164 9.79 " ++
  "48.165 300.164 20.29 47.29,41 1.29 48.7 88.164 8.49,74 8.24 26.74 102.24 3.74 67.164 2.74 " ++
  "2.164 1.74 1.164 1.74 8.164 21.74 14.143 45.164 " ++
  "3.31,33,45,47,61,62,70,71,82,84,95,102,133,150,159,162 " ++
  "3.31,33,45,47,61,62,70,71,82,95,102,133,150,159,162 3.31,33,45,47,61,70,71,82,95,150,159 " ++
  "2.31,33,45,47,61,70,71,82,95,133,150,159 1.31,33,45,47,61,70,71,82,95,150,159 1.164 6.126 " ++
  "56.164 8.132 70.164 8.132 12.164 6.31 17.10,31,162 1.31 1.31,151 1.31 12.66 46.66,74,99 1.66 " ++
  "1.129 36.164 11.129 1.50 29.164 3.60 78.164 1.15,60 1.60 10.164 4.60 2.99 31.164 1.21 55.164 " ++
  "9.21 14.164 2.21 10.164 2.21 4.99 32.149 67.164 24.149 5.90 23.164 10.38 6.164 2.38 6.164 " ++
  "2.38 6.164 9.38 7.164 1.38 7.164 1.74 43.24 1.74 9.44 1.74 4.24 2.164 4.22 80.90 46.164 2.90 " ++
  "10.164 6.50 11172.164 12.50 23.164 4.50 49.164 8452.49 366.164 2.49 106.164 38.74 7.164 12.4 " ++
  "5.164 5.54 26.164 1.54 5.164 1.54 1.164 1.54 2.164 1.54 2.164 1.54 10.3 115.164 16.3 " ++
  "363.3,105 2.3 80.164 2.3 54.164 7.3 1.164 32.3 2.3,155 1.3 10.3,155 1.3 2.57 16.24 10.164 " ++
  "6.57 14.29 2.24 21.12,49,50,55,63 2.24 12.164 1.24 19.164 1.24 4.164 4.3 5.164 1.3 135.164 " ++
  "2.24 1.164 1.24 32.74 26.24 6.74 26.24 6.12,49,50,55,63,170 5.63 10.55,63 1.63 45.55,63 2.50 " ++
  "31.164 3.50 6.164 2.50 6.164 2.50 6.164 2.50 3.164 3.24 7.164 1.24 7.164 10.24 5.164 2.78 " ++
  "12.164 1.78 26.164 1.78 19.164 1.78 2.164 1.78 15.164 2.78 14.164 34.78 123.164 5.27,28,78 " ++
  "2.27,78 1.164 4.27,77,78 45.164 3.27,78 9.44 79.164 1.24 13.164 3.44 1.164 47.24 45.57 1.164 " ++
  "130.80 29.164 3.18 49.164 15.3,25 28.164 4.112 36.164 9.112 3.42 27.164 5.114 43.164 5.163 " ++
  "30.164 1.163 1.115 36.164 4.115 14.164 42.30 80.134 48.122 30.164 2.122 10.164 6.121 36.164 " ++
  "4.121 36.164 4.36 40.164 8.19 52.164 11.19 1.166 11.164 1.166 15.164 1.166 7.164 1.166 2.164 " ++
  "1.166 11.164 1.166 15.164 1.166 7.164 1.166 2.164 3.160 52.164 12.77 311.164 9.77 22.164 " ++
  "10.77 8.164 24.74 6.164 1.74 42.164 1.74 9.164 69.27 6.164 2.27 1.164 1.27 44.164 1.27 2.164 " ++
  "3.27 1.164 2.27 1.56 22.164 1.56 9.124 32.100 31.164 8.100 9.164 48.53 19.164 1.53 2.164 " ++
  "5.53 5.127 28.164 3.127 1.81 26.164 5.81 1.164 64.93 32.92 24.164 4.92 20.164 2.92 46.67 " ++
  "4.164 1.67 2.164 5.67 8.164 1.67 3.164 1.67 29.164 2.67 3.164 4.67 10.164 7.67 9.164 7.117 " ++
  "32.113 32.164 32.86 39.164 4.86 7.86,119 1.86 4.164 9.5 54.164 3.5 7.59 22.164 2.59 8.58 " ++
  "19.164 5.58 8.128 18.164 7.128 4.164 12.128 7.164 80.118 73.164 55.111 51.164 13.111 51.164 " ++
  "7.111 6.51 40.164 8.51 10.164 6.39 38.164 3.39 29.164 8.39 2.164 208.3 31.164 1.169 42.164 " ++
  "1.169 3.164 2.169 2.164 16.3 3.164 55.3 4.116 40.164 8.138 42.164 22.119 26.164 38.23 28.164 " ++
  "20.37 23.164 9.13 78.164 4.13 36.164 9.13 1.61 67.164 10.61 1.164 2.139 25.164 7.139 10.164 " ++
  "6.20 53.164 1.20 18.164 8.82 39.164 9.133 96.164 1.137 20.164 11.70 18.164 1.70 47.164 62.98 " ++
  "7.164 1.98 1.164 1.98 4.164 1.98 15.164 1.98 11.164 6.71 59.164 5.71 10.164 6.43 1.43,151 " ++
  "1.43 1.43,151 1.164 1.43 8.164 2.43 2.164 2.43 22.164 1.43 7.164 1.43 2.164 1.43 5.164 " ++
  "1.43,151 2.43 8.164 2.43 2.164 2.43 3.164 2.43 1.164 6.43 1.164 5.43 7.164 2.43 7.164 3.43 " ++
  "5.164 11.162 10.164 1.162 1.164 2.162 1.164 1.162 38.164 1.162 10.164 1.162 1.164 2.162 " ++
  "1.164 1.162 4.164 1.162 10.164 1.162 2.164 8.162 2.164 29.104 92.164 1.104 5.164 30.159 " ++
  "72.164 8.159 10.164 166.135 54.164 2.135 38.164 34.95 69.164 11.95 10.164 6.96 13.164 19.150 " ++
  "58.164 6.150 10.164 6.99 20.164 28.1 27.164 2.1 15.164 4.1 23.164 185.33 60.164 100.168 " ++
  "83.164 12.168 1.32 7.164 2.32 1.164 2.32 8.164 1.32 2.164 1.32 30.164 1.32 2.164 2.32 12.164 " ++
  "9.32 10.164 70.102 8.164 2.102 46.164 2.102 11.164 27.171 72.164 8.140 83.164 13.17 16.125 " ++
  "57.164 7.31 10.164 182.142 34.164 14.142 10.164 6.11 9.164 1.11 45.164 1.11 14.164 10.11 " ++
  "29.164 3.87 32.164 2.87 22.164 1.87 14.164 73.88 7.164 1.88 2.164 1.88 44.164 3.88 1.164 " ++
  "1.88 2.164 1.88 9.164 8.88 10.164 6.46 6.164 1.46 2.164 1.46 37.164 1.46 2.164 1.46 6.164 " ++
  "7.46 10.164 310.83 25.164 7.65 17.164 1.65 41.164 3.65 29.164 85.79 1.164 15.151 16.43,151 " ++
  "2.151 1.43,151 1.151 30.164 13.151 1.26 922.164 102.26 111.164 1.26 5.164 11.26 196.164 " ++
  "2636.28 99.164 13.35 1110.164 10.35 3995.164 5.2 583.164 6841.48 58.164 1734.7 569.164 7.97 " ++
  "31.164 1.97 10.164 4.97 2.152 79.164 1.152 10.164 6.8 30.164 2.8 6.164 10.123 70.164 10.123 " ++
  "10.164 1.123 7.164 1.123 21.164 5.123 19.164 432.72 58.164 198.89 91.164 101.94 75.164 4.94 " ++
  "57.164 7.94 17.164 64.153 1.106 1.49 2.68 1.164 11.49 2.164 14.153 6136.164 8.153 768.68 " ++
  "470.164 41.68 1.153 9.164 8935.63 4.164 1.63 7.164 1.63 2.164 1.63 1.55 287.63 3.164 15.55 " ++
  "1.164 29.55 3.164 2.63 1.164 14.63 4.164 8.106 396.164 2308.34 107.164 5.34 13.164 3.34 " ++
  "9.164 7.34 10.164 2.34 8.164 3932.24 250.164 6.24 436.164 76.57 46.164 2.57 23.164 9.24 " ++
  "116.164 60.24 246.164 10.24 39.164 2.24 62.57 3.24 17.57 8.24 2.57 7.24 30.57 4.24 61.164 " ++
  "21.44 70.164 122.24 20.164 12.24 20.164 12.24 87.164 9.49 18.24 7.164 135.24 85.164 1.24 " ++
  "71.164 1.24 2.164 2.24 1.164 2.24 2.164 2.24 4.164 1.24 12.164 1.24 1.164 1.24 7.164 1.24 " ++
  "65.164 1.24 4.164 2.24 8.164 1.24 7.164 1.24 28.164 1.24 4.164 1.24 5.164 1.24 1.164 3.24 " ++
  "7.164 1.24 340.164 2.24 292.164 2.24 50.136 652.164 15.136 5.164 1.136 15.164 1104.74 31.164 " ++
  "6.74 6.164 213.41 7.164 1.41 17.164 2.41 7.164 1.41 2.164 1.41 5.164 5.29 62.164 33.29 1.164 " ++
  "112.107 45.164 3.107 14.164 2.107 10.164 4.107 2.164 320.161 31.164 17.167 58.164 5.167 " ++
  "1.164 464.101 42.164 214.110 43.164 4.110 1.164 480.38 7.164 1.38 4.164 1.38 2.164 1.38 " ++
  "15.164 1.91 197.164 2.91 16.164 41.0 76.164 4.0 10.164 4.0 2.164 785.24 68.164 76.24 61.164 " ++
  "194.3 4.164 1.3 27.164 1.3 2.164 1.3 1.164 2.3 1.164 1.3 10.164 1.3 4.164 1.3 1.164 1.3 " ++
  "1.164 6.3 1.164 4.3 1.164 1.3 1.164 1.3 1.164 1.3 3.164 1.3 2.164 1.3 1.164 2.3 1.164 1.3 " ++
  "1.164 1.3 1.164 1.3 1.164 1.3 1.164 1.3 2.164 1.3 1.164 2.3 4.164 1.3 7.164 1.3 4.164 1.3 " ++
  "4.164 1.3 1.164 1.3 10.164 1.3 17.164 5.3 3.164 1.3 5.164 1.3 17.164 52.3 2.164 270.24 " ++
  "44.164 4.24 100.164 12.24 15.164 2.24 15.164 1.24 15.164 1.24 37.164 10.24 174.164 56.24 " ++
  "26.55 1.24 2.164 13.24 44.164 4.24 9.164 7.49 2.164 14.24 6.164 154.24 984.164 4.24 17.164 " ++
  "3.24 13.164 3.24 119.164 4.24 95.164 6.24 12.164 4.24 1.164 15.24 12.164 4.24 56.164 8.24 " ++
  "10.164 6.24 40.164 8.24 30.164 2.24 12.164 4.24 2.164 62.24 340.164 12.24 14.164 2.24 13.164 " ++
  "3.24 10.164 5.24 56.164 7.24 15.164 2.24 11.164 6.24 9.164 7.24 147.164 1.24 102.164 1030.49 " ++
  "42720.164 32.49 4154.164 6.49 222.164 2.49 5762.164 14.49 7473.164 15.49 622.164 2466.49 " ++
  "542.164 1506.49 4939.164 5.49 4192.164 711761.24 1.164 30.24 96.164 128.57 240.164"

/-- The number of the script a loose name names. -/
def script? (name : String) : Option Nat := scriptNames.findIdx? (·.contains name)

/-- The inversion list of a script, unless pattern tables leave it out. -/
def scriptBoundaries? (script : Nat) : Option (Array Nat) :=
  match scriptNames[script]? with
  | some (long :: _) =>
    if unlistedScripts.contains long then none
    else some (runBoundaries (readRuns scriptText) (·.contains script))
  | _ => none

/-- The inversion list of the code points whose script extensions hold a script, unless
pattern tables leave the script out. -/
def extensionBoundaries? (script : Nat) : Option (Array Nat) :=
  match scriptNames[script]? with
  | some (long :: _) =>
    if unlistedScripts.contains long then none
    else some (runBoundaries (readRuns extensionText) (·.contains script))
  | _ => none

end Switchyard.Unicode
