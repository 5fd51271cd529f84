import WebServer.Unicode.CharSet

/-!
# Scripts

The characters of each script. A second table holds the characters that a script shares with
others, a third one those that count for several scripts and therefore not for this one.
-/
namespace WebServer.Unicode

structure Script where
  names : List String
  rows : List String
  shared : List String := []
  withdrawn : List String := []
  deriving Repr

def scripts : List Script :=
  [{ names := ["adlm", "adlam"]
     rows := ["2olc 23 4 9 4 1"]
     shared := ["17j 0 w 0 55a 0 2r5 0"] },
   { names := ["aghb", "caucasianalbanian"]
     rows := ["1flc 1f b 0"]
     shared := ["lg 0 18 0 18 0"] },
   { names := ["ahom"]
     rows := ["1j40 q 2 e 4 m"] },
   { names := ["arab", "arabic"]
     rows := ["16o 4 1 5 1 d 1 2 1 v 1 9 b p 1 2z 1 x 28 1b 6o x 5 22 1 s 1bv4 dp 2 3z w f 34 4",
      "1 3q 31f u 1v 5 8 8 x 5 181s 3 1 q 1 1 1 0 2 0 1 9 1 3 1 0 1 0 6 0 4 0 1 0 1 0 1 2",
      "1 1 1 0 2 0 1 0 1 0 1 0 1 0 1 1 1 0 2 3 1 6 1 3 1 3 1 0 1 9 1 g 5 2 1 4 1 g 1g 1"]
     shared := ["170 0 e 0 3 0 w 0 a a q 0 53y 0 2r5 0 14vw 1 140 r"] },
   { names := ["armi", "imperialaramaic"]
     rows := ["1g74 l 1 8"] },
   { names := ["armn", "armenian"]
     rows := ["10x 11 2 1d 2 2 1chv 4"]
     shared := ["lk 0"] },
   { names := ["avst", "avestan"]
     rows := ["1gqo 1h 3 6"]
     shared := ["53 0 8zc 1"] },
   { names := ["bali", "balinese"]
     rows := ["5c0 24 1 1d"] },
   { names := ["bamu", "bamum"]
     rows := ["www 2f 124o fs"] },
   { names := ["bass", "bassavah"]
     rows := ["1zo0 t 2 5"] },
   { names := ["batk", "batak"]
     rows := ["5hc 1f 8 3"] },
   { names := ["beng", "bengali"]
     rows := ["1vk 3 1 7 2 1 2 l 1 6 1 0 3 3 2 8 2 1 2 3 8 0 4 1 1 4 2 o"]
     shared := ["jg 0 1as 1 h 1 3u2 0 1 0 2 1 1 0 8 0 8 0 2 0 4 0 2 2 rnd 0"] },
   { names := ["bhks", "bhaiksuki"]
     rows := ["1k3k 8 1 18 1 d a s"] },
   { names := ["bopo", "bopomofo"]
     rows := ["kq 1 93t 16 34 v"]
     shared := ["jr 0 1 2 d 0 8x3 2 4 9 1 c a 3 2 0 6 0 5f 0 14jt 1 7u 4"] },
   { names := ["brah", "brahmi"]
     rows := ["1hq8 25 4 z 9 0"] },
   { names := ["brai", "braille"]
     rows := ["7wg 73"] },
   { names := ["bugi", "buginese"]
     rows := ["54w r 2 1"]
     shared := ["xjj 0"] },
   { names := ["buhd", "buhid"]
     rows := ["4lc j"]
     shared := ["4l1 1"] },
   { names := ["cakm", "chakma"]
     rows := ["1hxc 1g 1 h"]
     shared := ["1ye 9 18w 9"] },
   { names := ["cans", "canadianaboriginal"]
     rows := ["3y8 hr fk 1x 1ewq f"] },
   { names := ["cari", "carian"]
     rows := ["1f34 1c"]
     shared := ["53 0 68y 0 2 0 2qb 0"] },
   { names := ["cham"]
     rows := ["xkw 1i 9 d 2 9 2 3"] },
   { names := ["cher", "cherokee"]
     rows := ["3vk 2d 2 5 twy 27"]
     shared := ["lc 2 1 0 6 1 m 1 b 1"] },
   { names := ["chrs", "chorasmian"]
     rows := ["1ho0 r"] },
   { names := ["copt", "coptic", "qaac"]
     rows := ["rm d 80g 37 5 6"]
     shared := ["53 0 g8 0 3 1 1 0 30 1 8f5 0 1614 r"] },
   { names := ["cpmn", "cyprominoan"]
     rows := ["1nyo 2q"]
     shared := ["1erk 1"] },
   { names := ["cprt", "cypriot"]
     rows := ["1g5c 5 2 0 1 17 1 1 3 0 2 0"]
     shared := ["1erk 2 4 18 3 8"] },
   { names := ["cyrl", "cyrillic"]
     rows := ["sg 3o 2 4o 4ls a 4g 0 24 0 38n v nr4 2n ham 1 18n4 1p x 0"]
     shared := ["jg 0 1v 2 1 0 1 0 1 0 2 0 5 0 ab 1 50x 0 37u 0"] },
   { names := ["deva", "devanagari"]
     rows := ["1s0 28 4 e 2 p vhc v mio 9"]
     shared := ["jg 0 1as 1 h 1 3u2 12 1 1 s6 0 qpr 9"] },
   { names := ["diak", "divesakuru"]
     rows := ["1ji8 6 2 0 2 7 1 1 1 t 1 1 2 b 9 9"] },
   { names := ["dogr", "dogra"]
     rows := ["1jb4 1n"]
     shared := ["1us b vcw 9"] },
   { names := ["dsrt", "deseret"]
     rows := ["1fcw 27"] },
   { names := ["dupl", "duployan"]
     rows := ["2fpc 2y 5 c 3 8 7 9 2 3"]
     shared := ["53 0 gf 1 1 0 o 1 8if 0 26oz 3"] },
   { names := ["egyp", "egyptianhieroglyphs"]
     rows := ["1o1s ut a 32y"] },
   { names := ["elba", "elbasan"]
     rows := ["1fk0 13"]
     shared := ["53 0 gd 0"] },
   { names := ["elym", "elymaic"]
     rows := ["1hpc m"] },
   { names := ["ethi", "ethiopic"]
     rows := ["3k0 20 1 3 2 6 1 0 1 3 2 14 1 3 2 w 1 3 2 6 1 0 1 3 2 e 1 1k 1 3 2 1u 2 v 3 p 546 m",
      "9 6 1 6 1 6 1 6 1 6 1 6 1 6 1 6 opu 5 2 5 2 5 9 6 1 6 1qk1 6 1 3 1 1 1 e"]
     shared := ["lq 0"] },
   { names := ["geor", "georgian"]
     rows := ["3a8 11 1 0 5 0 2 16 1 3 2a8 16 2 2 37k 11 1 0 5 0"]
     shared := ["53 0 y9 0 29d 0 31a 0 2qe 0"] },
   { names := ["glag", "glagolitic"]
     rows := ["8ow 2n 2e1s 6 1 g 2 6 1 1 1 4"]
     shared := ["53 0 gb 0 1 0 am 0 2 0 75 0 29d 0 31a 0 2qw 0 nqj 0"] },
   { names := ["gong", "gunjalagondi"]
     rows := ["1kdc 5 1 1 1 10 1 1 1 5 7 9"]
     shared := ["53 0 1po 1"] },
   { names := ["gonm", "masaramgondi"]
     rows := ["1kao 6 1 1 1 17 3 0 1 1 1 8 8 9"]
     shared := ["1us 1"] },
   { names := ["goth", "gothic"]
     rows := ["1f74 q"]
     shared := ["53 0 gc 1 2 0 14 0"] },
   { names := ["gran", "grantha"]
     rows := ["1ibk 3 1 7 2 1 2 l 1 6 1 1 1 4 2 8 2 1 2 2 2 0 6 0 5 6 2 6 3 4"]
     shared := ["1u9 1 h 1 hs d 3bw 0 1 1 u 2 3 1 s6 0 1buy 0 2hg 1 1 0"] },
   { names := ["grek", "greek"]
     rows := ["og 3 1 2 2 3 1 0 4 0 1 0 1 2 1 0 1 j 1 1q e f 4yu 4 1e 4 4 4 2c 0 8w l 2 5 2 11 2 5",
      "2 7 1 0 1 0 1 0 1 u 2 1g 1 e 1 d 2 5 1 i 2 2 1 8 87 0 rb2 0 gyi 26 h 0 155r 1x"]
     shared := ["53 0 g8 1 2 0 1 0 1 0 a 0 1a 0 2 0 1a 0 56z 1 ij 0"] },
   { names := ["gujr", "gujarati"]
     rows := ["22p 2 1 8 1 2 1 l 1 6 1 1 1 4 2 9 1 2 1 2 2 0 f 3 2 b 7 6"]
     shared := ["1u9 1 h 1 vd6 9"] },
   { names := ["guru", "gurmukhi"]
     rows := ["1z5 2 1 5 4 1 2 l 1 6 1 1 1 1 1 1 2 0 1 4 4 1 2 2 3 0 7 3 1 0 7 g"]
     shared := ["1u9 1 h 1 vd6 9"] },
   { names := ["hang", "hangul"]
     rows := ["3cw 73 5ym 1 75 2l 35 u 1t u nhd s hv 8mb c m 4 1c 7tw u 3 5 2 5 2 5 2 2"]
     shared := ["9hd 2 4 9 1 c g 0 6 0 5f 0 14jt 1 7u 4"] },
   { names := ["hani", "han"]
     rows := ["96o p 1 2g c 5x 1b 0 1 0 p 8 e 3 qs 533 1s g73 hkw a5 2 2x n48 1 c 6 sg9 wyn w 3dp",
      "2 4gd 2 5rk f h9 1wi f1 15u 3t6 5 6jt"]
     shared := ["53 0 9bs f 1 2 2 0 1 9 1 c a 3 2 0 6 0 4 3 57 0 44 f w 11 9 0 1c 13 1k 1c f b 1f 0",
      "2g o a 4 2o u mpt 7 h8d 1 7u 4 15ve h 63i 1"] },
   { names := ["hano", "hanunoo"]
     rows := ["4kg k"]
     shared := ["4l1 1"] },
   { names := ["hatr", "hatran"]
     rows := ["1gbk i 1 1 5 4"] },
   { names := ["hebr", "hebrew"]
     rows := ["13l 1i 8 q 4 5 1cfc p 1 4 1 0 1 1 1 1 1 9"]
     shared := ["lj 1"] },
   { names := ["hira", "hiragana"]
     rows := ["9j5 2d 6 2 23q9 7y i 0 t 2 crx 0"]
     shared := ["9hd 2 4 9 1 c g 5 1 0 4 1 2j 3 3 0 2i 1 14js 1 7u 4 a 0 19 1"] },
   { names := ["hluw", "anatolianhieroglyphs"]
     rows := ["1s00 g6"] },
   { names := ["hmng", "pahawhhmong"]
     rows := ["1zpc 1x a 9 1 6 1 k 5 i"] },
   { names := ["hmnp", "nyiakengpuachuehmong"]
     rows := ["2n0g 18 3 d 2 9 4 1"] },
   { names := ["hung", "oldhungarian"]
     rows := ["1h1c 1e d 1e 7 5"]
     shared := ["6e2 0 2 0 2qb 0 f 0"] },
   { names := ["ital", "olditalic"]
     rows := ["1f5s z 9 2"] },
   { names := ["java", "javanese"]
     rows := ["xhc 25 2 9 4 1"]
     shared := ["xjj 0"] },
   { names := ["kali", "kayahli"]
     rows := ["xds 19 1 0"]
     shared := ["xf2 0"] },
   { names := ["kana", "katakana"]
     rows := ["9lt 2h 2 2 6o f 5s 1a 1 2f 14b2 9 1 18 ytu 3 1 6 1 1 1 0 7z 2 1e 0 e 3"]
     shared := ["lh 0 t 0 8v1 2 4 9 1 c g 5 1 0 4 1 2j 3 3 0 2i 1 14js 1 7u 4 a 0 19 1"] },
   { names := ["kawi"]
     rows := ["1kow g 1 14 3 s"] },
   { names := ["khar", "kharoshthi"]
     rows := ["1gjk 3 1 1 5 7 1 2 1 s 2 2 4 9 7 8"] },
   { names := ["khmr", "khmer"]
     rows := ["4n4 2l 2 9 6 9 di v"] },
   { names := ["khoj", "khojki"]
     rows := ["1i4g h 1 1a"]
     shared := ["25i 9 v28 9"] },
   { names := ["kits", "khitansmallscript"]
     rows := ["20o4 0 5cr d1 15 0"] },
   { names := ["knda", "kannada"]
     rows := ["2gw c 1 2 1 m 1 9 1 4 2 8 1 2 1 3 7 1 5 2 1 3 2 9 1 2"]
     shared := ["1u9 1 h 1 3u2 0 1 1 6 0 n 0 1 0 ri3 5"] },
   { names := ["kthi", "kaithi"]
     rows := ["1hts 1u a 0"]
     shared := ["1uu 9 79d 0 o3i 9"] },
   { names := ["lana", "taitham"]
     rows := ["55s 1q 1 s 2 a 6 9 6 d"] },
   { names := ["laoo", "lao"]
     rows := ["2v5 1 1 0 1 4 1 n 1 0 1 m 2 4 1 0 1 6 1 9 2 3"] },
   { names := ["latn", "latin"]
     rows := ["1t p 6 p 1b 0 f 0 5 m 1 u 1 cg 13 4 55n 11 6 1c 5 3 5 c 1 1x 1t 73 a9 0 d 0 g c 3x 1",
      "6 0 r 0 h 14 253 v o82 2t 3 29 k e mo 16 1 8 1 3 fpy 6 t6 p 6 p 1lx 5 1 15 1 8",
      "16it u 6 5"]
     shared := ["53 0 ec 0 a 0 1 2 1 0 9 0 1 0 12 e 1 1 1 0 f 2 7 1 1 1 12 0 5 0 4 c 7p 1 y2 1 1ig 0",
      "2kc 0 fq 0 5c 0 2li 0 nvs 7 fa 0"] },
   { names := ["lepc", "lepcha"]
     rows := ["5j4 1j 3 e 3 2"] },
   { names := ["limb", "limbu"]
     rows := ["4xs u 1 b 4 b 4 0 3 b"]
     shared := ["1ut 0"] },
   { names := ["lina", "lineara"]
     rows := ["1fr4 8m 9 l a 7"]
     shared := ["1err 18"] },
   { names := ["linb", "linearb"]
     rows := ["1ekg b 1 p 1 i 1 1 1 e 2 d y 3e"]
     shared := ["1erk 2 4 18 3 8"] },
   { names := ["lisu"]
     rows := ["wk0 1b o8g 0"]
     shared := ["jg 0 g 0 8xo 1"] },
   { names := ["lyci", "lycian"]
     rows := ["1f28 s"]
     shared := ["6e2 0"] },
   { names := ["lydi", "lydian"]
     rows := ["1gdc p 5 0"]
     shared := ["53 0 8zd 0"] },
   { names := ["mahj", "mahajani"]
     rows := ["1hzk 12"]
     shared := ["53 0 1po b vcw 9"] },
   { names := ["maka", "makasar"]
     rows := ["1ko0 o"] },
   { names := ["mand", "mandaic"]
     rows := ["1mo r 2 0"]
     shared := ["18g 0"] },
   { names := ["mani", "manichaean"]
     rows := ["1gow 12 4 b"]
     shared := ["18g 0"] },
   { names := ["marc", "marchen"]
     rows := ["1k6o v 2 l 1 d"] },
   { names := ["medf", "medefaidrin"]
     rows := ["20cg 2i"] },
   { names := ["mend", "mendekikakui"]
     rows := ["2oe8 5g 2 f"] },
   { names := ["merc", "meroiticcursive"]
     rows := ["1ggw n 4 j 2 19"] },
   { names := ["mero", "meroitichieroglyphs"]
     rows := ["1gg0 v"]
     shared := ["6e5 0"] },
   { names := ["mlym", "malayalam"]
     rows := ["2kg c 1 2 1 1e 1 2 1 5 4 f 2 p"]
     shared := ["1u9 1 h 1 3uc 0 n 0 ri5 2"] },
   { names := ["modi"]
     rows := ["1iww 1w b 9"]
     shared := ["x80 9"] },
   { names := ["mong", "mongolian"]
     rows := ["4qo 1 2 0 1 j 6 2g 7 16 1e45 c"]
     shared := ["4qq 1 1 0 1m1 0 34h 1 5 3"] },
   { names := ["mroo", "mro"]
     rows := ["1zk0 u 1 9 4 1"] },
   { names := ["mtei", "meeteimayek"]
     rows := ["xr4 m 5l 19 2 9"] },
   { names := ["mult", "multani"]
     rows := ["1i80 6 1 0 1 3 1 e 1 a"]
     shared := ["21y 9"] },
   { names := ["mymr", "myanmar"]
     rows := ["35s 4f u9s u 2p v le8 j"]
     shared := ["xf2 0"] },
   { names := ["nagm", "nagmundari"]
     rows := ["2nrk 15"] },
   { names := ["nand", "nandinagari"]
     rows := ["1jmo 7 2 19 2 a"]
     shared := ["1u9 0 i 1 ow 9 35l 0 8 0 7 0 rhx 5"] },
   { names := ["narb", "oldnortharabian"]
     rows := ["1gn4 v"] },
   { names := ["nbat", "nabataean"]
     rows := ["1g8w u 8 8"] },
   { names := ["newa"]
     rows := ["1iio 2j 1 4"]
     shared := ["1u9 1 3uq 0 1 1 9 0 6 0 1 0 1 0"] },
   { names := ["nkoo", "nko"]
     rows := ["1j4 1m 2 2"]
     shared := ["170 0 e 0 3 0 1cta 1"] },
   { names := ["nshu", "nushu"]
     rows := ["20o1 0 cy6 az"] },
   { names := ["ogam", "ogham"]
     rows := ["4g0 s"] },
   { names := ["olck", "olchiki"]
     rows := ["5lc 1b"] },
   { names := ["orkh", "oldturkic"]
     rows := ["1gxs 20"]
     shared := ["6e2 0 2qd 0"] },
   { names := ["orya", "oriya"]
     rows := ["269 2 1 7 2 1 2 l 1 6 1 1 1 4 2 8 2 1 2 2 7 2 4 1 1 4 2 h"]
     shared := ["1u9 1 h 1 3uc 0 n 0"] },
   { names := ["osge", "osage"]
     rows := ["1fhs z 4 z"]
     shared := ["ld 0 2 0 6 0 24 0"] },
   { names := ["osma", "osmanya"]
     rows := ["1fgg t 2 9"] },
   { names := ["ougr", "olduyghur"]
     rows := ["1hm8 p"]
     shared := ["18g 0 1fht 0"] },
   { names := ["palm", "palmyrene"]
     rows := ["1g80 v"] },
   { names := ["pauc", "paucinhau"]
     rows := ["1juo 1k"] },
   { names := ["perm", "oldpermic"]
     rows := ["1f80 16"]
     shared := ["53 0 g8 0 5 2 a 0 a7 0"] },
   { names := ["phag", "phagspa"]
     rows := ["x8g 1j"]
     shared := ["4qq 1 1 0 1m1 0 34i 0"] },
   { names := ["phli", "inscriptionalpahlavi"]
     rows := ["1gtc i 5 7"] },
   { names := ["phlp", "psalterpahlavi"]
     rows := ["1gu8 h 7 3 c 6"]
     shared := ["18g 0"] },
   { names := ["phnx", "phoenician"]
     rows := ["1gcg r 3 0"] },
   { names := ["plrd", "miao"]
     rows := ["20hs 22 4 1k 7 g"] },
   { names := ["prti", "inscriptionalparthian"]
     rows := ["1gsg l 2 7"] },
   { names := ["rjng", "rejang"]
     rows := ["xf4 z b 0"] },
   { names := ["rohg", "hanifirohingya"]
     rows := ["1h4w 13 8 9"]
     shared := ["170 0 e 0 3 0 w 0 43 0"] },
   { names := ["runr", "runic"]
     rows := ["4gw 22 3 a"]
     shared := ["4iz 2"] },
   { names := ["samr", "samaritan"]
     rows := ["1kw 19 2 e"]
     shared := ["94h 0"] },
   { names := ["sarb", "oldsoutharabian"]
     rows := ["1gm8 v"] },
   { names := ["saur", "saurashtra"]
     rows := ["xa8 1x 8 b"] },
   { names := ["sgnw", "signwriting"]
     rows := ["2l8g i3 f 4 1 e"] },
   { names := ["shaw", "shavian"]
     rows := ["1ff4 1b"]
     shared := ["53 0"] },
   { names := ["shrd", "sharada"]
     rows := ["1i0w 2n 1vk 7"]
     shared := ["1u9 0 3ut 0 1 0 2 1 2 0 9 0 2 0 ria 5 2 0"] },
   { names := ["sidd", "siddham"]
     rows := ["1itc 1h 2 11"] },
   { names := ["sind", "khudawadi"]
     rows := ["1i9c 1m 5 9"]
     shared := ["1us 1 vd6 9"] },
   { names := ["sinh", "sinhala"]
     rows := ["2o1 2 1 h 3 n 1 8 1 0 2 6 3 0 4 5 1 0 1 7 6 9 2 2 1fcc j"]
     shared := ["1us 1 3v0 0"] },
   { names := ["sogd", "sogdian"]
     rows := ["1hkg 15"]
     shared := ["18g 0"] },
   { names := ["sogo", "oldsogdian"]
     rows := ["1hj4 13"] },
   { names := ["sora", "sorasompeng"]
     rows := ["1hw0 o 7 9"] },
   { names := ["soyo", "soyombo"]
     rows := ["1jrk 2a"] },
   { names := ["sund", "sundanese"]
     rows := ["5fk 1r 74 7"] },
   { names := ["sylo", "sylotinagri"]
     rows := ["x6o 18"]
     shared := ["1us 1 3k 9"] },
   { names := ["syrc", "syriac"]
     rows := ["1ds d 1 1n 2 2 7k a"]
     shared := ["lf 1 2 1 1 0 o 2 7 1 1 1 ka 0 e 1 2 0 w 0 a a q 0 4nb 0 1 0"] },
   { names := ["tagb", "tagbanwa"]
     rows := ["4m8 c 1 2 1 1"]
     shared := ["4l1 1"] },
   { names := ["takr", "takri"]
     rows := ["1j0g 1l 6 9"]
     shared := ["1us 1 vd6 9"] },
   { names := ["tale", "taile"]
     rows := ["500 t 2 4"]
     shared := ["lc 1 5 1 3 0 2lv 9"] },
   { names := ["talu", "newtailue"]
     rows := ["51c 17 4 p 6 a 3 1"] },
   { names := ["taml", "tamil"]
     rows := ["29u 1 1 5 3 2 1 3 3 1 1 0 1 1 3 1 3 2 3 b 4 4 3 2 1 3 2 0 6 0 e k 1ih1 1d d 0"]
     shared := ["1u9 1 h 1 3uc 0 ro8 0 ky5 0 1 0 1j 1"] },
   { names := ["tang", "tangut"]
     rows := ["20o0 0 v 5bz e8 u 2p 36"]
     shared := ["9gw f dr 0"] },
   { names := ["tavt", "taiviet"]
     rows := ["xog 1u o 4"] },
   { names := ["telu", "telugu"]
     rows := ["2dc c 1 2 1 m 1 f 2 8 1 2 1 3 7 1 1 2 1 1 2 3 2 9 7 8"]
     shared := ["1u9 1 h 1 3u7 1 1 0 1 0 n 0"] },
   { names := ["tfng", "tifinagh"]
     rows := ["8xc 1j 7 1 e 0"]
     shared := ["le 0 1 0 1 3 p 0"] },
   { names := ["tglg", "tagalog"]
     rows := ["4jk l 9 0"]
     shared := ["4l1 1"] },
   { names := ["thaa", "thaana"]
     rows := ["1hc 1d"]
     shared := ["170 0 e 1 2 0 1s 9 1cw8 0 a 0"] },
   { names := ["thai"]
     rows := ["2rl 1l 5 r"]
     shared := ["jg 0 q 0 17 0 19 0"] },
   { names := ["tibt", "tibetan"]
     rows := ["2yo 1z 1 z 4 12 1 z 1 e 1 6 4 1"]
     shared := ["9hk 3"] },
   { names := ["tirh", "tirhuta"]
     rows := ["1im8 1z 8 9"]
     shared := ["1u9 1 h 1 3u7 0 c 0 f 0 ri5 9"] },
   { names := ["tnsa", "tangsa"]
     rows := ["1zlc 26 1 9"] },
   { names := ["toto"]
     rows := ["2nbk u"]
     shared := ["jg 0"] },
   { names := ["ugar", "ugaritic"]
     rows := ["1f9c t 1 0"] },
   { names := ["vaii", "vai"]
     rows := ["wlc 8b"] },
   { names := ["vith", "vithkuqi"]
     rows := ["1fn4 a 1 e 1 6 1 1 1 a 1 e 1 6 1 1"] },
   { names := ["wara", "warangciti"]
     rows := ["1jfk 2a c 0"] },
   { names := ["wcho", "wancho"]
     rows := ["2ncw 1l 5 0"] },
   { names := ["xpeo", "oldpersian"]
     rows := ["1fa8 z 4 d"] },
   { names := ["xsux", "cuneiform"]
     rows := ["1kw0 pl 2u 32 1 4 b 5f"] },
   { names := ["yezi", "yezidi"]
     rows := ["1hfk 15 1 2 2 1"]
     shared := ["170 0 e 0 3 0 1s 9"] },
   { names := ["yiii", "yi"]
     rows := ["vls wc 3 1i"]
     shared := ["9hd 1 5 9 2 7 67 0 14rp 4"] },
   { names := ["zanb", "zanabazarsquare"]
     rows := ["1jpc 1z"] },
   { names := ["zinh", "inherited", "qaai"]
     rows := ["lc 33 7p 1 ck a q 0 kg 3 3ff 19 2 b dg 2 1 c 1 6 4 0 6 0 3 1 5i 1r ek 1 5e w 309 3",
      "2z 1 14kl f g d r3 0 6a 0 38a 0 1138 19 2 m f4 2 h 7 2 6 u 3 h45u 6n"]
     withdrawn := ["lc e 1 1 1 0 f 2 7 1 1 1 g 0 2 0 i 0 5 0 4 c 7p 1 ck a q 0 kg 1 3ul 2 1 c 1 6 4 0",
      "6 0 3 1 5i 1 1i 0 1 0 l1 0 309 3 2z 1 15j9 0 38a 0"] },
   { names := ["zyyy", "common"]
     rows := ["0 1s q 5 q 1a 1 e 1 4 n 0 v 0 ch 12 5 4 2 j 38 0 9 0 6 0 1 0 hp 0 6 0 e 0 3 0 w 0",
      "4c 0 ec 0 3l 1 yh 0 b9 3 82 0 167 2 1z 1 5n 1 1 0 y5 0 d 0 7 3 1 5 1 2 2 0 lh b 2 2e",
      "1 a 3 a 1 e h x 1q 11 1 2 2 5 1 q 1 g 15 2 4 ih m a l pr 74 hf 2 3t e8 2l b6 k 1 0",
      "1 o f 7 4 3 2j 1 3 0 2i 1 43 f w 11 9 0 1c 1r v 28 1b 0 2g 4n 534 1r hkw x 2u 2 4l 9",
      "6s 0 4g 0 az 0 e 1 g5u 1 5s 9 m y 1 i 1 3 43 0 1 v q 5 q a a 0 19 1 1s 6 1 6 a 4",
      "76 2 4 18 3 8 28 c 1f 18 6c q 10o4 3 318 70 3 c3 6 m f g 2n 37 1o 6t a 12 2 1p 3 g",
      "8 1 7 t 4 1o 5x j c j c 2e 9 o 3r 2c 1 1y 1 1 2 0 2 1 2 3 1 b 1 0 1 6 1 1s 1 3 2 7",
      "1 6 1 r 1 3 1 4 1 0 3 6 1 9f 2 83 2 1d 41d 1v 24 1o jm 17 4 2r c e 2 e 1 e 1 10 a 4t",
      "1k p 1 1 d 17 4 8 7 1 e 5 4a rc 3 g 3 c 3 61 6 b 4 0 f b 4 1j 8 9 6 13 8 t 2 b 4 1",
      "e 8 13 9j 8 d 2 c 3 a 3 1k 1 0 4 f 2 b 4 9 7 42 1 2u gvly 0 u 2n"]
     withdrawn := ["53 0 ec 0 a 0 1 2 1 0 9 0 1 0 4a 0 if 0 e 0 3 0 w 0 mb 1 1hx 0 167 2 1z 1 5n 1 1 0",
      "y5 0 d 0 7 3 1 5 1 2 2 0 ms 0 v 0 a 0 2 0 2pl 0 o 1 a 0 4 0 1 0 bw f 1 2 2 0 1 9 1 c",
      "g 5 1 0 4 3 2j 1 3 0 2i 1 43 f w 11 9 0 1c 13 1k 1c f b 1f 0 2g o a 4 2o u mpt 7",
      "88 9 6s 0 4g 0 gha 1 79 1 7u 4 a 0 19 1 9s 2 4 18 3 8 bl q 10o4 3 4ho h 63i 1"] },
   { names := ["zzzz", "unknown"]
     rows := ["oo 1 6 3 7 0 1 0 k 0 b1 0 12 1 1e 1 3 0 1j 7 r 3 6 a 7i 0 1o 1 2t d 1n 1 1d 1 f 0",
      "s 1 1 0 b 4 y 4 6l 0 8 1 2 1 m 0 7 0 1 2 4 1 9 1 2 1 4 7 1 3 2 0 5 1 p 1 3 0 6 3 2 1",
      "m 0 7 0 2 0 2 0 2 1 1 0 5 3 2 1 3 2 1 6 4 0 1 6 h 9 3 0 9 0 3 0 m 0 7 0 2 0 5 1 a 0",
      "3 0 3 1 1 e 4 1 c 6 7 0 3 0 8 1 2 1 m 0 7 0 2 0 5 1 9 1 2 1 3 6 3 3 2 0 5 1 i 9 2 0",
      "6 2 3 0 4 2 2 0 1 0 2 2 2 2 3 2 c 3 5 2 3 0 4 1 1 5 1 d l 4 d 0 3 0 n 0 g 1 9 0 3 0",
      "4 6 2 0 3 0 2 1 4 1 a 6 m 0 3 0 n 0 a 0 5 1 9 0 3 0 4 6 2 4 3 0 4 1 a 0 3 b d 0 3 0",
      "1f 0 3 0 6 3 g 1 q 0 3 0 i 2 o 0 9 0 1 1 7 2 1 3 6 0 1 0 8 5 a 1 3 b 1m 3 t 10 2 0",
      "1 0 5 0 o 0 1 0 n 1 5 0 1 0 7 0 a 1 4 v 20 0 10 3 13 0 10 0 f 0 d 10 5i 0 1 4 1 1",
      "ah 0 4 1 7 0 1 0 4 1 15 0 4 1 x 0 4 1 7 0 1 0 4 1 f 0 1l 0 4 1 1v 1 w 2 q 5 2e 1 6 1",
      "il 2 2h 6 m 8 o 8 k b d 0 3 0 2 b 2m 1 a 5 a 5 q 5 2h 6 17 4 1y 9 v 0 c 3 c 3 1 2",
      "16 1 5 a 18 3 q 5 b 2 1q 1 1t 0 t 1 b 5 a 5 e 1 1a 1 c j 25 0 4m 7 1o 2 f 2 1q 4",
      "17 1 b 7 17 4 eu 1 6 1 12 1 6 1 8 0 1 0 1 0 1 0 v 1 1h 0 f 0 e 1 6 0 j 1 3 0 9 0",
      "2t 0 c 1 r 0 d 2 y d x e 3w 3 ii l b k 1ec 1 am 4 19 0 1 4 1 1 1k 6 2 d o 8 7 0 7 0",
      "7 0 7 0 7 0 7 0 7 0 7 0 3i x q 0 2h b 5y p 28 0 2e 1 2v 4 17 0 2m 0 2e 8 1c 0 mlp 2",
      "1j 8 9o j 54 7 65 j 1o 2 a 5 1k 7 1y 7 c 5 38 a u 2 26 0 b 3 x 0 1j 8 e 1 a 1 2v n",
      "s 9 6 1 6 1 6 8 7 0 7 0 1o 3 3i 1 a 5 8mc b n 3 1d 6ir a6 1 2y 11 7 b 5 4 q 0 5 0",
      "1 0 2 0 2 0 i2 v 16 5 1f 0 j 0 4 3 5 0 3r 1 1 0 5a 2 6 1 6 1 6 1 3 2 7 0 7 9 5 1 c 0",
      "q 0 j 0 2 0 f 1 e x 3f 4 3 3 19 2 2g 0 d 2 1 1a 1a 3l t 2 1d e s 3 10 8 u 4 17 4 u 0",
      "11 3 e 15 4e 1 a 5 10 3 10 3 14 7 1g a c 0 f 0 7 0 2 0 b 0 f 0 7 0 2 2 1g b 8n 8 m 9",
      "8 n 6 0 16 0 9 1w 6 1 1 0 18 0 2 2 1 1 n 0 20 7 9 1b j 0 2 4 x 2 r 4 r 11 1k 3 k 1",
      "1e 0 2 4 8 0 3 0 t 1 3 3 a 6 9 6 1s v 13 3 c 8 1i 2 t 1 r 4 q 6 4 b 7 27 21 1i 1f c",
      "1f 6 1a 7 a 5 12 2 t 7 2 5r v 0 16 0 3 1 2 f 6 7 9 w 1a 7 16 l q 11 s j n 8 26 3",
      "10 8 1w 9 1 1 p 6 a 5 1h 0 i 7 13 8 2o 0 k a i 0 1b 1p 7 0 1 0 4 0 f 0 b 5 1n 4 a 5",
      "4 0 8 1 2 1 m 0 7 0 2 0 5 0 a 1 2 1 3 1 1 5 1 4 7 1 7 2 5 a a 0 1 1 1 0 12 0 a 0 1 1",
      "1 0 4 0 a 0 2 7 2 s 2k 0 5 t 20 7 a 4l 1i 1 12 x 1x a a 5 d i 1m 5 a 5 k r r 1 f 3",
      "n 54 1o 2r 2b b 8 1 1 1 8 0 2 0 u 0 2 1 c 8 a 1x 8 1 1a 1 b q 20 7 2b c 21 6 a 2d",
      "8 2f y d a 5 9 0 19 0 e 9 t 2 w 1 m 0 e 20 7 0 2 0 18 2 1 0 2 0 9 7 a 5 6 0 2 0 11 0",
      "2 0 6 6 a 5 18 3 a 6t p 6 h 0 15 2 t 2c 1 e 1e c pn 2t 33 0 5 a 5g 217 2r c uu 9",
      "32z 4 g7 5a0 1m 1c5 ft 6 v 0 a 3 29 0 a 5 u 1 6 9 1y 9 a 0 7 0 l 4 j bz 1m 5h 2j 4",
      "p 1 p 17 23 3 1l 6 h 1r 5 a 7 8 5p2 14 w 2o 37 6po 4 0 7 0 2 0 83 e 1 s 3 1 1 d 4 7",
      "b0 1s3 2z 4 d 2 9 6 a 1 8 317 71 2 c4 5 n e h e 1a 1 n 8 38 1n 6u 9 13 1 5e k 1y 3d",
      "k b k b 2f 8 p 3q 2d 0 1z 0 2 1 1 1 2 1 4 0 c 0 1 0 7 0 1t 0 4 1 8 0 7 0 s 0 4 0 5 0",
      "1 2 7 0 9g 1 84 1 ji e 5 0 f un v 5 6 5w 7 0 h 1 7 0 2 0 5 4 1q w 1 33 19 2 e 1 a 3",
      "2 8v v g 1m 4 1 cv 16 5x 17 3 1 5b v 0 m 7 2 67 7 0 4 0 2 0 f 0 5h 1 g 14 24 3 a 3",
      "2 ls 1w 23 1p 5d 4 0 r 0 2 0 1 1 1 0 a 0 4 0 1 0 1 5 1 3 1 0 1 0 1 0 3 0 2 0 1 1 1 0",
      "1 0 1 0 1 0 1 0 2 0 1 1 4 0 7 0 4 0 4 0 1 0 a 0 h 4 3 0 5 0 h 1f 2 7h 18 3 2s b f 1",
      "f 0 f 0 11 9 4u 1j t c 18 3 9 6 2 d 6 49 rd 2 h 2 d 2 62 5 c 3 1 e c 3 1k 7 a 5 14 7",
      "u 1 c 3 2 d 9 12 9k 7 e 1 d 2 b 2 1l 0 1 3 g 1 c 3 a 6 43 0 2v sk wyo v 3dq 1 4ge 1",
      "5rl e ha 1wh f2 15t 3t7 4 6ju f5vq 1 t 2o 3j 6o 47bj"] },
   { names := ["gara", "garay"]
     rows := ["1h6o 11 3 s 8 1"]
     shared := ["170 0 e 0 3 0"] },
   { names := ["gukh", "gurungkhema"]
     rows := ["1xq8 1l"]
     shared := ["1ut 0"] },
   { names := ["krai", "kiratrai"]
     rows := ["205c 1l"] },
   { names := ["onao", "olonal"]
     rows := ["2nyo 16 4 0"]
     shared := ["1us 1"] },
   { names := ["sunu", "sunuwar"]
     rows := ["1k1s x e 9"]
     shared := ["lc 1 1 0 9 0 2 0 s 0 3 0"] },
   { names := ["todr", "todhri"]
     rows := ["1fpc 1f"]
     shared := ["ld 0 2 0 2 0 9 0 1 0 22 0"] },
   { names := ["tutg", "tulutigalari"]
     rows := ["1if4 9 1 0 2 0 1 11 1 9 1 0 2 0 1 3 1 9 1 1 8 1"]
     shared := ["2jq 9 35u 0 1 0 ri3 5 57 0"] }]

/-- The script of that name, which is in lower case and without blanks. -/
def script? (name : String) : Option Script := scripts.find? fun s => s.names.contains name

/-- The characters that belong to this script alone. -/
def Script.own (s : Script) : CharSet := CharSet.ofRows s.rows

/-- The characters that are used in this script. -/
def Script.extended (s : Script) : CharSet :=
  (s.own.diff (CharSet.ofRows s.withdrawn)).union (CharSet.ofRows s.shared)

end WebServer.Unicode
