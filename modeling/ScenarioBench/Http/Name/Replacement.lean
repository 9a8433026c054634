import ScenarioBench.Http.Name.Mark

/-! What the characters of a name stand for.

A name may be written with wide letters, circled digits, ligatures and other forms of characters of
ASCII, and with characters that leave no trace. Letters beyond ASCII stand for themselves here: in
which case they are written makes no difference to whether a name is one.
-/

set_option autoImplicit false

namespace ScenarioBench.Http.Name

open Text (within isShown)

def tracelessRanges : List (Nat × Nat) :=
  [(0xad, 0xad), (0x34f, 0x34f), (0x115f, 0x1160), (0x17b4, 0x17b5), (0x180b, 0x180f),
   (0x200b, 0x200b), (0x2060, 0x2064), (0x206a, 0x206f), (0x3164, 0x3164), (0xfe00, 0xfe0f),
   (0xfeff, 0xfeff), (0xffa0, 0xffa0), (0x1bca0, 0x1bca3), (0x1d173, 0x1d17a), (0xe0100, 0xe01ef)]

def refusedRanges : List (Nat × Nat) :=
  [(0xa8, 0xa8), (0xaf, 0xaf), (0xb4, 0xb4), (0xb8, 0xb8), (0x2d8, 0x2dd), (0x37a, 0x37a),
   (0x384, 0x385), (0x1fbd, 0x1fbd), (0x1fbf, 0x1fc1), (0x1fcd, 0x1fcf), (0x1fdd, 0x1fdf),
   (0x1fed, 0x1fee), (0x1ffd, 0x1ffe), (0x2017, 0x2017), (0x2024, 0x2026), (0x203e, 0x203e),
   (0x2047, 0x2049), (0x2100, 0x2101), (0x2105, 0x2106), (0x2488, 0x249b), (0x2a74, 0x2a74),
   (0x2ff0, 0x2fff), (0x309b, 0x309c), (0x31ef, 0x31ef), (0x33c2, 0x33c2), (0x33c7, 0x33c7),
   (0x33d8, 0x33d8), (0xfc5e, 0xfc63), (0xfdfa, 0xfdfb), (0xfe12, 0xfe13), (0xfe16, 0xfe16),
   (0xfe19, 0xfe19), (0xfe30, 0xfe30), (0xfe47, 0xfe4c), (0xfe52, 0xfe52), (0xfe55, 0xfe56),
   (0xfe5f, 0xfe5f), (0xfe64, 0xfe65), (0xfe68, 0xfe68), (0xfe6a, 0xfe6b), (0xfe70, 0xfe70),
   (0xfe72, 0xfe72), (0xfe74, 0xfe74), (0xfe76, 0xfe76), (0xfe78, 0xfe78), (0xfe7a, 0xfe7a),
   (0xfe7c, 0xfe7c), (0xfe7e, 0xfe7e), (0xff03, 0xff03), (0xff05, 0xff05), (0xff0f, 0xff0f),
   (0xff1a, 0xff1a), (0xff1c, 0xff1c), (0xff1e, 0xff20), (0xff3b, 0xff3e), (0xff5c, 0xff5c),
   (0xffe3, 0xffe3), (0xfffc, 0xfffd), (0x1f100, 0x1f100)]

def letterForms : List (Nat × String) :=
  [(0xaa, "a"), (0xb2, "23"), (0xb9, "1o"), (0x17f, "s"), (0x2b0, "h"), (0x2b2, "jr"),
   (0x2b7, "wy"), (0x2e1, "lsx"), (0x37e, ";"), (0x1d2c, "a"), (0x1d2e, "b"), (0x1d30, "de"),
   (0x1d33, "ghijklmn"), (0x1d3c, "o"), (0x1d3e, "prtuwa"), (0x1d47, "bde"), (0x1d4d, "g"),
   (0x1d4f, "km"), (0x1d52, "o"), (0x1d56, "ptu"), (0x1d5b, "v"), (0x1d62, "iruv"), (0x1d9c, "c"),
   (0x1da0, "f"), (0x1dbb, "z"), (0x1fef, "\x60"), (0x2070, "0i"), (0x2074, "456789+"),
   (0x207c, "=()n0123456789+"), (0x208c, "=()"), (0x2090, "aeox"), (0x2095, "hklmnpst"),
   (0x2102, "c"), (0x210a, "ghhhh"), (0x2110, "iill"), (0x2115, "n"), (0x2119, "pqrrr"),
   (0x2124, "z"), (0x2128, "z"), (0x212a, "k"), (0x212c, "bc"), (0x212f, "eef"), (0x2133, "mo"),
   (0x2139, "i"), (0x2145, "ddeij"), (0x2160, "i"), (0x2164, "v"), (0x2169, "x"), (0x216c, "lcdmi"),
   (0x2174, "v"), (0x2179, "x"), (0x217c, "lcdm"), (0x2460, "123456789"),
   (0x24b6, "abcdefghijklmnopqrstuvwxyzabcdefghijklmnopqrstuvwxyz0"), (0x2c7c, "jv"), (0x3002, "."),
   (0xa7f1, "scfq"), (0xfb29, "+"), (0xfe10, ","), (0xfe14, ";!"), (0xfe33, "__()\x7b\x7d"),
   (0xfe4d, "___,"), (0xfe54, ";"), (0xfe57, "!"), (0xfe59, "()\x7b\x7d"), (0xfe60, "&*+-"),
   (0xfe66, "="), (0xfe69, "$"), (0xff01, "!\x22"), (0xff04, "$"), (0xff06, "&\x27()*+,-."),
   (0xff10, "0123456789"), (0xff1b, ";"), (0xff1d, "="), (0xff21, "abcdefghijklmnopqrstuvwxyz"),
   (0xff3f, "_\x60abcdefghijklmnopqrstuvwxyz\x7b"), (0xff5d, "\x7d~"), (0xff61, "."),
   (0x107a5, "q"), (0x1ccd6, "abcdefghijklmnopqrstuvwxyz0123456789"),
   (0x1d400, "abcdefghijklmnopqrstuvwxyzabcdefghijklmnopqrstuvwxyzabcdefgh"),
   (0x1d43c, "ijklmnopqrstuvwxyzabcdefg"),
   (0x1d456, "ijklmnopqrstuvwxyzabcdefghijklmnopqrstuvwxyzabcdefghijklmnop"),
   (0x1d492, "qrstuvwxyza"), (0x1d49e, "cd"), (0x1d4a2, "g"), (0x1d4a5, "jk"), (0x1d4a9, "nopq"),
   (0x1d4ae, "stuvwxyzabcd"), (0x1d4bb, "f"), (0x1d4bd, "hijklmn"),
   (0x1d4c5, "pqrstuvwxyzabcdefghijklmnopqrstuvwxyzabcdefghijklmnopqrstuvw"), (0x1d501, "xyzab"),
   (0x1d507, "defg"), (0x1d50d, "jklmnopq"), (0x1d516, "stuvwxy"),
   (0x1d51e, "abcdefghijklmnopqrstuvwxyzab"), (0x1d53b, "defg"), (0x1d540, "ijklm"), (0x1d546, "o"),
   (0x1d54a, "stuvwxy"), (0x1d552, "abcdefghijklmnopqrstuvwxyzabcdefghijklmnopqrstuvwxyzabcdefgh"),
   (0x1d58e, "ijklmnopqrstuvwxyzabcdefghijklmnopqrstuvwxyzabcdefghijklmnop"),
   (0x1d5ca, "qrstuvwxyzabcdefghijklmnopqrstuvwxyzabcdefghijklmnopqrstuvwx"),
   (0x1d606, "yzabcdefghijklmnopqrstuvwxyzabcdefghijklmnopqrstuvwxyzabcdef"),
   (0x1d642, "ghijklmnopqrstuvwxyzabcdefghijklmnopqrstuvwxyzabcdefghijklmn"),
   (0x1d67e, "opqrstuvwxyzabcdefghijklmnopqrstuvwxyz"),
   (0x1d7ce, "01234567890123456789012345678901234567890123456789"), (0x1f12b, "cr"),
   (0x1f130, "abcdefghijklmnopqrstuvwxyz"), (0x1fbf0, "0123456789")]

def wordForms : List (Nat × String) :=
  [(0x132, "ij ij"), (0x1c7, "lj lj lj nj nj nj"), (0x1f1, "dz dz dz"), (0x345, "\u03b9"),
   (0xe33, "\u0e4d\u0e32"), (0xeb3, "\u0ecd\u0eb2"), (0x203c, "!!"), (0x20a8, "rs"), (0x2116, "no"),
   (0x2120, "sm tel tm"), (0x213b, "fax"), (0x2161, "ii iii iv"), (0x2165, "vi vii viii ix"),
   (0x216a, "xi xii"), (0x2171, "ii iii iv"), (0x2175, "vi vii viii ix"), (0x217a, "xi xii"),
   (0x2469, "10 11 12 13 14 15 16 17 18 19 20 (1) (2) (3) (4) (5) (6) (7) (8) (9) (10)"),
   (0x247e, "(11) (12) (13) (14) (15) (16) (17) (18) (19) (20)"),
   (0x249c, "(a) (b) (c) (d) (e) (f) (g) (h) (i) (j) (k) (l) (m) (n) (o) (p) (q) (r) (s)"),
   (0x24af, "(t) (u) (v) (w) (x) (y) (z)"), (0x2a75, "== ==="),
   (0x3250, "pte 21 22 23 24 25 26 27 28 29 30 31 32 33 34 35"),
   (0x32b1, "36 37 38 39 40 41 42 43 44 45 46 47 48 49 50"), (0x32cc, "hg erg ev ltd"),
   (0x3371, "hpa da au bar ov pc dm dm2 dm3 iu"), (0x3380, "pa na"),
   (0x3383, "ma ka kb mb gb cal kcal pf nf"), (0x338e, "mg kg hz khz mhz ghz thz"),
   (0x3396, "ml dl kl fm nm"), (0x339c, "mm cm km mm2 cm2 m2 km2 mm3 cm3 m3 km3"),
   (0x33a9, "pa kpa mpa gpa rad"), (0x33b0, "ps ns"), (0x33b3, "ms pv nv"),
   (0x33b7, "mv kv mv pw nw"), (0x33bd, "mw kw mw"), (0x33c3, "bq cc cd"),
   (0x33c8, "db gy ha hp in kk km kt lm ln log lx mb mil mol ph"), (0x33d9, "ppm pr sr sv wb"),
   (0x33ff, "gal"), (0xfb00, "ff fi fl ffi ffl st st"), (0xff9e, "\u3099 \u309a"),
   (0x1f101, "0, 1, 2, 3, 4, 5, 6, 7, 8, 9,"),
   (0x1f110, "(a) (b) (c) (d) (e) (f) (g) (h) (i) (j) (k) (l) (m) (n) (o) (p) (q) (r) (s)"),
   (0x1f123, "(t) (u) (v) (w) (x) (y) (z)"), (0x1f12d, "cd wz"), (0x1f14a, "hv mv sd ss ppv wc"),
   (0x1f16a, "mc md mr"), (0x1f190, "dj")]

def isTraceless (character : Char) : Bool :=
  within tracelessRanges character

/-- Whether a character joins its neighbours, or keeps them apart. -/
def isJoiner (character : Char) : Bool :=
  character == '\u200c' || character == '\u200d'

def isRefused (character : Char) : Bool :=
  within refusedRanges character
    || (!isShown character && !isMark character && !isTraceless character && !isJoiner character)

def form? (character : Char) : Option (List Char) :=
  let letter := letterForms.findSome? fun (first, letters) =>
    if first ≤ character.toNat then
      letters.toList[character.toNat - first]?.map fun letter => [letter]
    else none
  letter <|> wordForms.findSome? fun (first, words) =>
    if first ≤ character.toNat then
      (words.splitOn " ")[character.toNat - first]?.map String.toList
    else none

def replaced? (character : Char) : Option (List Char) :=
  if character.toNat < 0x80 then some [character.toLower]
  else if isTraceless character then some []
  else if isRefused character then none
  else some ((form? character).getD [character])

end ScenarioBench.Http.Name
