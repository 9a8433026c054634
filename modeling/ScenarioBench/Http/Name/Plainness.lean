import ScenarioBench.Http.Name.Replacement

/-! Texts in which every character stands for itself. -/

set_option autoImplicit false

namespace ScenarioBench.Http.Name

open Text (within)

/-- The runs of characters that stand for others, as a first, a last and the way between two. -/
def formRuns : List (Nat × Nat × Nat) :=
  [(0xaa, 0xaa, 1), (0xb2, 0xb5, 1), (0xb9, 0xba, 1), (0xbc, 0xbe, 1), (0xc0, 0xd6, 1),
   (0xd8, 0xde, 1), (0x100, 0x132, 2), (0x133, 0x134, 1), (0x136, 0x136, 1), (0x139, 0x13f, 2),
   (0x140, 0x141, 1), (0x143, 0x149, 2), (0x14a, 0x178, 2), (0x179, 0x181, 2), (0x182, 0x186, 2),
   (0x187, 0x189, 2), (0x18a, 0x18b, 1), (0x18e, 0x191, 1), (0x193, 0x194, 1), (0x196, 0x198, 1),
   (0x19c, 0x19d, 1), (0x19f, 0x1a0, 1), (0x1a2, 0x1a6, 2), (0x1a7, 0x1a9, 2), (0x1ac, 0x1ae, 2),
   (0x1af, 0x1b1, 2), (0x1b2, 0x1b3, 1), (0x1b5, 0x1b7, 2), (0x1b8, 0x1b8, 1), (0x1bc, 0x1bc, 1),
   (0x1c4, 0x1cd, 1), (0x1cf, 0x1db, 2), (0x1de, 0x1ee, 2), (0x1f1, 0x1f4, 1), (0x1f6, 0x1f8, 1),
   (0x1fa, 0x232, 2), (0x23a, 0x23b, 1), (0x23d, 0x23e, 1), (0x241, 0x243, 2), (0x244, 0x246, 1),
   (0x248, 0x24e, 2), (0x2b0, 0x2b8, 1), (0x2e0, 0x2e4, 1), (0x340, 0x341, 1), (0x343, 0x345, 1),
   (0x370, 0x376, 2), (0x37e, 0x38f, 1), (0x391, 0x3ab, 1), (0x3cf, 0x3d6, 1), (0x3d8, 0x3f0, 2),
   (0x3f1, 0x3f2, 1), (0x3f4, 0x3f5, 1), (0x3f7, 0x3f9, 2), (0x3fa, 0x3fa, 1), (0x3fd, 0x42f, 1),
   (0x460, 0x480, 2), (0x48a, 0x4c0, 2), (0x4c1, 0x4cd, 2), (0x4d0, 0x52e, 2), (0x531, 0x556, 1),
   (0x587, 0x587, 1), (0x675, 0x678, 1), (0x958, 0x95f, 1), (0x9dc, 0x9df, 1), (0xa33, 0xa33, 1),
   (0xa36, 0xa36, 1), (0xa59, 0xa5b, 1), (0xa5e, 0xa5e, 1), (0xb5c, 0xb5d, 1), (0xe33, 0xe33, 1),
   (0xeb3, 0xeb3, 1), (0xedc, 0xedd, 1), (0xf0c, 0xf0c, 1), (0xf43, 0xf43, 1), (0xf4d, 0xf4d, 1),
   (0xf52, 0xf52, 1), (0xf57, 0xf57, 1), (0xf5c, 0xf5c, 1), (0xf69, 0xf69, 1), (0xf73, 0xf75, 2),
   (0xf76, 0xf79, 1), (0xf81, 0xf81, 1), (0xf93, 0xf93, 1), (0xf9d, 0xf9d, 1), (0xfa2, 0xfa2, 1),
   (0xfa7, 0xfa7, 1), (0xfac, 0xfac, 1), (0xfb9, 0xfb9, 1), (0x10a0, 0x10cd, 1),
   (0x10fc, 0x10fc, 1), (0x13f8, 0x13fd, 1), (0x1c80, 0x1c89, 1), (0x1c90, 0x1cbf, 1),
   (0x1d2c, 0x1d2e, 1), (0x1d30, 0x1d3a, 1), (0x1d3c, 0x1d4d, 1), (0x1d4f, 0x1d6a, 1),
   (0x1d78, 0x1d78, 1), (0x1d9b, 0x1dbf, 1), (0x1e00, 0x1e94, 2), (0x1e9a, 0x1e9b, 1),
   (0x1e9e, 0x1efe, 2), (0x1f08, 0x1f0f, 1), (0x1f18, 0x1f1d, 1), (0x1f28, 0x1f2f, 1),
   (0x1f38, 0x1f3f, 1), (0x1f48, 0x1f4d, 1), (0x1f59, 0x1f5f, 1), (0x1f68, 0x1f6f, 1),
   (0x1f71, 0x1f7d, 2), (0x1f80, 0x1faf, 1), (0x1fb2, 0x1fb4, 1), (0x1fb7, 0x1fc4, 1),
   (0x1fc7, 0x1fcc, 1), (0x1fd3, 0x1fd3, 1), (0x1fd8, 0x1fdb, 1), (0x1fe3, 0x1fe3, 1),
   (0x1fe8, 0x1ff4, 1), (0x1ff7, 0x1ffc, 1), (0x2011, 0x2011, 1), (0x2033, 0x2034, 1),
   (0x2036, 0x2037, 1), (0x203c, 0x203c, 1), (0x2057, 0x2057, 1), (0x2070, 0x209c, 1),
   (0x20a8, 0x20a8, 1), (0x2102, 0x2103, 1), (0x2107, 0x2109, 2), (0x210a, 0x2113, 1),
   (0x2115, 0x2116, 1), (0x2119, 0x211d, 1), (0x2120, 0x2122, 1), (0x2124, 0x212a, 2),
   (0x212b, 0x212d, 1), (0x212f, 0x2139, 1), (0x213b, 0x2140, 1), (0x2145, 0x2149, 1),
   (0x2150, 0x217f, 1), (0x2183, 0x2183, 1), (0x2189, 0x2189, 1), (0x222c, 0x222d, 1),
   (0x222f, 0x2230, 1), (0x2329, 0x232a, 1), (0x2460, 0x24ea, 1), (0x2a0c, 0x2a0c, 1),
   (0x2a75, 0x2a76, 1), (0x2adc, 0x2adc, 1), (0x2c00, 0x2c2f, 1), (0x2c60, 0x2c62, 2),
   (0x2c63, 0x2c64, 1), (0x2c67, 0x2c6d, 2), (0x2c6e, 0x2c70, 1), (0x2c72, 0x2c72, 1),
   (0x2c75, 0x2c75, 1), (0x2c7c, 0x2c80, 1), (0x2c82, 0x2ce2, 2), (0x2ceb, 0x2ced, 2),
   (0x2cf2, 0x2cf2, 1), (0x2d6f, 0x2d6f, 1), (0x2e9f, 0x2e9f, 1), (0x2ef3, 0x2fd5, 1),
   (0x3002, 0x3002, 1), (0x3036, 0x3038, 2), (0x3039, 0x303a, 1), (0x309f, 0x309f, 1),
   (0x30ff, 0x30ff, 1), (0x3131, 0x318e, 1), (0x3192, 0x319f, 1), (0x3200, 0x3247, 1),
   (0x3250, 0x327e, 1), (0x3280, 0x33ff, 1), (0xa640, 0xa66c, 2), (0xa680, 0xa69c, 2),
   (0xa69d, 0xa69d, 1), (0xa722, 0xa72e, 2), (0xa732, 0xa770, 2), (0xa779, 0xa77d, 2),
   (0xa77e, 0xa786, 2), (0xa78b, 0xa78d, 2), (0xa790, 0xa792, 2), (0xa796, 0xa7aa, 2),
   (0xa7ab, 0xa7ae, 1), (0xa7b0, 0xa7b4, 1), (0xa7b6, 0xa7c4, 2), (0xa7c5, 0xa7c7, 1),
   (0xa7c9, 0xa7cb, 2), (0xa7cc, 0xa7dc, 2), (0xa7f1, 0xa7f5, 1), (0xa7f8, 0xa7f9, 1),
   (0xab5c, 0xab5f, 1), (0xab69, 0xab69, 1), (0xab70, 0xabbf, 1), (0xf900, 0xfa0d, 1),
   (0xfa10, 0xfa12, 2), (0xfa15, 0xfa1e, 1), (0xfa20, 0xfa22, 2), (0xfa25, 0xfa26, 1),
   (0xfa2a, 0xfb1d, 1), (0xfb1f, 0xfbb1, 1), (0xfbd3, 0xfd3d, 1), (0xfd50, 0xfd8f, 1),
   (0xfd92, 0xfdc7, 1), (0xfdf0, 0xfdfc, 1), (0xfe10, 0xfe18, 1), (0xfe31, 0xfe44, 1),
   (0xfe4d, 0xfe71, 1), (0xfe77, 0xffee, 1), (0x10400, 0x10427, 1), (0x104b0, 0x104d3, 1),
   (0x10570, 0x10595, 1), (0x10781, 0x107ba, 1), (0x10c80, 0x10cb2, 1), (0x10d50, 0x10d65, 1),
   (0x118a0, 0x118bf, 1), (0x16e40, 0x16e5f, 1), (0x16ea0, 0x16eb8, 1), (0x1ccd6, 0x1ccf9, 1),
   (0x1d15e, 0x1d164, 1), (0x1d1bb, 0x1d1c0, 1), (0x1d400, 0x1d7ff, 1), (0x1e030, 0x1e06d, 1),
   (0x1e900, 0x1e921, 1), (0x1ee00, 0x1eebb, 1), (0x1f101, 0x1f10a, 1), (0x1f110, 0x1f12e, 1),
   (0x1f130, 0x1f14f, 1), (0x1f16a, 0x1f16c, 1), (0x1f190, 0x1f190, 1), (0x1f200, 0x1f251, 1),
   (0x1fbf0, 0x1fbf9, 1), (0x2f800, 0x2fa1d, 1)]

def accentedLetters : List (Nat × String) :=
  [(0x300, "aeiouünеиēōwâăêôơưyἀἁἐἑἠἡἰἱὀὁὐὑὠὡαεηιουωϊϋ"),
   (0x301, "aeiouyclnrszügåæøϊαεηιϋουωгкçēïkmõōpũwâăêôơưἀἁἐἑἠἡἰἱὀὁὐὑὠὡ"),
   (0x302, "aeioucghjswyzạẹọ"), (0x303, "anoiuvâăeêôơưy"), (0x304, "aeiouüäȧæǫöõȯyиуgḷṛαιυ"),
   (0x306, "aegiouиужаеȩạαιυ"), (0x307, "cegzaobdfhmnprsśšṣtwxy𐗒𐗚"),
   (0x308, "aeiouyιυеіаәжзиоөэучыhõūwxt"), (0x309, "aâăeêioôơuưy"), (0x30a, "auwy"), (0x30b, "ouу"),
   (0x30c, "cdelnrstzaiouügkʒjh"), (0x30f, "aeioruѵ"), (0x311, "aeioru"), (0x313, "αεηιουωρ"),
   (0x314, "αεηιουωρ"), (0x31b, "ou"), (0x323, "bdhklmnrstvwzaeioơuưy"), (0x324, "u"), (0x325, "a"),
   (0x326, "st"), (0x327, "cgklnrstedh"), (0x328, "aeiuo"), (0x32d, "delntu"), (0x32e, "h"),
   (0x330, "eiu"), (0x331, "bdklnrtzh"), (0x338, "←→↔⇐⇔⇒∃∈∋∣∥∼≃≅≈=≡≍≤≥≲≳≶≷≺≻⊂⊃⊆⊇⊢⊨⊩⊫≼≽⊑⊒⊲⊳⊴⊵"),
   (0x342, "ἀἁἠἡἰἱὐὑὠὡαηιϊυϋω"), (0x653, "ا"), (0x654, "اويەہے"), (0x655, "ا"), (0x93c, "नरळ"),
   (0x102e, "ဥ"), (0x3099, "かきくけこさしすせそたちつてとはひふへほうゝカキクケコサシスセソタチツテトハヒフヘホウワヰヱヲヽ"),
   (0x309a, "はひふへほハヒフヘホ"), (0x110ba, "𑂙𑂛𑂥"), (0x113bb, "𑎄"), (0x16d67, "𖵧𖵣𖵩")]

def mergingPairs : List (Nat × Nat) :=
  [(0x9c7, 0x9be), (0x9c7, 0x9d7), (0xb47, 0xb3e), (0xb47, 0xb56), (0xb47, 0xb57), (0xbc6, 0xbbe),
   (0xbc7, 0xbbe), (0xb92, 0xbd7), (0xbc6, 0xbd7), (0xc46, 0xc56), (0xcc6, 0xcc2), (0xcbf, 0xcd5),
   (0xcc6, 0xcd5), (0xcca, 0xcd5), (0xcc6, 0xcd6), (0xd46, 0xd3e), (0xd47, 0xd3e), (0xd46, 0xd57),
   (0xdd9, 0xdca), (0xddc, 0xdca), (0xdd9, 0xdcf), (0xdd9, 0xddf), (0x1b05, 0x1b35),
   (0x1b07, 0x1b35), (0x1b09, 0x1b35), (0x1b0b, 0x1b35), (0x1b0d, 0x1b35), (0x1b11, 0x1b35),
   (0x1b3a, 0x1b35), (0x1b3c, 0x1b35), (0x1b3e, 0x1b35), (0x1b3f, 0x1b35), (0x1b42, 0x1b35),
   (0x11131, 0x11127), (0x11132, 0x11127), (0x11347, 0x1133e), (0x11347, 0x11357),
   (0x113c2, 0x113b8), (0x1138b, 0x113c2), (0x113c2, 0x113c2), (0x11382, 0x113c9),
   (0x11390, 0x113c9), (0x113c2, 0x113c9), (0x114b9, 0x114b0), (0x114b9, 0x114ba),
   (0x114b9, 0x114bd), (0x115b8, 0x115af), (0x115b9, 0x115af), (0x11935, 0x11930),
   (0x1611e, 0x1611e), (0x1611e, 0x1611f), (0x16129, 0x1611f), (0x16121, 0x1611f),
   (0x16122, 0x1611f), (0x1611e, 0x16120), (0x16121, 0x16120), (0x1611e, 0x16129)]

def isForm (character : Char) : Bool :=
  formRuns.any fun (first, last, way) =>
    first ≤ character.toNat && character.toNat ≤ last && (character.toNat - first) % way == 0

def merge (first second : Char) : Bool :=
  mergingPairs.contains (first.toNat, second.toNat)
    || accentedLetters.any fun (mark, letters) =>
      mark == second.toNat && letters.toList.contains first

def isPlain (character : Char) : Bool :=
  character.toNat < 0x80
    || (!isTraceless character && !isRefused character && !isForm character)

/-- Whether a text has a character for each of its signs, and each stands for itself. -/
def areAllPlain : List Char → Bool
  | first :: second :: rest =>
    isPlain first && !merge first second && areAllPlain (second :: rest)
  | [last] => isPlain last
  | [] => true

end ScenarioBench.Http.Name
