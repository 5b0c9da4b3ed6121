import RecordSql.Url.Domain.Mapping.Block

/-! # Letters

Letters and symbols that a domain holds other letters for: raised and lowered letters, fractions,
numbers in circles and precomposed letters.
-/

namespace RecordSql.Url.Domain

def letters : List Block :=
  [⟨0xAA, 0xAA, "a"⟩, ⟨0xB2, 0xB3, "2 3"⟩, ⟨0xB5, 0xB5, "μ"⟩, ⟨0xB9, 0xBA, "1 o"⟩,
   ⟨0xBC, 0xBE, "1⁄4 1⁄2 3⁄4"⟩, ⟨0x132, 0x133, "ij ij"⟩, ⟨0x13F, 0x140, "l· l·"⟩,
   ⟨0x149, 0x149, "ʼn"⟩, ⟨0x17F, 0x17F, "s"⟩, ⟨0x1C4, 0x1CC, "dž dž dž lj lj lj nj nj nj"⟩,
   ⟨0x1F1, 0x1F3, "dz dz dz"⟩, ⟨0x2B0, 0x2B8, "h ɦ j r ɹ ɻ ʁ w y"⟩, ⟨0x2E0, 0x2E4, "ɣ l s x ʕ"⟩,
   ⟨0x340, 0x341, "\u0300 \u0301"⟩, ⟨0x343, 0x345, "\u0313 \u0308\u0301 ι"⟩, ⟨0x374, 0x374, "ʹ"⟩,
   ⟨0x37E, 0x37E, ";"⟩, ⟨0x387, 0x387, "·"⟩, ⟨0x3D0, 0x3D6, "β θ υ ύ ϋ φ π"⟩,
   ⟨0x3F0, 0x3F2, "κ ρ σ"⟩, ⟨0x3F5, 0x3F5, "ε"⟩, ⟨0x3F9, 0x3F9, "σ"⟩, ⟨0x587, 0x587, "եւ"⟩,
   ⟨0x675, 0x678, "\u0627\u0674 \u0648\u0674 \u06c7\u0674 \u064a\u0674"⟩,
   ⟨0x958, 0x95F, "क\u093c ख\u093c ग\u093c ज\u093c ड\u093c ढ\u093c फ\u093c य\u093c"⟩,
   ⟨0x9DC, 0x9DD, "ড\u09bc ঢ\u09bc"⟩, ⟨0x9DF, 0x9DF, "য\u09bc"⟩, ⟨0xA33, 0xA33, "ਲ\u0a3c"⟩,
   ⟨0xA36, 0xA36, "ਸ\u0a3c"⟩, ⟨0xA59, 0xA5B, "ਖ\u0a3c ਗ\u0a3c ਜ\u0a3c"⟩, ⟨0xA5E, 0xA5E, "ਫ\u0a3c"⟩,
   ⟨0xB5C, 0xB5D, "ଡ\u0b3c ଢ\u0b3c"⟩, ⟨0xE33, 0xE33, "\u0e4dา"⟩, ⟨0xEB3, 0xEB3, "\u0ecdາ"⟩,
   ⟨0xEDC, 0xEDD, "ຫນ ຫມ"⟩, ⟨0xF0C, 0xF0C, "་"⟩, ⟨0xF43, 0xF43, "ག\u0fb7"⟩,
   ⟨0xF4D, 0xF4D, "ཌ\u0fb7"⟩, ⟨0xF52, 0xF52, "ད\u0fb7"⟩, ⟨0xF57, 0xF57, "བ\u0fb7"⟩,
   ⟨0xF5C, 0xF5C, "ཛ\u0fb7"⟩, ⟨0xF69, 0xF69, "ཀ\u0fb5"⟩, ⟨0xF73, 0xF73, "\u0f71\u0f72"⟩,
   ⟨0xF75, 0xF78, "\u0f71\u0f74 \u0fb2\u0f80 \u0fb2\u0f71\u0f80 \u0fb3\u0f80"⟩,
   ⟨0xF79, 0xF79, "\u0fb3\u0f71\u0f80"⟩, ⟨0xF81, 0xF81, "\u0f71\u0f80"⟩,
   ⟨0xF93, 0xF93, "\u0f92\u0fb7"⟩, ⟨0xF9D, 0xF9D, "\u0f9c\u0fb7"⟩, ⟨0xFA2, 0xFA2, "\u0fa1\u0fb7"⟩,
   ⟨0xFA7, 0xFA7, "\u0fa6\u0fb7"⟩, ⟨0xFAC, 0xFAC, "\u0fab\u0fb7"⟩, ⟨0xFB9, 0xFB9, "\u0f90\u0fb5"⟩,
   ⟨0x10FC, 0x10FC, "ნ"⟩, ⟨0x13F8, 0x13FD, "Ᏸ Ᏹ Ᏺ Ᏻ Ᏼ Ᏽ"⟩, ⟨0x1C80, 0x1C88, "в д о с т т ъ ѣ ꙋ"⟩,
   ⟨0x1D2C, 0x1D2E, "a æ b"⟩, ⟨0x1D30, 0x1D3A, "d e ǝ g h i j k l m n"⟩,
   ⟨0x1D3C, 0x1D4D, "o ȣ p r t u w a ɐ ɑ ᴂ b d e ə ɛ ɜ g"⟩,
   ⟨0x1D4F, 0x1D6A, "k m ŋ o ɔ ᴖ ᴗ p t u ᴝ ɯ v ᴥ β γ δ φ χ i r u v β γ ρ φ χ"⟩,
   ⟨0x1D78, 0x1D78, "н"⟩,
   ⟨0x1D9B, 0x1DBB, "ɒ c ɕ ð ɜ f ɟ ɡ ɥ ɨ ɩ ɪ ᵻ ʝ ɭ ᶅ ʟ ɱ ɰ ɲ ɳ ɴ ɵ ɸ ʂ ʃ ƫ ʉ ʊ ᴜ ʋ ʌ z"⟩,
   ⟨0x1DBC, 0x1DBF, "ʐ ʑ ʒ θ"⟩, ⟨0x1E9A, 0x1E9B, "aʾ ṡ"⟩, ⟨0x1F71, 0x1F71, "ά"⟩,
   ⟨0x1F73, 0x1F73, "έ"⟩, ⟨0x1F75, 0x1F75, "ή"⟩, ⟨0x1F77, 0x1F77, "ί"⟩, ⟨0x1F79, 0x1F79, "ό"⟩,
   ⟨0x1F7B, 0x1F7B, "ύ"⟩, ⟨0x1F7D, 0x1F7D, "ώ"⟩,
   ⟨0x1F80, 0x1F95, "ἀι ἁι ἂι ἃι ἄι ἅι ἆι ἇι ἀι ἁι ἂι ἃι ἄι ἅι ἆι ἇι ἠι ἡι ἢι ἣι ἤι ἥι"⟩,
   ⟨0x1F96, 0x1FAB, "ἦι ἧι ἠι ἡι ἢι ἣι ἤι ἥι ἦι ἧι ὠι ὡι ὢι ὣι ὤι ὥι ὦι ὧι ὠι ὡι ὢι ὣι"⟩,
   ⟨0x1FAC, 0x1FAF, "ὤι ὥι ὦι ὧι"⟩, ⟨0x1FB2, 0x1FB4, "ὰι αι άι"⟩, ⟨0x1FB7, 0x1FB7, "ᾶι"⟩,
   ⟨0x1FBB, 0x1FBC, "ά αι"⟩, ⟨0x1FBE, 0x1FBE, "ι"⟩, ⟨0x1FC2, 0x1FC4, "ὴι ηι ήι"⟩,
   ⟨0x1FC7, 0x1FC7, "ῆι"⟩, ⟨0x1FC9, 0x1FC9, "έ"⟩, ⟨0x1FCB, 0x1FCC, "ή ηι"⟩, ⟨0x1FD3, 0x1FD3, "ΐ"⟩,
   ⟨0x1FDB, 0x1FDB, "ί"⟩, ⟨0x1FE3, 0x1FE3, "ΰ"⟩, ⟨0x1FEB, 0x1FEB, "ύ"⟩, ⟨0x1FEF, 0x1FEF, "\x60"⟩,
   ⟨0x1FF2, 0x1FF4, "ὼι ωι ώι"⟩, ⟨0x1FF7, 0x1FF7, "ῶι"⟩, ⟨0x1FF9, 0x1FF9, "ό"⟩,
   ⟨0x1FFB, 0x1FFC, "ώ ωι"⟩, ⟨0x2011, 0x2011, "‐"⟩, ⟨0x2033, 0x2034, "′′ ′′′"⟩,
   ⟨0x2036, 0x2037, "‵‵ ‵‵‵"⟩, ⟨0x203C, 0x203C, "!!"⟩, ⟨0x2047, 0x2049, "?? ?! !?"⟩,
   ⟨0x2057, 0x2057, "′′′′"⟩, ⟨0x2070, 0x2071, "0 i"⟩,
   ⟨0x2074, 0x208E, "4 5 6 7 8 9 + − = ( ) n 0 1 2 3 4 5 6 7 8 9 + − = ( )"⟩,
   ⟨0x2090, 0x209C, "a e o x ə h k l m n p s t"⟩, ⟨0x20A8, 0x20A8, "rs"⟩,
   ⟨0x2100, 0x2103, "a/c a/s c °c"⟩, ⟨0x2105, 0x2107, "c/o c/u ɛ"⟩,
   ⟨0x2109, 0x2113, "°f g h h h h ħ i i l l"⟩, ⟨0x2115, 0x2116, "n no"⟩,
   ⟨0x2119, 0x211D, "p q r r r"⟩, ⟨0x2120, 0x2122, "sm tel tm"⟩, ⟨0x2124, 0x2124, "z"⟩,
   ⟨0x2128, 0x2128, "z"⟩, ⟨0x212C, 0x212D, "b c"⟩, ⟨0x212F, 0x2131, "e e f"⟩,
   ⟨0x2133, 0x2139, "m o \u05d0 \u05d1 \u05d2 \u05d3 i"⟩, ⟨0x213B, 0x2140, "fax π γ γ π ∑"⟩,
   ⟨0x2145, 0x2149, "d d e i j"⟩,
   ⟨0x2150, 0x2160, "1⁄7 1⁄9 1⁄10 1⁄3 2⁄3 1⁄5 2⁄5 3⁄5 4⁄5 1⁄6 5⁄6 1⁄8 3⁄8 5⁄8 7⁄8 1⁄ i"⟩,
   ⟨0x2161, 0x2176, "ii iii iv v vi vii viii ix x xi xii l c d m i ii iii iv v vi vii"⟩,
   ⟨0x2177, 0x217F, "viii ix x xi xii l c d m"⟩, ⟨0x2189, 0x2189, "0⁄3"⟩,
   ⟨0x222C, 0x222D, "∫∫ ∫∫∫"⟩, ⟨0x222F, 0x2230, "∮∮ ∮∮∮"⟩, ⟨0x2329, 0x232A, "〈 〉"⟩,
   ⟨0x2460, 0x2477, "1 2 3 4 5 6 7 8 9 10 11 12 13 14 15 16 17 18 19 20 (1) (2) (3) (4)"⟩,
   ⟨0x2478, 0x2485, "(5) (6) (7) (8) (9) (10) (11) (12) (13) (14) (15) (16) (17) (18)"⟩,
   ⟨0x2486, 0x2487, "(19) (20)"⟩,
   ⟨0x249C, 0x24AB, "(a) (b) (c) (d) (e) (f) (g) (h) (i) (j) (k) (l) (m) (n) (o) (p)"⟩,
   ⟨0x24AC, 0x24C2, "(q) (r) (s) (t) (u) (v) (w) (x) (y) (z) a b c d e f g h i j k l m"⟩,
   ⟨0x24C3, 0x24E3, "n o p q r s t u v w x y z a b c d e f g h i j k l m n o p q r s t"⟩,
   ⟨0x24E4, 0x24EA, "u v w x y z 0"⟩, ⟨0x2A0C, 0x2A0C, "∫∫∫∫"⟩, ⟨0x2A74, 0x2A76, "::= == ==="⟩,
   ⟨0x2ADC, 0x2ADC, "⫝\u0338"⟩, ⟨0x2C7C, 0x2C7D, "j v"⟩, ⟨0x2D6F, 0x2D6F, "ⵡ"⟩,
   ⟨0xA69C, 0xA69D, "ъ ь"⟩, ⟨0xA770, 0xA770, "ꝯ"⟩, ⟨0xA7F1, 0xA7F4, "s c f q"⟩,
   ⟨0xA7F8, 0xA7F9, "ħ œ"⟩, ⟨0xAB5C, 0xAB5F, "ꜧ ꬷ ɫ ꭒ"⟩, ⟨0xAB69, 0xAB69, "ʍ"⟩,
   ⟨0xAB70, 0xAB90, "Ꭰ Ꭱ Ꭲ Ꭳ Ꭴ Ꭵ Ꭶ Ꭷ Ꭸ Ꭹ Ꭺ Ꭻ Ꭼ Ꭽ Ꭾ Ꭿ Ꮀ Ꮁ Ꮂ Ꮃ Ꮄ Ꮅ Ꮆ Ꮇ Ꮈ Ꮉ Ꮊ Ꮋ Ꮌ Ꮍ Ꮎ Ꮏ Ꮐ"⟩,
   ⟨0xAB91, 0xABB1, "Ꮑ Ꮒ Ꮓ Ꮔ Ꮕ Ꮖ Ꮗ Ꮘ Ꮙ Ꮚ Ꮛ Ꮜ Ꮝ Ꮞ Ꮟ Ꮠ Ꮡ Ꮢ Ꮣ Ꮤ Ꮥ Ꮦ Ꮧ Ꮨ Ꮩ Ꮪ Ꮫ Ꮬ Ꮭ Ꮮ Ꮯ Ꮰ Ꮱ"⟩,
   ⟨0xABB2, 0xABBF, "Ꮲ Ꮳ Ꮴ Ꮵ Ꮶ Ꮷ Ꮸ Ꮹ Ꮺ Ꮻ Ꮼ Ꮽ Ꮾ Ꮿ"⟩]

end RecordSql.Url.Domain
