import RecordSql.Text.Letters
import RecordSql.Text.Printable
import RecordSql.Url.Domain.Mapping.Alphabets
import RecordSql.Url.Domain.Mapping.Forms
import RecordSql.Url.Domain.Mapping.Ideographs
import RecordSql.Url.Domain.Mapping.Letters

/-! # Characters of domains

A domain has one spelling: capitals stand for small letters, variants of letters for the letters
themselves, and some characters for nothing. What has no picture is in no domain.
-/

namespace RecordSql.Url.Domain
open Text

/-- The ranges of characters that stand for nothing. -/
def ignoredRanges : List (Nat × Nat) :=
  [(0xAD, 0xAD), (0x34F, 0x34F), (0x115F, 0x1160), (0x17B4, 0x17B5), (0x180B, 0x180F),
   (0x200B, 0x200B), (0x2060, 0x2064), (0x206A, 0x206F), (0x3164, 0x3164), (0xFE00, 0xFE0F),
   (0xFEFF, 0xFEFF), (0xFFA0, 0xFFA0), (0x1BCA0, 0x1BCA3), (0x1D173, 0x1D17A), (0xE0100, 0xE01EF)]

/-- The ranges of characters with a picture that are in no domain: marks on a blank, points and
frames that could be taken for parts of a url, and signs that describe other characters. -/
def refusedRanges : List (Nat × Nat) :=
  [(0xA8, 0xA8), (0xAF, 0xAF), (0xB4, 0xB4), (0xB8, 0xB8), (0x2D8, 0x2DD), (0x37A, 0x37A),
   (0x384, 0x385), (0x1FBD, 0x1FBD), (0x1FBF, 0x1FC1), (0x1FCD, 0x1FCF), (0x1FDD, 0x1FDF),
   (0x1FED, 0x1FEE), (0x1FFD, 0x1FFE), (0x2017, 0x2017), (0x2024, 0x2026), (0x203E, 0x203E),
   (0x2488, 0x249B), (0x2FF0, 0x2FFF), (0x309B, 0x309C), (0x31EF, 0x31EF), (0x33C2, 0x33C2),
   (0x33C7, 0x33C7), (0x33D8, 0x33D8), (0xFC5E, 0xFC63), (0xFDFA, 0xFDFB), (0xFE12, 0xFE12),
   (0xFE19, 0xFE19), (0xFE30, 0xFE30), (0xFE49, 0xFE4C), (0xFE52, 0xFE52), (0xFE70, 0xFE70),
   (0xFE72, 0xFE72), (0xFE74, 0xFE74), (0xFE76, 0xFE76), (0xFE78, 0xFE78), (0xFE7A, 0xFE7A),
   (0xFE7C, 0xFE7C), (0xFE7E, 0xFE7E), (0xFFE3, 0xFFE3), (0xFFFC, 0xFFFD), (0x1F100, 0x1F100)]

/-- The ranges of characters that domains hold although a quoted text does not know them and spells
them by number. -/
def addedRanges : List (Nat × Nat) :=
  [(0x558, 0x558), (0x58B, 0x58C), (0x5C8, 0x5C8), (0xB53, 0xB54), (0x1ADE, 0x1ADE),
   (0x1AEC, 0x1AEC), (0x208F, 0x208F), (0x20C2, 0x20C4), (0x2E5E, 0x2E63), (0xA7DD, 0xA7E2),
   (0x107BB, 0x107BB), (0x10EC8, 0x10EC9), (0x10EF0, 0x10EF9), (0x11DF0, 0x11DF0),
   (0x12475, 0x12475), (0x12550, 0x12686), (0x18E00, 0x191D2), (0x1CEF1, 0x1CEF1),
   (0x1D1EB, 0x1D1FF), (0x1DB00, 0x1DB00), (0x1DF2B, 0x1DFCD), (0x1F1AE, 0x1F1AE),
   (0x1F6D9, 0x1F6D9), (0x1F7DA, 0x1F7DA), (0x1FA8B, 0x1FA8D), (0x1FACB, 0x1FACB),
   (0x1FADD, 0x1FADD), (0x1FAEB, 0x1FAEB), (0x1FAF9, 0x1FAFA), (0x3D000, 0x3FC3F)]

def isJoiner (c : Char) : Bool :=
  c = '\u200c' || c = '\u200d'

/-- What a domain holds for a character, unless no domain holds it. The capitals of Cherokee stand
for themselves. -/
def map? (c : Char) : Option (List Char) :=
  if c.toNat < 128 then some [c.toLower]
  else if isJoiner c then some [c]
  else if inRanges ignoredRanges c then some []
  else match [letters, ideographs, forms, alphabets].findSome? (mapped? · c) with
    | some s => some s
    | none =>
      if inRanges addedRanges c then some [c]
      else if inRanges refusedRanges c || inRanges unprintableRanges c then none
      else some (if 0x13A0 ≤ c.toNat && c.toNat ≤ 0x13F5 then [c] else lowerOf c)

end RecordSql.Url.Domain
