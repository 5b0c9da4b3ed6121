import RecordSql.Text.Utf8

/-! # Percent encoding

Characters that cannot stand in a part of a url are spelled by their bytes, each as a percent sign
with two digits of base 16.
-/

namespace RecordSql.Url

def hexValue? (c : Char) : Option Nat :=
  if c.isDigit then some (c.toNat - '0'.toNat)
  else if 'a' ≤ c && c ≤ 'f' then some (c.toNat - 'a'.toNat + 10)
  else if 'A' ≤ c && c ≤ 'F' then some (c.toNat - 'A'.toNat + 10)
  else none

def encodeByte (b : UInt8) : List Char :=
  ['%', (Nat.digitChar (b.toNat / 16)).toUpper, (Nat.digitChar (b.toNat % 16)).toUpper]

/-- Spell the characters that `p` singles out by their bytes. -/
def encode (p : Char → Bool) (s : List Char) : List Char :=
  s.flatMap fun c => if p c then (Text.utf8 (String.ofList [c])).flatMap encodeByte else [c]

def decode : List Char → List UInt8
  | [] => []
  | '%' :: a :: b :: s =>
    match hexValue? a, hexValue? b with
    | some m, some n => UInt8.ofNat (m * 16 + n) :: decode s
    | _, _ => 37 :: decode (a :: b :: s)
  | c :: s => Text.utf8 (String.ofList [c]) ++ decode s

/-- Decide whether a character is a control or lies outside the first 127. -/
def isControl (c : Char) : Bool :=
  c.toNat < 32 || 126 < c.toNat

def isSpelledInPath (c : Char) : Bool :=
  isControl c || c ∈ [' ', '"', '<', '>', '`', '#', '?', '\x7b', '\x7d']

end RecordSql.Url
