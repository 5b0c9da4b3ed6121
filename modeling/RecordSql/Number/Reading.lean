import RecordSql.Number.Binary
import RecordSql.Number.Numeral

/-! # Reading binary numbers

A text of a number is a sign, digits with an optional point among or around them, and an exponent;
or a sign and the word `inf`, `infinity` or `nan` in letters of any case. It is read as the nearest
number of the format.
-/

namespace RecordSql.Number

def spanDigits (s : List Char) : List Char × List Char :=
  s.span Char.isDigit

def digitsValue (s : List Char) : Nat :=
  (readDigitsFrom 0 s).getD 0

def readSign : List Char → Bool × List Char
  | '-' :: s => (true, s)
  | '+' :: s => (false, s)
  | s => (false, s)

/-- Read the exponent at the end of a number; no text is the exponent zero. -/
def readExponent? : List Char → Option Int
  | [] => some 0
  | c :: s =>
    if c = 'e' || c = 'E' then
      let (negative, s) := readSign s
      (readDigits? s).map fun n => if negative then -(n : Int) else n
    else none

/-- Read digits with a point and an exponent, as an integer times a power of ten. -/
def readDecimal? (s : List Char) : Option (Nat × Int) :=
  let (whole, s) := spanDigits s
  let (part, s) := match s with
    | '.' :: s => spanDigits s
    | s => ([], s)
  if whole.isEmpty && part.isEmpty then none
  else (readExponent? s).map fun e => (digitsValue (whole ++ part), e - part.length)

def BinaryFormat.nearestDecimal (f : BinaryFormat) (digits : Nat) (scale : Int) : Nat :=
  let size := scale + digits.repr.length
  if digits = 0 || size < -400 then 0
  else if 400 < size then f.infinity
  else f.nearest (digits * Nat.pow 10 scale.toNat) (Nat.pow 10 (-scale).toNat)

def BinaryFormat.read? (f : BinaryFormat) (s : String) : Option Nat :=
  let (negative, s) := readSign s.toList
  let word := String.ofList (s.map Char.toLower)
  if word = "inf" || word = "infinity" then some (f.encode (.infinite negative))
  else if word = "nan" then some (f.signBits negative + f.encode .undefined)
  else (readDecimal? s).map fun (digits, scale) =>
    f.signBits negative + f.nearestDecimal digits scale

def Double.read? (s : String) : Option Double :=
  (BinaryFormat.double.read? s).map Double.ofBits

def Single.read? (s : String) : Option Single :=
  (BinaryFormat.single.read? s).map Single.ofBits

end RecordSql.Number
