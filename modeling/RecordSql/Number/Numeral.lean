/-! # Decimal numerals

A numeral is one or more of the digits `0` to `9`, with an optional plus sign in front.
-/

namespace RecordSql.Number

/-- Read digits after the digits that make up `n`. -/
def readDigitsFrom (n : Nat) : List Char → Option Nat
  | [] => some n
  | c :: s => if c.isDigit then readDigitsFrom (n * 10 + (c.toNat - '0'.toNat)) s else none

def readDigits? : List Char → Option Nat
  | [] => none
  | s => readDigitsFrom 0 s

def readNumeral? : List Char → Option Nat
  | '+' :: s => readDigits? s
  | s => readDigits? s

def readBelow? (bound : Nat) (s : String) : Option Nat :=
  (readNumeral? s.toList).filter (· < bound)

def readUInt32? (s : String) : Option UInt32 :=
  (readBelow? UInt32.size s).map UInt32.ofNat

def readUInt64? (s : String) : Option UInt64 :=
  (readBelow? UInt64.size s).map UInt64.ofNat

def padded (width n : Nat) : String :=
  let digits := Nat.repr n
  String.ofList (List.replicate (width - digits.length) '0') ++ digits

end RecordSql.Number
