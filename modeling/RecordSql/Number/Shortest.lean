import RecordSql.Number.Binary

/-! # Shortest decimals

Among the decimals that are read back as a binary number, the coarsest power of ten that has one is
taken, and on it the decimal nearest to the number; of two that are equally near, the larger.
-/

namespace RecordSql.Number

/-- The decimal `digits * 10 ^ scale`. -/
structure Decimal where
  digits : Nat
  scale : Int

/-- The numbers that round to `m * 2 ^ q`, with their ends when `m` is even; all in units of
`2 ^ (q - 2)`. -/
structure Basin where
  low : Nat
  value : Nat
  high : Nat
  closed : Bool
  unit : Int

/-- The basin of a number; below a power of two the numbers of a format are half as far apart. -/
def Basin.of (f : BinaryFormat) (m : Nat) (q : Int) : Basin where
  low := 4 * m - if m = exp2 f.fractionBits && f.least < q then 1 else 2
  value := 4 * m
  high := 4 * m + 2
  closed := m % 2 = 0
  unit := q - 2

namespace Basin

/-- The factors that put decimals of a scale and the units of a basin on one scale. -/
def factors (b : Basin) (scale : Int) : Nat × Nat :=
  (Nat.pow 10 scale.toNat * exp2 (-b.unit).toNat, Nat.pow 10 (-scale).toNat * exp2 b.unit.toNat)

def holds (b : Basin) (scale : Int) (digits : Nat) : Bool :=
  let (p, u) := b.factors scale
  if b.closed then b.low * u ≤ digits * p && digits * p ≤ b.high * u
  else b.low * u < digits * p && digits * p < b.high * u

/-- The decimal of a scale that lies in the basin and is nearest to its value. -/
def hit? (b : Basin) (scale : Int) : Option Nat :=
  let (p, u) := b.factors scale
  let t := b.value * u / p
  let lower := 0 < t && b.holds scale t
  let upper := b.holds scale (t + 1)
  if lower && (!upper || 2 * (b.value * u - t * p) < p) then some t
  else if upper then some (t + 1)
  else none

def search (b : Basin) : Nat → Int → Decimal
  | 0, scale => ⟨(b.hit? scale).getD 0, scale⟩
  | fuel + 1, scale =>
    match b.hit? scale with
    | some digits => ⟨digits, scale⟩
    | none => b.search fuel (scale - 1)

end Basin

def shortest (f : BinaryFormat) (m : Nat) (q : Int) : Decimal :=
  (Basin.of f m q).search 40 ((m.log2 + 1 + q) * 30103 / 100000 + 2)

namespace Decimal

def leading (d : Decimal) : Int :=
  d.scale + d.digits.repr.length - 1

def positional (d : Decimal) : String :=
  let digits := Nat.repr d.digits
  let places := (-d.scale).toNat
  if places = 0 then digits ++ String.ofList (List.replicate d.scale.toNat '0')
  else if places < digits.length then
    String.ofList (digits.toList.take (digits.length - places) ++
      '.' :: digits.toList.drop (digits.length - places))
  else "0." ++ String.ofList (List.replicate (places - digits.length) '0') ++ digits

def scientific (d : Decimal) : String :=
  let digits := (Nat.repr d.digits).toList
  let mantissa := if digits.length = 1 then digits else digits.take 1 ++ '.' :: digits.drop 1
  String.ofList mantissa ++ "e" ++ toString d.leading

end Decimal

def signText (negative : Bool) : String :=
  if negative then "-" else ""

namespace Double

def text (x : Double) : String :=
  match x.content with
  | .undefined => "NaN"
  | .infinite negative => signText negative ++ "inf"
  | .finite negative m q =>
    signText negative ++
      if m = 0 then "0" else (shortest BinaryFormat.double m q).positional

/-- The text of a number in a log line: with an exponent from `10 ^ 16` on and below `10 ^ -4`,
otherwise positional with at least one digit after the point. -/
def quoted (x : Double) : String :=
  match x.content with
  | .undefined => "NaN"
  | .infinite negative => signText negative ++ "inf"
  | .finite negative m q =>
    signText negative ++
      if m = 0 then "0.0"
      else
        let d := shortest BinaryFormat.double m q
        if 16 ≤ d.leading || d.leading < -4 then d.scientific
        else if 0 ≤ d.scale then d.positional ++ ".0"
        else d.positional

end Double

end RecordSql.Number
