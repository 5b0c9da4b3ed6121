/-! # Binary floating point numbers

A number of a binary format is kept as its bits. Its content is a sign with an integer times a power
of two, an infinity, or no number; any positive quotient is rounded to the nearest number of a
format, and a quotient halfway between two goes to the even one.
-/

namespace RecordSql.Number

structure BinaryFormat where
  fractionBits : Nat
  exponentBits : Nat

/-- What the bits of a number stand for; a finite number is `m * 2 ^ q`. -/
inductive Content
  | undefined
  | infinite (negative : Bool)
  | finite (negative : Bool) (m : Nat) (q : Int)

def exp2 (k : Nat) : Nat :=
  Nat.pow 2 k

/-- The nearest integer to a quotient, the even one of two that are equally near. -/
def roundQuotient (num den : Nat) : Nat :=
  let t := num / den
  let r := num % den
  if 2 * r < den then t
  else if den < 2 * r then t + 1
  else if t % 2 = 0 then t else t + 1

namespace BinaryFormat
variable (f : BinaryFormat)

def double : BinaryFormat := ⟨52, 11⟩

def single : BinaryFormat := ⟨23, 8⟩

/-- The power of two that the smallest positive number stands for. -/
def least : Int :=
  2 - exp2 (f.exponentBits - 1) - f.fractionBits

def infinity : Nat :=
  (exp2 f.exponentBits - 1) * exp2 f.fractionBits

def signWeight : Nat :=
  exp2 (f.exponentBits + f.fractionBits)

def content (bits : Nat) : Content :=
  let negative := f.signWeight ≤ bits
  let size := bits % f.signWeight
  if f.infinity < size then .undefined
  else if size = f.infinity then .infinite negative
  else
    let fraction := size % exp2 f.fractionBits
    let field := size / exp2 f.fractionBits
    if field = 0 then .finite negative fraction f.least
    else .finite negative (exp2 f.fractionBits + fraction) (f.least + (field - 1 : Nat))

def signBits (negative : Bool) : Nat :=
  if negative then f.signWeight else 0

/-- The bits of the number nearest to the positive quotient `num / den`. -/
def nearest (num den : Nat) : Nat :=
  let guess : Int := num.log2 - den.log2 - f.fractionBits - 1
  let below := num * exp2 (-guess).toNat < den * exp2 (guess.toNat + f.fractionBits + 1)
  let q := max (if below then guess else guess + 1) f.least
  let m := roundQuotient (num * exp2 (-q).toNat) (den * exp2 q.toNat)
  min ((q - f.least).toNat * exp2 f.fractionBits + m) f.infinity

def encode : Content → Nat
  | .undefined => f.infinity + exp2 (f.fractionBits - 1)
  | .infinite negative => f.signBits negative + f.infinity
  | .finite negative m q =>
    f.signBits negative + if m = 0 then 0 else f.nearest (m * exp2 q.toNat) (exp2 (-q).toNat)

end BinaryFormat

structure Double where
  bits : UInt64
  deriving DecidableEq

structure Single where
  bits : UInt32
  deriving DecidableEq

namespace Double

def content (x : Double) : Content :=
  BinaryFormat.double.content x.bits.toNat

def ofBits (bits : Nat) : Double :=
  ⟨UInt64.ofNat bits⟩

end Double

namespace Single

def content (x : Single) : Content :=
  BinaryFormat.single.content x.bits.toNat

def ofBits (bits : Nat) : Single :=
  ⟨UInt32.ofNat bits⟩

def toDouble (x : Single) : Double :=
  Double.ofBits (BinaryFormat.double.encode x.content)

end Single

end RecordSql.Number
