import RecordSql.Failure
import RecordSql.Row

/-! # Values of MySQL

The values that a MySQL server exchanges, and how values are turned into them and back. Bytes that
are text are read as text, and a span of time is read as the text of its hours, minutes and seconds.
-/

namespace RecordSql.MySql

/-- A value of the server; `time` is a span with a sign, `date` a day with a time of day. -/
inductive Datum
  | null
  | bytes (b : List UInt8)
  | int (n : Int64)
  | uint (n : UInt64)
  | float (x : Number.Single)
  | double (x : Number.Double)
  | date (year month day hour minute second microsecond : Nat)
  | time (negative : Bool) (days : UInt32) (hours minutes seconds : UInt8) (microseconds : UInt32)
  deriving DecidableEq

def timestamp? (year month day hour minute second microsecond : Nat) : Option Timestamp := do
  let date ← Date.of? year month day
  let time ← TimeOfDay.of? hour minute second (microsecond * 1000)
  return ⟨date, time⟩

/-- Write a span of time with all its hours, which wrap around as numbers of 32 bits do. -/
def spanText (negative : Bool) (days : UInt32) (hours minutes seconds : UInt8)
    (microseconds : UInt32) : String :=
  (if negative then "-" else "") ++ Number.padded 2 (days * 24 + hours.toUInt32).toNat ++ ":" ++
    Number.padded 2 minutes.toNat ++ ":" ++ Number.padded 2 seconds.toNat ++ "." ++
    Number.padded 6 microseconds.toNat

namespace Datum

/-- The value that the server means, unless it means no day of the calendar or no time of day. -/
def toValue? : Datum → Option Value
  | null => some .null
  | bytes b =>
    match Text.ofUtf8? b with
    | some s => some (.text s)
    | none => some (.blob b)
  | int n => some (.int n)
  | uint n => some (.uint n)
  | float x => some (.float x.toDouble)
  | double x => some (.float x)
  | date year month day hour minute second microsecond =>
    (timestamp? year month day hour minute second microsecond).map .timestamp
  | time negative days hours minutes seconds microseconds =>
    some (.text (spanText negative days hours minutes seconds microseconds))

def ofValue : Value → Except Failure Datum
  | .null => .ok null
  | .bool b => .ok (int (if b then 1 else 0))
  | .int n => .ok (int n)
  | .uint n => .ok (uint n)
  | .float x => .ok (double x)
  | .text s => .ok (bytes (Text.utf8 s))
  | .blob b => .ok (bytes b)
  | .timestamp t =>
    if t.date.year < 0 then .error (.of (.yearOutOfRange t))
    else .ok (date t.date.year.toNat t.date.month t.date.day t.time.hour t.time.minute
      t.time.second (t.time.nanosecond / 1000))

/-- The value of a cell of a row; a cell whose value was already taken out of it is null. -/
def ofCell? : Option Datum → Option Value
  | some value => value.toValue?
  | none => some .null

end Datum

def rowOf? (labels : List (List UInt8)) (cells : List (Option Datum)) : Option Row :=
  (cells.mapM Datum.ofCell?).map fun values => ⟨labels.map Text.lossy, values⟩

end RecordSql.MySql
