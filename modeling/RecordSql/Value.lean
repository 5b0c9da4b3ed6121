import RecordSql.Calendar
import RecordSql.Number.Reading
import RecordSql.Number.Shortest
import RecordSql.Text.Blank
import RecordSql.Text.Quoted
import RecordSql.Text.Utf8

/-! # Values

A value is bound to a parameter of a statement or read from a cell of a row.
-/

namespace RecordSql

inductive Value
  | null
  | bool (b : Bool)
  | int (n : Int64)
  | uint (n : UInt64)
  | float (x : Number.Double)
  | text (s : String)
  | blob (bytes : List UInt8)
  | timestamp (t : Timestamp)
  deriving DecidableEq

namespace Value

def isNull : Value → Bool
  | null => true
  | _ => false

def string? : Value → Option String
  | text s => some s
  | blob bytes => Text.ofUtf8? bytes
  | _ => none

def written? : Value → Option String
  | null => none
  | bool b => some (if b then "true" else "false")
  | int n => some (toString n.toInt)
  | uint n => some (Nat.repr n.toNat)
  | float x => some x.text
  | text s => some s
  | blob bytes => some (Text.lossy bytes)
  | timestamp t => some t.text

/-- The number from 0 up that a value holds as a number or as a numeral. -/
def count? : Value → Option UInt64
  | int n => if 0 ≤ n.toInt then some n.toUInt64 else none
  | uint n => some n
  | v => v.string?.bind fun s => Number.readUInt64? (Text.trim s)

def display (v : Value) : String :=
  v.written?.getD "NULL"

def logged : Value → String
  | null => "Null"
  | bool b => "Boolean(" ++ (if b then "true" else "false") ++ ")"
  | int n => "Int(" ++ toString n.toInt ++ ")"
  | uint n => "UInt(" ++ Nat.repr n.toNat ++ ")"
  | float x => "Float(" ++ x.quoted ++ ")"
  | text s => "Varchar(" ++ Text.quoted s ++ ")"
  | blob bytes =>
    "Blob([" ++ ", ".intercalate (bytes.map fun b => Nat.repr b.toNat) ++ "])"
  | timestamp t => "Timestamp(" ++ t.text ++ ")"

def loggedList (values : List Value) : String :=
  "[" ++ ", ".intercalate (values.map logged) ++ "]"

end Value

end RecordSql
