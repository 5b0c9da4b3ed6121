import RecordSql.Schema.ColumnType

/-! # Records

A record is described by its name and its fields. Each field has a kind, from which the type of its
column is inferred, and possibly an annotation.
-/

namespace RecordSql

mutual

inductive Kind
  | int
  | bigInt
  | float
  | double
  | bool
  | text
  | bytes
  | time
  | composite (fields : List Field)
  | other

inductive Field
  | mk (name : String) (kind : Kind) (line : Option String)

end

namespace Field

def name : Field → String
  | mk name _ _ => name

def kind : Field → Kind
  | mk _ kind _ => kind

def line : Field → Option String
  | mk _ _ line => line

end Field

structure RecordType where
  name : String
  fields : List Field

def Kind.name : Kind → String
  | int => "Int"
  | bigInt => "BigInt"
  | float => "Float"
  | double => "Double"
  | bool => "Bool"
  | text => "Text"
  | bytes => "Bytes"
  | time => "Time"
  | composite _ => "Composite"
  | other => "Other"

/-- The form of a kind in a listing, which leaves the fields of a record out. -/
def Kind.listed : Kind → String
  | composite _ => "Composite(..)"
  | k => k.name

def ColumnType.ofKind : Kind → ColumnType
  | .int => int
  | .bigInt => bigint
  | .float => float
  | .double => double
  | .bool => bool
  | .text => varchar
  | .bytes => blob
  | .time => datetime
  | .composite _ | .other => text

end RecordSql
