import RecordSql.Schema.ColumnType
import RecordSql.Schema.TypeToken
import RecordSql.Text.Enclosed

/-! # Columns

A column has a type of the catalog, constraints, a default literal, a place in an index and in a
uniqueness group, and the direction in which it exchanges data with its record.
-/

namespace RecordSql

inductive Grouping
  | none
  | single
  | named (group : String)
  deriving DecidableEq

/-- The group that a column belongs to; a column alone in a group gives it its name. -/
def Grouping.group? (g : Grouping) (column : String) : Option String :=
  match g with
  | none => .none
  | single => some column
  | named group => some group

inductive Direction
  | both
  | writeOnly
  | readOnly
  deriving DecidableEq

namespace Direction

def reads (d : Direction) : Bool :=
  d != writeOnly

def writes (d : Direction) : Bool :=
  d != readOnly

end Direction

structure Column where
  name : String
  /-- The path of the field it is mapped from, with points between the names. -/
  field : String
  type : ColumnType
  length : UInt32
  secondLength : UInt32
  nullable : Bool
  /-- The literal of its default; a text stands between single quotes. -/
  default : Option String
  primaryKey : Bool
  autoIncrement : Bool
  index : Grouping
  unique : Grouping
  direction : Direction
  deriving DecidableEq

namespace Column

def ofType (name : String) (type : ColumnType) : Column where
  name := name
  field := name
  type := type
  length := type.defaultLength
  secondLength := 0
  nullable := true
  default := none
  primaryKey := false
  autoIncrement := false
  index := .none
  unique := .none
  direction := .both

/-- Set both lengths, unless the first is zero. -/
def setLengths (c : Column) (l : Lengths) : Column :=
  if 0 < l.first then { c with length := l.first, secondLength := l.second } else c

end Column

/-- The default of a column of a type: a text without a quote in front is quoted, and no text is no
default of any other type. -/
def ColumnType.literal (t : ColumnType) (default : Option String) : Option String :=
  if t.isText then default.map fun s => if s.toList.head? = some '\'' then s else Text.literal s
  else default.filter (· != "")

def Column.quoteDefault (c : Column) : Column :=
  { c with default := c.type.literal c.default }

end RecordSql
