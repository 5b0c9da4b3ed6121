import RecordSql.Text.Letters

/-! # Column types

The catalog of the column types that records are declared with. Each dialect has its own physical
type for every one of them.
-/

namespace RecordSql

inductive ColumnType
  | bit | tinyint | smallint | mediumint | int | integer | bigint
  | char | varchar | tinytext | text | mediumtext | longtext | binary | varbinary
  | date | datetime | time | timestamp | timestampz
  | decimal | numeric | real | float | double
  | tinyblob | blob | mediumblob | longblob | bytea
  | bool
  | serial | bigserial
  deriving DecidableEq

namespace ColumnType

def name : ColumnType → String
  | bit => "BIT"
  | tinyint => "TINYINT"
  | smallint => "SMALLINT"
  | mediumint => "MEDIUMINT"
  | int => "INT"
  | integer => "INTEGER"
  | bigint => "BIGINT"
  | char => "CHAR"
  | varchar => "VARCHAR"
  | tinytext => "TINYTEXT"
  | text => "TEXT"
  | mediumtext => "MEDIUMTEXT"
  | longtext => "LONGTEXT"
  | binary => "BINARY"
  | varbinary => "VARBINARY"
  | date => "DATE"
  | datetime => "DATETIME"
  | time => "TIME"
  | timestamp => "TIMESTAMP"
  | timestampz => "TIMESTAMPZ"
  | decimal => "DECIMAL"
  | numeric => "NUMERIC"
  | real => "REAL"
  | float => "FLOAT"
  | double => "DOUBLE"
  | tinyblob => "TINYBLOB"
  | blob => "BLOB"
  | mediumblob => "MEDIUMBLOB"
  | longblob => "LONGBLOB"
  | bytea => "BYTEA"
  | bool => "BOOL"
  | serial => "SERIAL"
  | bigserial => "BIGSERIAL"

def catalog : List ColumnType :=
  [bit, tinyint, smallint, mediumint, int, integer, bigint, char, varchar, tinytext, text,
   mediumtext, longtext, binary, varbinary, date, datetime, time, timestamp, timestampz, decimal,
   numeric, real, float, double, tinyblob, blob, mediumblob, longblob, bytea, bool, serial,
   bigserial]

theorem mem_catalog (t : ColumnType) : t ∈ catalog := by
  cases t <;> decide

/-- The type with a name in letters of any case; `BOOLEAN` is another name of `BOOL`. -/
def lookup? (name : String) : Option ColumnType :=
  if Text.sameLetters name "BOOLEAN" then some bool
  else catalog.find? fun t => Text.sameLetters t.name name

def defaultLength : ColumnType → UInt32
  | varchar => 255
  | _ => 0

def isText : ColumnType → Bool
  | char | varchar | tinytext | text | mediumtext | longtext => true
  | _ => false

def isBlob : ColumnType → Bool
  | tinyblob | blob | mediumblob | longblob | binary | varbinary | bytea => true
  | _ => false

def isInteger : ColumnType → Bool
  | tinyint | smallint | mediumint | int | integer | bigint | serial | bigserial => true
  | _ => false

def isSerial : ColumnType → Bool
  | serial | bigserial => true
  | _ => false

end ColumnType

end RecordSql
