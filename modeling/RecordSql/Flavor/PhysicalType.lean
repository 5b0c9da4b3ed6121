import RecordSql.Flavor.Features
import RecordSql.Schema.Column

/-! # Physical types

A flavor has a physical type for each type of the catalog. Serial types make their column the key of
its table before anything is written for it, and some physical types take the lengths of the column.
-/

namespace RecordSql

namespace ColumnType

def standardName : ColumnType → String
  | serial => "INTEGER"
  | bigserial => "BIGINT"
  | bool => "BOOLEAN"
  | timestampz => "TIMESTAMP WITH TIME ZONE"
  | t => t.name

def mysqlName : ColumnType → String
  | bool => "TINYINT"
  | serial => "INT"
  | bigserial => "BIGINT"
  | bytea => "BLOB"
  | timestampz => "CHAR"
  | t => t.name

/-- The physical types of PostgreSQL; `counting` tells whether the column numbers its rows. -/
def postgresName (counting : Bool) : ColumnType → String
  | tinyint | smallint => if counting then "SMALLSERIAL" else "SMALLINT"
  | mediumint | int | integer => if counting then "SERIAL" else "INTEGER"
  | bigint => if counting then "BIGSERIAL" else "BIGINT"
  | bool => "BOOLEAN"
  | datetime => "TIMESTAMP"
  | timestampz => "TIMESTAMP WITH TIME ZONE"
  | float => "REAL"
  | double => "DOUBLE PRECISION"
  | tinytext | mediumtext | longtext => "TEXT"
  | t => if t.isBlob then "BYTEA" else t.name

def sqliteName (t : ColumnType) : String :=
  if t.isInteger then "INTEGER"
  else if t.isText then "TEXT"
  else if t.isBlob then "BLOB"
  else match t with
    | bool | bit => "INTEGER"
    | real | float | double => "REAL"
    | decimal | numeric => "NUMERIC"
    | timestampz => "TEXT"
    | t => t.name

/-- The physical types of SQL Server; `sized` tells whether the column has a length. -/
def mssqlName (sized : Bool) : ColumnType → String
  | bool => "BIT"
  | serial => "INT"
  | bigserial => "BIGINT"
  | mediumint | integer => "INT"
  | double => "FLOAT"
  | timestamp => "DATETIME"
  | timestampz => "DATETIMEOFFSET"
  | tinytext | text | mediumtext | longtext => "VARCHAR(MAX)"
  | binary => "BINARY"
  | varbinary => if sized then "VARBINARY" else "VARBINARY(MAX)"
  | t => if t.isBlob then "VARBINARY(MAX)" else t.name

def oracleName (sized : Bool) : ColumnType → String
  | tinyint => "NUMBER(3)"
  | smallint => "NUMBER(5)"
  | mediumint | int | integer | serial => "NUMBER(10)"
  | bigint | bigserial => "NUMBER(19)"
  | bit | bool => "NUMBER(1)"
  | varchar => "VARCHAR2"
  | tinytext | text | mediumtext | longtext => "CLOB"
  | binary | varbinary => if sized then "RAW" else "RAW(2000)"
  | datetime | timestamp | time => "TIMESTAMP"
  | timestampz => "TIMESTAMP WITH TIME ZONE"
  | decimal | numeric => "NUMBER"
  | real | float => "FLOAT"
  | double => "BINARY_DOUBLE"
  | t => if t.isBlob then "BLOB" else t.name

end ColumnType

namespace Flavor

/-- The column as a flavor declares it: serial types make it a key that numbers its rows, and MySQL
keeps a time with a zone as 64 characters. -/
def settle (f : Flavor) (c : Column) : Column :=
  let c := if c.type.isSerial then
      { c with autoIncrement := true, primaryKey := true, nullable := false }
    else c
  if f = mysql && c.type = .timestampz then { c with length := 64, secondLength := 0 } else c

def physicalName (f : Flavor) (c : Column) : String :=
  match f with
  | standard => c.type.standardName
  | mysql => c.type.mysqlName
  | postgres => c.type.postgresName c.autoIncrement
  | sqlite => c.type.sqliteName
  | mssql => c.type.mssqlName (0 < c.length)
  | oracle => c.type.oracleName (0 < c.length)

def acceptsLength (f : Flavor) (physical : String) : Bool :=
  match f with
  | standard | mysql => !physical.toList.contains '('
  | postgres => physical ∈ ["CHAR", "VARCHAR", "DECIMAL", "NUMERIC", "BIT"]
  | sqlite => false
  | mssql => physical ∈ ["CHAR", "VARCHAR", "BINARY", "VARBINARY", "DECIMAL", "NUMERIC"]
  | oracle => physical ∈ ["CHAR", "VARCHAR2", "RAW", "NUMBER", "FLOAT"]

/-- Write lengths in parentheses; a length of zero and what follows it are left out. -/
def appendLengths (out : String) (first second : UInt32) : String :=
  if 0 < first && 0 < second then
    out ++ "(" ++ Nat.repr first.toNat ++ "," ++ Nat.repr second.toNat ++ ")"
  else if 0 < first then out ++ "(" ++ Nat.repr first.toNat ++ ")"
  else out

/-- The physical type of a column with its lengths, and the column as it is declared. -/
def translate (f : Flavor) (c : Column) : String × Column :=
  let c := f.settle c
  let physical := f.physicalName c
  (if f.acceptsLength physical then appendLengths physical c.length c.secondLength else physical, c)

end Flavor

end RecordSql
