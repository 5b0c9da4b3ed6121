import RecordSql.Dialect
import RecordSql.Text.Enclosed

/-! # Features of flavors

What a flavor writes for identifiers and markers of parameters, how it cuts the rows of a select to
a page, and which options of a table it knows.
-/

namespace RecordSql

inductive Pagination
  | limitOffset
  | top
  | rowNumber
  deriving DecidableEq

/-- The markers of parameters: all alike, or with the position of the parameter. -/
inductive Placeholder
  | plain
  | numbered (mark : Char)
  deriving DecidableEq

def Placeholder.isNumbered : Placeholder → Bool
  | plain => false
  | numbered _ => true

structure CatalogQueries where
  tables : String
  columns : String
  indexes : String

namespace Flavor

def opening : Flavor → Char
  | mysql => '`'
  | mssql => '['
  | _ => '"'

/-- The character at the end of a quoted identifier, doubled inside of it. -/
def closing : Flavor → Char
  | mysql => '`'
  | mssql => ']'
  | _ => '"'

def quote (f : Flavor) (name : String) : String :=
  Text.enclose f.opening f.closing name

def placeholder : Flavor → Placeholder
  | postgres => .numbered '$'
  | oracle => .numbered ':'
  | _ => .plain

/-- The marker of the parameter at a position, counted from 1. -/
def marker (f : Flavor) (position : Nat) : String :=
  match f.placeholder with
  | .plain => "?"
  | .numbered mark => String.ofList [mark] ++ Nat.repr position

def pagination : Flavor → Pagination
  | mssql => .top
  | oracle => .rowNumber
  | _ => .limitOffset

/-- The words that make a column number its rows; none where its type does. -/
def autoIncrementWords : Flavor → String
  | standard | mysql => "AUTO_INCREMENT"
  | postgres => ""
  | sqlite => "AUTOINCREMENT"
  | mssql => "IDENTITY(1,1)"
  | oracle => "GENERATED BY DEFAULT AS IDENTITY"

/-- Decide whether these words directly follow the type of the column. -/
def identityFollowsType : Flavor → Bool
  | mssql | oracle => true
  | _ => false

def supportsEngine : Flavor → Bool
  | mysql => true
  | _ => false

def supportsCharset : Flavor → Bool
  | mysql => true
  | _ => false

def rowNumberAlias : Flavor → String
  | oracle => "rn"
  | _ => "rownum"

def subqueryAlias : Flavor → String
  | oracle => " a"
  | _ => " as a"

def catalogQueries? : Flavor → Option CatalogQueries
  | mysql => some {
      tables := "SELECT TABLE_NAME, ENGINE, TABLE_ROWS, AUTO_INCREMENT FROM " ++
        "INFORMATION_SCHEMA.TABLES WHERE TABLE_SCHEMA=?"
      columns := "SELECT COLUMN_NAME, IS_NULLABLE, COLUMN_DEFAULT, COLUMN_TYPE, COLUMN_KEY, " ++
        "EXTRA FROM INFORMATION_SCHEMA.COLUMNS WHERE TABLE_SCHEMA=? AND TABLE_NAME=?"
      indexes := "SELECT INDEX_NAME, NON_UNIQUE, COLUMN_NAME FROM INFORMATION_SCHEMA.STATISTICS " ++
        "WHERE TABLE_SCHEMA=? AND TABLE_NAME=?" }
  | _ => none

def appendIdentifier (f : Flavor) (out name : String) : String :=
  out ++ f.quote name

def appendMarker (f : Flavor) (out : String) (position : Nat) : String :=
  out ++ f.marker position

end Flavor

end RecordSql
