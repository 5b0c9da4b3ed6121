import RecordSql.Text.Letters

/-! # Dialects

The five dialects of SQL, the names they are asked for by, and the drivers that speak them. A flavor
is what decides the text of a statement: that of a dialect, or the standard one.
-/

namespace RecordSql

inductive Dialect
  | mysql
  | postgres
  | sqlite
  | mssql
  | oracle
  deriving DecidableEq

/-- The rules by which statements are written. -/
inductive Flavor
  | standard
  | mysql
  | postgres
  | sqlite
  | mssql
  | oracle
  deriving DecidableEq

namespace Dialect

def name : Dialect → String
  | mysql => "mysql"
  | postgres => "postgres"
  | sqlite => "sqlite3"
  | mssql => "mssql"
  | oracle => "oracle"

def ofName? (s : String) : Option Dialect :=
  match Text.plainLower s with
  | "mysql" => some mysql
  | "postgres" | "postgresql" => some postgres
  | "sqlite3" | "sqlite" => some sqlite
  | "mssql" => some mssql
  | "oracle" => some oracle
  | _ => none

def ofDriver? : String → Option Dialect
  | "mysql" | "mymysql" => some mysql
  | "postgres" => some postgres
  | "sqlite3" => some sqlite
  | "odbc" => some mssql
  | "oci8" => some oracle
  | _ => none

def flavor : Dialect → Flavor
  | mysql => .mysql
  | postgres => .postgres
  | sqlite => .sqlite
  | mssql => .mssql
  | oracle => .oracle

end Dialect

def Flavor.dialect : Flavor → Dialect
  | standard | sqlite => .sqlite
  | mysql => .mysql
  | postgres => .postgres
  | mssql => .mssql
  | oracle => .oracle

theorem Dialect.dialect_flavor (d : Dialect) : d.flavor.dialect = d := by
  cases d <;> rfl

end RecordSql
