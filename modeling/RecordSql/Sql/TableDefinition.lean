import RecordSql.Flavor.PhysicalType
import RecordSql.Schema.Table
import RecordSql.Text.Separated

/-! # Definitions of tables

The statements that create and drop a table and that create an index. Each is written at the end of
a script and starts a new line of it; a guarded statement does nothing when the table is already
there, or already gone.
-/

namespace RecordSql

structure TableOptions where
  storeEngine : Option String
  charset : Option String

/-- Start a new line unless nothing is written yet. -/
def startLine (out : String) : String :=
  if out = "" then out else out.push '\n'

namespace Flavor

def declaresKey (c : Column) (tableKey : Option String) : Bool :=
  c.primaryKey && (tableKey.isNone || tableKey = some c.name)

def nullWords (c : Column) : String :=
  if c.nullable then " NULL" else " NOT NULL"

/-- Write a column definition with the default behind the constraints. -/
def appendPlainDefinition (f : Flavor) (out : String) (c : Column) (tableKey : Option String) :
    String :=
  let (type, c) := f.translate c
  let identity := if c.autoIncrement && f.autoIncrementWords != "" then
      " " ++ f.autoIncrementWords
    else ""
  f.appendIdentifier out c.name ++ " " ++ type ++
    (if f.identityFollowsType then identity else "") ++
    (if declaresKey c tableKey then " PRIMARY KEY" else "") ++
    (if f.identityFollowsType then "" else identity) ++
    nullWords c ++
    match c.default with
    | some default => if default = "" then "" else " DEFAULT " ++ default
    | none => ""

/-- Write a column definition with the default in front of the constraints. -/
def appendLeadingDefault (f : Flavor) (out : String) (c : Column) (tableKey : Option String) :
    String :=
  let (type, c) := f.translate c
  f.appendIdentifier out c.name ++ " " ++ type ++
    (if c.autoIncrement then " " ++ f.autoIncrementWords
      else match c.default with
        | some default => " DEFAULT " ++ default
        | none => "") ++
    (if declaresKey c tableKey then " PRIMARY KEY" else "") ++
    nullWords c

def appendColumn (f : Flavor) (out : String) (c : Column) (tableKey : Option String) : String :=
  match f with
  | oracle => f.appendLeadingDefault out c tableKey
  | _ => f.appendPlainDefinition out c tableKey

def appendPlainCreate (f : Flavor) (out : String) (t : Table) (clause : String)
    (options : TableOptions) : String :=
  let out := f.appendIdentifier (startLine out ++ "CREATE TABLE " ++ clause) t.name ++ " (\n"
  let out := Text.appendSeparated out t.columns (fun out c => f.appendColumn out c t.primaryKey)
    ",\n"
  out ++ ")" ++
    (match options.storeEngine with
      | some engine => if f.supportsEngine then " ENGINE=" ++ engine else ""
      | none => "") ++
    (match options.charset with
      | some charset => if f.supportsCharset then " DEFAULT CHARSET=" ++ charset else ""
      | none => "") ++
    ";"

/-- Write a block that runs a statement and ignores the error of the given code. -/
def appendGuarded (out statement code : String) : String :=
  startLine out ++ "BEGIN EXECUTE IMMEDIATE " ++
    Text.literal (Text.trimEndOf (· = ';') statement) ++
    "; EXCEPTION WHEN OTHERS THEN IF SQLCODE != " ++ code ++ " THEN RAISE; END IF; END;"

def appendCreateTable (f : Flavor) (out : String) (t : Table) (ifMissing : Bool)
    (options : TableOptions) : String :=
  if ifMissing then
    match f with
    | mssql =>
      f.appendPlainCreate
        (startLine out ++ "IF OBJECT_ID(" ++ Text.literal t.name ++ ", 'U') IS NULL") t "" options
    | oracle => appendGuarded out (f.appendPlainCreate "" t "" options) "-955"
    | _ => f.appendPlainCreate out t "IF NOT EXISTS " options
  else f.appendPlainCreate out t "" options

def indexName (table group : String) (unique : Bool) : String :=
  (if unique then "UQE" else "IDX") ++ "_" ++ table ++ "_" ++ group

def appendCreateIndex (f : Flavor) (out table group : String) (columns : List String)
    (unique : Bool) : String :=
  let out := startLine out ++ if unique then "CREATE UNIQUE INDEX " else "CREATE INDEX "
  let out := f.appendIdentifier out (indexName table group unique) ++ " ON "
  let out := f.appendIdentifier out table ++ " ("
  Text.appendSeparated out columns f.appendIdentifier ", " ++ ");"

def appendDropTable (f : Flavor) (out table : String) (ifPresent : Bool) : String :=
  match f with
  | oracle =>
    let statement := "DROP TABLE " ++ f.quote table
    if ifPresent then appendGuarded out statement "-942" else startLine out ++ statement ++ ";"
  | _ =>
    f.appendIdentifier (startLine out ++ "DROP TABLE " ++ if ifPresent then "IF EXISTS " else "")
      table ++ ";"

end Flavor

end RecordSql
