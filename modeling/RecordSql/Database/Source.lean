import RecordSql.Database.Catalog
import RecordSql.Database.Registry
import RecordSql.Text.Shortened
import RecordSql.Url.Address

/-! # Data sources

A data source binds a dialect and the name of a database server to the tables mapped so far. The
tables are those of the naming convention in force, and a new convention forgets them.
-/

namespace RecordSql

def Dialect.ofDriver (driver : String) : Journal.Act Dialect :=
  match ofDriver? driver with
  | some d => return d
  | none => Journal.refuse (.of (.unsupportedDriver driver))

structure Source where
  dialect : Dialect
  driver : String
  address : String
  naming : Naming
  tables : Registry
  showSql : Bool

structure Connection where
  address : String
  dialect : Dialect
  deriving DecidableEq

namespace Source

def ofDialect (d : Dialect) (address : String) : Source :=
  ⟨d, d.name, address, .snake, .empty, false⟩

def ofDriver (driver address : String) : Journal.Act Source := do
  return { ofDialect (← Dialect.ofDriver driver) address with driver := driver }

def flavor (s : Source) : Flavor := s.dialect.flavor

def withNaming (s : Source) (n : Naming) : Source :=
  { s with naming := n, tables := s.tables.clear }

def autoMap (s : Source) (key : String) (record : RecordType) :
    Journal.Act (Registered × Source) := do
  let (entry, tables) ← s.tables.getOrMap s.naming key record
  return (entry, { s with tables := tables })

def map (s : Source) (key : String) (record : RecordType) : Journal.Act (Registered × Source) := do
  let (entry, tables) ← s.tables.map s.naming key record
  return (entry, { s with tables := tables })

def unmap (s : Source) (key : String) : Bool × Source :=
  let (present, tables) := s.tables.unmap key
  (present, { s with tables := tables })

def createTableSql (s : Source) (key : String) (record : RecordType) (ifMissing : Bool) :
    Journal.Act (Except Failure (List String) × Source) := do
  let (entry, s) ← s.autoMap key record
  return ((Statement.ofTable entry.table).createTableSql s.flavor ifMissing, s)

/-- The statement that drops the table of a record; a table without a name is mapped and kept, but
no statement drops it. -/
def dropTableSql (s : Source) (key : String) (record : RecordType) (ifPresent : Bool) :
    Journal.Act (Except Failure String × Source) := do
  let (entry, s) ← s.autoMap key record
  return ((Statement.ofTable entry.table).dropTableSql s.flavor ifPresent, s)

def nonEmpty? (name : List Char) : Option String :=
  if name.isEmpty then none else some (String.ofList name)

def behindLastSlash? (s : List Char) : Option (List Char) :=
  if '/' ∈ s then some (s.reverse.takeWhile (· != '/')).reverse else none

/-- The name of the database: the path of an address that is a url with one, or else the text behind
the last slash and in front of a question mark. -/
def databaseName? (s : Source) : Option String :=
  match Url.read s.address with
  | .ok { path := some path, .. } => nonEmpty? (Text.trimOf (· = '/') path).toList
  | _ => (behindLastSlash? s.address.toList).bind fun rest => nonEmpty? (rest.takeWhile (· != '?'))

def connect (s : Source) (opening : String → Except Failure Connection) :
    Journal.Act Connection := do
  let c ← opening s.address
  if c.dialect = s.dialect then return c
  else Journal.refuse (.of (.foreignConnection c.dialect s.dialect))

def introspect (s : Source) : Link.Act (List Table) :=
  match s.databaseName? with
  | some database => Catalog.tables database
  | none => throw (.of (.unnamedDatabase s.address))

def noteCall (s : Source) (call : Call) : Link.Act Unit := do
  if (← get).journal.kept then
    match Text.shorten? call.sql with
    | some sql =>
      Link.note (if s.showSql then .info else .debug)
        ("[SQL] " ++ sql ++ " " ++ Value.loggedList call.params)
    | none => throw (.halt .splitCharacter)

end Source

end RecordSql
