import RecordSql.Database.Server

/-! # Reading a database back

The tables of a database are rebuilt from the rows of its catalog: first the tables, then for each
of them its columns and its indexes. The first row that makes no sense ends the reading.
-/

namespace RecordSql.Catalog

def bareName (s : String) : String :=
  Text.trimOf (fun c => c = '`' || c = ' ') s

/-- The bare name of a type in capitals, without the modifiers behind it. -/
def typeName (s : String) : String :=
  Text.toUpper ((Text.words s).headD "")

def cell (r : Row) (i : Nat) : String :=
  (r.get i).written?.getD ""

/-- The lengths that a type token reports: none of its own is zero twice. -/
def reportedLengths (c : Column) (argument : Option String) : Option Column :=
  match argument with
  | some argument => (Lengths.read? argument).map c.setLengths
  | none => some { c with length := 0, secondLength := 0 }

/-- The column of a row that holds its name, whether it can be null, its default, its type, its key
and other remarks. -/
def readColumn (r : Row) : Except Failure Column :=
  let malformed := Failure.of (.malformedColumnType (cell r 3))
  match TypeToken.read? (Text.trim (cell r 3)) with
  | none => .error malformed
  | some token =>
    let type := typeName token.name
    match ColumnType.lookup? type with
    | none => .error (.of (.unknownColumnType type))
    | some t =>
      match reportedLengths (Column.ofType (bareName (cell r 0)) t) token.argument with
      | none => .error malformed
      | some c => .ok (Column.quoteDefault { c with
          nullable := (r.get 1).string? = some "YES"
          default := (r.get 2).written?
          primaryKey := (r.get 4).string? = some "PRI"
          autoIncrement := (r.get 5).string? = some "auto_increment" })

/-- Read the column of a row, and take down its name when its type is unknown. -/
def columnOf (r : Row) : Journal.Act Column :=
  match readColumn r with
  | .ok c => return c
  | .error f => do
    if let .error [] (.unknownColumnType _) := f then
      modify (·.note .error
        ("Column `" ++ bareName (cell r 0) ++ "` of the catalog: " ++ f.message))
    throw f

/-- The group that an index was made for, by the name given to the indexes of a table; other indexes
are groups of their own names. -/
def groupName (table index : String) : String :=
  let rest? := fun (start : String) => (dropStart? start.toList index.toList).bind fun rest =>
    (dropStart? (table.toList ++ ['_']) rest).map String.ofList
  match ((rest? "IDX_").or (rest? "UQE_")).filter (· != "") with
  | some group => group
  | none => index
where
  /-- The rest of a list behind the given start. -/
  dropStart? : List Char → List Char → Option (List Char)
    | [], s => some s
    | _ :: _, [] => none
    | c :: start, d :: s => if c = d then dropStart? start s else none

def contribute (name : String) (unique : Bool) (column : String) : List Index → List Index
  | [] => [⟨name, unique, [column]⟩]
  | i :: is =>
    if i.name = name then { i with columns := i.columns ++ [column] } :: is
    else i :: contribute name unique column is

/-- Take a row of an index into account; the primary key and rows without a name are passed over. -/
def addIndexRow (table : String) (indexes : List Index) (r : Row) : List Index :=
  match (r.get 0).written? with
  | none => indexes
  | some name =>
    if name = "" || name = "PRIMARY" then indexes
    else
      let nonUnique := (r.get 1).written?
      contribute (groupName table name) (nonUnique != some "YES" && nonUnique != some "1")
        (bareName (cell r 2)) indexes

def readIndexes (table : String) (rows : List Row) : List Index :=
  rows.foldl (addIndexRow table) []

def queries : Link.Act CatalogQueries := do
  let dialect := (← get).server.dialect
  match dialect.flavor.catalogQueries? with
  | some queries => return queries
  | none =>
    let f := Failure.of (.unsupportedDialect dialect.name)
    Link.note .error ("Cannot read the catalog: " ++ f.message)
    throw f

def columnsOf : List Row → Journal.Act (List Column)
  | [] => return []
  | r :: rows => do
    let c ← columnOf r
    return c :: (← columnsOf rows)

def columns (database table : String) : Link.Act (List Column) := do
  let rows ← Link.fetch ⟨(← queries).columns, [.text database, .text table]⟩
  Link.withJournal (columnsOf rows)

def indexes (database table : String) : Link.Act (List Index) := do
  let rows ← Link.fetch ⟨(← queries).indexes, [.text database, .text table]⟩
  return readIndexes table rows

def tableOf (database : String) (r : Row) : Link.Act (Option Table) := do
  match (r.get 0).written? with
  | none => return none
  | some name =>
    let t : Table := { Table.empty name with
      storeEngine := (r.get 1).written?
      rowEstimate := (r.get 2).count?
      autoIncrement := (r.get 3).count? }
    let t ← t.addColumns (← columns database name)
    let t := (← indexes database name).foldl Table.addIndex t
    Link.note .trace ("Read table `" ++ t.name ++ "` with " ++ Nat.repr t.columns.length ++
      " columns from the catalog")
    return some t

def tablesOf (database : String) : List Row → Link.Act (List Table)
  | [] => return []
  | r :: rows => do
    let t ← tableOf database r
    return t.toList ++ (← tablesOf database rows)

def tables (database : String) : Link.Act (List Table) := do
  let rows ← Link.fetch ⟨(← queries).tables, [.text database]⟩
  tablesOf database rows

end RecordSql.Catalog
