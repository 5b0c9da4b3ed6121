import RecordSql.Failure
import RecordSql.Schema.Column

/-! # Tables

A table holds its columns in the order of their declaration, and its index and uniqueness groups in
the order in which a column or an index first names them.
-/

namespace RecordSql

structure Group where
  name : String
  members : List String
  deriving DecidableEq

/-- Add members to the group of a name, which is put at the end when there is none. -/
def Group.contribute (name : String) (members : List String) : List Group → List Group
  | [] => [⟨name, members⟩]
  | g :: gs =>
    if g.name = name then ⟨g.name, g.members ++ members⟩ :: gs
    else g :: contribute name members gs

def Group.join (g : Grouping) (column : String) (groups : List Group) : List Group :=
  match g.group? column with
  | some name => contribute name [column] groups
  | none => groups

structure Index where
  name : String
  unique : Bool
  columns : List String
  deriving DecidableEq

def Index.grouping (i : Index) (column : String) : Grouping :=
  if i.columns.length = 1 && i.name = column then .single else .named i.name

structure Table where
  name : String
  columns : List Column
  indexes : List Group
  uniques : List Group
  primaryKey : Option String
  storeEngine : Option String
  rowEstimate : Option UInt64
  autoIncrement : Option UInt64
  deriving DecidableEq

namespace Table

def empty (name : String) : Table :=
  ⟨name, [], [], [], none, none, none, none⟩

def column? (t : Table) (name : String) : Option Column :=
  t.columns.find? (·.name = name)

/-- Put a column at the end, unless the table has one of its name. -/
def addColumn (t : Table) (c : Column) : Except Failure Table :=
  if (t.column? c.name).isSome then .error (.of (.duplicateColumn t.name c.name))
  else .ok { t with
    columns := t.columns ++ [c]
    primaryKey := t.primaryKey.or (if c.primaryKey then some c.name else none)
    indexes := Group.join c.index c.name t.indexes
    uniques := Group.join c.unique c.name t.uniques }

def addColumns (t : Table) : List Column → Except Failure Table
  | [] => .ok t
  | c :: cs => do (← t.addColumn c).addColumns cs

/-- Add the members of an index to its group and mark the columns it names. -/
def addIndex (t : Table) (i : Index) : Table :=
  if i.unique then { t with
    columns := t.columns.map fun c =>
      if c.name ∈ i.columns then { c with unique := i.grouping c.name } else c
    uniques := Group.contribute i.name i.columns t.uniques }
  else { t with
    columns := t.columns.map fun c =>
      if c.name ∈ i.columns then { c with index := i.grouping c.name } else c
    indexes := Group.contribute i.name i.columns t.indexes }

def primaryKeyColumn? (t : Table) : Option Column :=
  t.primaryKey.bind t.column?

def columnNames (t : Table) : List String :=
  t.columns.map (·.name)

def columnText (t : Table) : String :=
  ", ".intercalate t.columnNames

def readable (t : Table) : List Column :=
  t.columns.filter (·.direction.reads)

def writable (t : Table) : List Column :=
  t.columns.filter (·.direction.writes)

end Table

end RecordSql
