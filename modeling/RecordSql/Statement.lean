import RecordSql.Flavor.Features
import RecordSql.Schema.Table
import RecordSql.Value

/-! # Statements

A statement collects the clauses of one query on a table. Clauses are text that is taken over as it
stands; a condition comes with the values of its parameters.
-/

namespace RecordSql

structure Statement where
  tableName : String
  table : Option Table
  condition : String
  params : List Value
  order : String
  joins : String
  groupBy : String
  having : String
  limit : Option Nat
  offset : Option Nat
  columns : List String
  storeEngine : Option String
  charset : Option String

inductive Clause
  | table (t : Table)
  | tableName (name : String)
  | limit (n : Nat)
  | offset (n : Nat)
  | order (text : String)
  | groupBy (text : String)
  | having (text : String)
  | join (operator table condition : String)
  | columns (names : List String)
  | storeEngine (name : String)
  | charset (name : String)

inductive Condition
  | text (s : String)
  | key (v : Value)
  deriving DecidableEq

namespace Statement

def empty : Statement :=
  ⟨"", none, "", [], "", "", "", "", none, none, [], none, none⟩

def joined (s : Statement) (operator table condition : String) : String :=
  (if s.joins = "" then "" else s.joins ++ " ") ++
    operator ++ " JOIN " ++ table ++ " ON " ++ condition

/-- Put a clause in place of the one there was; a join goes behind the joins there are. -/
def put (s : Statement) : Clause → Statement
  | .table t => { s with tableName := t.name, table := some t }
  | .tableName name => { s with tableName := name }
  | .limit n => { s with limit := some n }
  | .offset n => { s with offset := some n }
  | .order text => { s with order := text }
  | .groupBy text => { s with groupBy := text }
  | .having text => { s with having := text }
  | .join operator table condition => { s with joins := s.joined operator table condition }
  | .columns names => { s with columns := names }
  | .storeEngine name => { s with storeEngine := some name }
  | .charset name => { s with charset := some name }

def ofTable (t : Table) : Statement :=
  empty.put (.table t)

def mappedTable (s : Statement) : Except Failure Table :=
  match s.table with
  | some t => .ok t
  | none => .error (.of (.unmapped s.tableName))

def keyName (s : Statement) : Except Failure String := do
  match (← s.mappedTable).primaryKey with
  | some key => .ok key
  | none => .error (.of (.missingPrimaryKey s.tableName))

structure Draft where
  statement : Statement
  next : Nat

/-- Replace the condition and its parameters, and leave the position behind them. A condition on the
key needs a mapped table with a primary key; when there is none, the position is already moved. -/
def Draft.filter (f : Flavor) (condition : Condition) (args : List Value) :
    ExceptT Failure (StateM Draft) Unit := do
  modify fun d => { d with next := 1 + args.length }
  match condition with
  | .text s =>
    modify fun d => { d with statement := { d.statement with condition := s, params := args } }
  | .key v =>
    let d ← get
    let key ← d.statement.keyName
    set { d with
      statement := { d.statement with
        condition := f.appendMarker (f.quote key ++ " = ") d.next
        params := args ++ [v] }
      next := d.next + 1 }

/-- The list of columns of a select: those asked for, or else those of the table that can be read,
or else all of them. -/
def columnList (s : Statement) : String :=
  if s.columns.isEmpty then
    match s.table with
    | some t => if t.readable.isEmpty then "*" else ", ".intercalate (t.readable.map (·.name))
    | none => "*"
  else ", ".intercalate s.columns

def insertColumns (s : Statement) : Except Failure (List Column) := do
  return (← s.mappedTable).writable.filter fun c => !c.autoIncrement

def updateColumns (s : Statement) : Except Failure (List Column) := do
  return (← s.mappedTable).writable.filter fun c => !c.autoIncrement && !c.primaryKey

end Statement

end RecordSql
