import RecordSql.Sql.Query
import RecordSql.Sql.TableDefinition

/-! # Compiled statements

The text of each query that a statement can stand for, with the values of its parameters in the
order of their markers.
-/

namespace RecordSql

structure Call where
  sql : String
  params : List Value
  deriving DecidableEq

namespace Statement

def selectSql (s : Statement) (f : Flavor) : Except Failure String :=
  Flavor.written (f.writeSelect s)

def countSql (s : Statement) : Except Failure String :=
  if s.tableName = "" then .error (.of .countWithoutTable)
  else .ok (Flavor.appendCount "" s)

def checkArity (s : Statement) (expected actual : Nat) : Except Failure Unit :=
  if expected = actual then .ok () else .error (.of (.arity s.tableName expected actual))

def insertSql (s : Statement) (f : Flavor) (values : List Value) : Except Failure Call := do
  let names := (← s.insertColumns).map (·.name)
  s.checkArity names.length values.length
  return ⟨f.appendInsert "" s.tableName names 1, values⟩

/-- The update to a row of values; where markers carry positions, those of the condition go
first. -/
def updateSql (s : Statement) (f : Flavor) (values : List Value) : Except Failure Call := do
  let names := (← s.updateColumns).map (·.name)
  s.checkArity names.length values.length
  if f.placeholder.isNumbered then
    return ⟨f.appendUpdate "" s.tableName names (s.params.length + 1) s.condition,
      s.params ++ values⟩
  else return ⟨f.appendUpdate "" s.tableName names 1 s.condition, values ++ s.params⟩

def deleteSql (s : Statement) (f : Flavor) : Except Failure Call :=
  if s.tableName = "" then .error (.of .deleteWithoutTable)
  else .ok ⟨f.appendDelete "" s.tableName s.condition, s.params⟩

def createTableSql (s : Statement) (f : Flavor) (ifMissing : Bool) :
    Except Failure (List String) := do
  let t ← s.mappedTable
  let index := fun (unique : Bool) (g : Group) =>
    f.appendCreateIndex "" t.name g.name g.members unique
  return f.appendCreateTable "" t ifMissing ⟨s.storeEngine, s.charset⟩ ::
    (t.indexes.map (index false) ++ t.uniques.map (index true))

def dropTableSql (s : Statement) (f : Flavor) (ifPresent : Bool) : Except Failure String :=
  if s.tableName = "" then .error (.of .dropWithoutTable)
  else .ok (f.appendDropTable "" s.tableName ifPresent)

end Statement

end RecordSql
