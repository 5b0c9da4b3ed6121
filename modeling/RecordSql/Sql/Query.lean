import RecordSql.Sql.Change
import RecordSql.Statement

/-! # Selects

A select is cut to a page by a `LIMIT` clause, by `TOP`, or by numbering the rows in an inner select
and filtering them by number. A select that cannot be cut to its page writes nothing.
-/

namespace RecordSql.Flavor

/-- Write a word with a clause behind it unless the clause is empty. -/
def appendClause (out word clause : String) : String :=
  if clause = "" then out else out ++ word ++ clause

def appendSource (out : String) (s : Statement) : String :=
  appendCondition (appendClause out " " s.joins) s.condition

def appendPlainSelect (out : String) (s : Statement) (top : Option Nat) : String :=
  let out := out ++ "SELECT " ++
    match top with
    | some top => "TOP " ++ Nat.repr top ++ " "
    | none => ""
  let out := appendSource (out ++ s.columnList ++ " FROM " ++ s.tableName) s
  let out := appendClause out " GROUP BY " s.groupBy
  let out := appendClause out " HAVING " s.having
  appendClause out " ORDER BY " s.order

def appendLimit (f : Flavor) (out : String) (limit : Nat) (offset : Option Nat) : String :=
  match f, offset with
  | _, none => out ++ " LIMIT " ++ Nat.repr limit
  | postgres, some offset => out ++ " LIMIT " ++ Nat.repr limit ++ " OFFSET " ++ Nat.repr offset
  | _, some offset => out ++ " LIMIT " ++ Nat.repr offset ++ ", " ++ Nat.repr limit

def numberingOrder (s : Statement) : Except Failure String :=
  if s.order != "" then .ok s.order
  else match s.table.bind (·.primaryKey) with
    | some key => .ok key
    | none => .error (.pagination (.unordered s.tableName))

def writeNumberedSelect (f : Flavor) (s : Statement) (limit offset : Nat) :
    ExceptT Failure (StateM String) Unit := do
  if s.groupBy != "" || s.having != "" then throw (.pagination (.grouped f.dialect))
  let order ← numberingOrder s
  let columns := s.columnList
  let numbered := if columns = "*" then s.tableName ++ ".*" else columns
  modify (· ++ "select " ++ columns ++ " from (select ROW_NUMBER() OVER(order by " ++ order ++
    " )as " ++ f.rowNumberAlias ++ "," ++ numbered ++ " from " ++ s.tableName)
  modify (appendSource · s)
  modify (· ++ ")" ++ f.subqueryAlias)
  modify (· ++ " where " ++ f.rowNumberAlias ++ " between " ++ Nat.repr offset ++ " and " ++
    Nat.repr limit)

/-- Write a select; what is written before a failure stays there. -/
def writeSelect (f : Flavor) (s : Statement) : ExceptT Failure (StateM String) Unit := do
  if s.tableName = "" then throw (.of .selectWithoutTable)
  let offset := s.offset.filter (0 < ·)
  match s.limit with
  | none =>
    if offset.isSome then throw (.pagination .offsetAlone)
    modify (appendPlainSelect · s none)
  | some limit =>
    match f.pagination, offset with
    | .limitOffset, _ =>
      modify (appendPlainSelect · s none)
      modify (f.appendLimit · limit offset)
    | .top, none => modify (appendPlainSelect · s (some limit))
    | _, _ => f.writeNumberedSelect s limit (offset.getD 0)

/-- The text that is written in an empty one, unless writing fails. -/
def written (write : ExceptT Failure (StateM String) Unit) : Except Failure String :=
  match write.run.run "" with
  | (.ok (), sql) => .ok sql
  | (.error failure, _) => .error failure

def appendCount (out : String) (s : Statement) : String :=
  appendSource (out ++ "SELECT COUNT(*) FROM " ++ s.tableName) s

end RecordSql.Flavor
