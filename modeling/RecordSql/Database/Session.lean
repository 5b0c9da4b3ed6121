import RecordSql.Database.Source

/-! # Sessions

A session is a sequence of statements compiled for one data source. The last of them is the current
one, which the clauses are added to; the position of the next parameter starts at 1 with each
statement.
-/

namespace RecordSql

structure Session where
  earlier : List Statement
  current : Statement
  next : Nat

namespace Session

def empty : Session := ⟨[], .empty, 1⟩

def statements (s : Session) : List Statement :=
  s.earlier ++ [s.current]

def newStatement (s : Session) : Session :=
  ⟨s.statements, .empty, 1⟩

def put (s : Session) (c : Clause) : Session :=
  { s with current := s.current.put c }

def forRecord (s : Session) (source : Source) (key : String) (record : RecordType) :
    Journal.Act (Session × Source) := do
  let (entry, source) ← source.autoMap key record
  return (s.put (.table entry.table), source)

/-- Replace the condition of the current statement and its parameters in place; the position of the
next parameter follows when that is done. -/
def refilter (f : Flavor) (condition : Condition) (args : List Value) :
    ExceptT Failure (StateM Session) Unit := do
  let s ← get
  let (answer, draft) := (Statement.Draft.filter f condition args).run.run ⟨s.current, s.next⟩
  set { s with current := draft.statement }
  answer
  modify ({ · with next := draft.next })

def filter (s : Session) (f : Flavor) (condition : Condition) (args : List Value) :
    Except Failure Session :=
  match (refilter f condition args).run.run s with
  | (.ok (), s) => .ok s
  | (.error failure, _) => .error failure

def checkDialect (source : Source) : Link.Act Unit := do
  let spoken := (← get).server.dialect
  if spoken != source.dialect then
    Link.withJournal (Journal.refuse (.of (.foreignServer source.dialect spoken)))

def query (source : Source) (call : Call) : Link.Act (List Row) := do
  checkDialect source
  source.noteCall call
  Link.fetch call

def exec (source : Source) (call : Call) : Link.Act Affected := do
  checkDialect source
  source.noteCall call
  Link.execute call

def find (s : Session) (source : Source) : Link.Act (List Row) := do
  query source ⟨← s.current.selectSql source.flavor, s.current.params⟩

def countOf (rows : List Row) : Except Failure UInt64 :=
  match rows.head?.bind fun r => (r.get 0).count? with
  | some n => .ok n
  | none => .error (.of .countNotNumber)

def count (s : Session) (source : Source) : Link.Act UInt64 := do
  countOf (← query source ⟨← s.current.countSql, s.current.params⟩)

def insert (s : Session) (source : Source) (values : List Value) : Link.Act Affected := do
  exec source (← s.current.insertSql source.flavor values)

def update (s : Session) (source : Source) (values : List Value) : Link.Act Affected := do
  exec source (← s.current.updateSql source.flavor values)

def delete (s : Session) (source : Source) : Link.Act Affected := do
  exec source (← s.current.deleteSql source.flavor)

def execAll (source : Source) : List String → Link.Act Unit
  | [] => return ()
  | sql :: rest => do
    let _ ← exec source ⟨sql, []⟩
    execAll source rest

def createTable (s : Session) (source : Source) (ifMissing : Bool) : Link.Act Unit := do
  execAll source (← s.current.createTableSql source.flavor ifMissing)

def dropTable (s : Session) (source : Source) (ifPresent : Bool) : Link.Act Unit := do
  execAll source [← s.current.dropTableSql source.flavor ifPresent]

end Session

end RecordSql
