import RecordSql.Database.Journal
import RecordSql.Record.Mapping

/-! # Registry of mapped tables

A registry keeps the table of each record it was asked for, until the record is mapped again or
forgotten. Each table put into it gets a number of its own, by which two mappings of one record are
told apart.
-/

namespace RecordSql

def RecordType.map (n : Naming) (r : RecordType) : Journal.Act Table := do
  let t ← r.table n
  modify (·.note .trace
    ("Mapped `" ++ r.name ++ "` to table `" ++ t.name ++ "` with columns: " ++ t.columnText))
  return t

structure Registered where
  number : Nat
  table : Table
  deriving DecidableEq

structure Registry where
  entries : List (String × Registered)
  next : Nat

namespace Registry

def empty : Registry := ⟨[], 0⟩

def clear (r : Registry) : Registry := { r with entries := [] }

def size (r : Registry) : Nat := r.entries.length

def get? (r : Registry) (key : String) : Option Registered :=
  r.entries.lookup key

def put (r : Registry) (key : String) (t : Table) : Registered × Registry :=
  let entry := ⟨r.next, t⟩
  (entry, ⟨(key, entry) :: r.entries.filter (·.1 != key), r.next + 1⟩)

def unmap (r : Registry) (key : String) : Bool × Registry :=
  ((r.get? key).isSome, { r with entries := r.entries.filter (·.1 != key) })

end Registry

/-- A registry that is worked on, with the journal of what is done. -/
structure Cabinet where
  tables : Registry
  journal : Journal

namespace Cabinet

/-- An action that works on a registry in place; what is done before a failure stays done. -/
abbrev Act (α : Type) := ExceptT Failure (StateM Cabinet) α

def withJournal {α : Type} (act : Journal.Act α) : Act α := do
  let c ← get
  let (answer, journal) := act.run.run c.journal
  set { c with journal := journal }
  answer

def put (key : String) (t : Table) : Act Registered := do
  let (entry, tables) := (← get).tables.put key t
  modify fun c => { c with tables := tables }
  return entry

def map (n : Naming) (key : String) (record : RecordType) : Act Registered := do
  put key (← withJournal (record.map n))

def getOrMap (n : Naming) (key : String) (record : RecordType) : Act Registered := do
  match (← get).tables.get? key with
  | some entry => return entry
  | none =>
    let t ← withJournal (record.map n)
    withJournal (modify (·.note .trace ("Registered table `" ++ t.name ++ "`")))
    put key t

end Cabinet

namespace Registry

/-- Work on a registry, and give what becomes of it with the answer; a failure gives nothing. -/
def work {α : Type} (r : Registry) (act : Cabinet.Act α) : Journal.Act (α × Registry) := do
  let (answer, c) := act.run.run ⟨r, ← get⟩
  set c.journal
  return (← answer, c.tables)

def map (r : Registry) (n : Naming) (key : String) (record : RecordType) :
    Journal.Act (Registered × Registry) :=
  r.work (Cabinet.map n key record)

def getOrMap (r : Registry) (n : Naming) (key : String) (record : RecordType) :
    Journal.Act (Registered × Registry) :=
  r.work (Cabinet.getOrMap n key record)

end Registry

end RecordSql
