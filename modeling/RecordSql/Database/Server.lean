import RecordSql.Database.Journal
import RecordSql.Row
import RecordSql.Sql.Compiled

/-! # Servers

A server speaks a dialect and answers each call with a stream of rows, effects and errors. It is
known by the answers it has in store; a call that finds none left is answered by an empty stream.
-/

namespace RecordSql

inductive Item
  | row (r : Row)
  | affected (a : Affected)
  | error (f : Failure)

namespace Item

def rows : List Item → Except Failure (List Row)
  | [] => .ok []
  | row r :: items => (rows items).map (r :: ·)
  | affected _ :: items => rows items
  | error f :: _ => .error f

def effects : List Item → Except Failure (List Affected)
  | [] => .ok []
  | row _ :: items => effects items
  | affected a :: items => (effects items).map (a :: ·)
  | error f :: _ => .error f

end Item

/-- A server with its answers in store and the calls it has received. -/
structure Server where
  dialect : Dialect
  answers : List (List Item)
  calls : List Call

namespace Server

def run (s : Server) (call : Call) : List Item × Server :=
  (s.answers.headD [], { s with answers := s.answers.tail, calls := s.calls ++ [call] })

end Server

structure Link where
  server : Server
  journal : Journal

namespace Link

/-- An action that calls the server and can fail; the calls before the failure stay made. -/
abbrev Act (α : Type) := ExceptT Failure (StateM Link) α

def note (level : Level) (text : String) : Act Unit :=
  modify fun l => { l with journal := l.journal.note level text }

def withJournal {α : Type} (act : Journal.Act α) : Act α := do
  let l ← get
  let (answer, journal) := act.run.run l.journal
  set { l with journal := journal }
  answer

def send (call : Call) : Act (List Item) := do
  let l ← get
  let (items, server) := l.server.run call
  set { l with server := server }
  return items

def fetch (call : Call) : Act (List Row) := do
  Item.rows (← send call)

def execute (call : Call) : Act Affected := do
  return Affected.zero.extend (← Item.effects (← send call))

end Link

end RecordSql
