import RecordSql.Naming

/-! # Remembered names

A memo asks its convention for each name once in each direction, and answers from what it remembers
after that.
-/

namespace RecordSql.Naming

structure Memo where
  tables : List (String × String)
  records : List (String × String)
  asked : Nat

namespace Memo

def empty : Memo := ⟨[], [], 0⟩

/-- The answer remembered for a name, or else the one that its question gets; with the names that are
remembered then, and the number of questions asked for it. -/
def fetch (names : List (String × String)) (name : String) (question : String → String) :
    String × List (String × String) × Nat :=
  match names.lookup name with
  | some answer => (answer, names, 0)
  | none =>
    let answer := question name
    (answer, (name, answer) :: names, 1)

def toTable (n : Naming) (m : Memo) (name : String) : String × Memo :=
  let (answer, tables, questions) := fetch m.tables name n.toTable
  (answer, { m with tables := tables, asked := m.asked + questions })

def toRecord (n : Naming) (m : Memo) (name : String) : String × Memo :=
  let (answer, records, questions) := fetch m.records name n.toRecord
  (answer, { m with records := records, asked := m.asked + questions })

end Memo

end RecordSql.Naming
