import RecordSql.Failure

/-! # Journal

A journal takes down what happens while it is kept; nothing is taken down, and no text is made,
while it is not.
-/

namespace RecordSql

inductive Level
  | error
  | info
  | debug
  | trace
  deriving DecidableEq

structure Journal where
  kept : Bool
  entries : List (Level × String)

namespace Journal

def empty (kept : Bool) : Journal := ⟨kept, []⟩

def note (j : Journal) (level : Level) (text : String) : Journal :=
  if j.kept then { j with entries := j.entries ++ [(level, text)] } else j

/-- An action that writes to the journal and can fail; the entries before the failure stay. -/
abbrev Act (α : Type) := ExceptT Failure (StateM Journal) α

def refuse {α : Type} (f : Failure) : Act α := do
  modify (·.note .error f.message)
  throw f

end Journal

end RecordSql
