import RecordSql.Failure

/-! # Stores

A store keeps values under keys.
-/

namespace RecordSql

structure Store (α : Type) where
  entries : List (String × α)

namespace Store
variable {α : Type}

def empty : Store α := ⟨[]⟩

def size (s : Store α) : Nat := s.entries.length

def erase (s : Store α) (key : String) : Store α :=
  ⟨s.entries.filter (·.1 != key)⟩

def insert (s : Store α) (key : String) (value : α) : Store α :=
  ⟨(key, value) :: (s.erase key).entries⟩

def get (s : Store α) (key : String) : Except Failure α :=
  match s.entries.lookup key with
  | some value => .ok value
  | none => .error (.of (.keyNotFound key))

end Store

end RecordSql
