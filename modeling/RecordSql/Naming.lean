/-! # Naming conventions

A convention turns the names of records and fields into names of tables and columns, and back. The
snake convention writes `UserName` as `user_name`.
-/

namespace RecordSql

/-- Put an underscore in front of each capital but the first one met, and make it small. -/
def snakeFrom : Bool → List Char → List Char
  | _, [] => []
  | met, c :: s =>
    if c.isUpper then
      if met then '_' :: c.toLower :: snakeFrom true s else c.toLower :: snakeFrom true s
    else c :: snakeFrom met s

/-- Drop the underscores and capitalize the character after each of them. -/
def titleFrom : Bool → List Char → List Char
  | _, [] => []
  | capital, c :: s =>
    if c = '_' then titleFrom true s
    else (if capital then c.toUpper else c) :: titleFrom false s

def snakeCase (name : String) : String :=
  String.ofList (snakeFrom false name.toList)

def titleCase (name : String) : String :=
  String.ofList (titleFrom true name.toList)

structure Naming where
  toTable : String → String
  toRecord : String → String

namespace Naming

def same : Naming := ⟨id, id⟩

def snake : Naming := ⟨snakeCase, titleCase⟩

end Naming

end RecordSql
