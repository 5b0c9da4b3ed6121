import RecordSql.Flavor.Features
import RecordSql.Text.Separated

/-! # Changes of rows

The statements that insert, update and delete rows. The columns they write are followed by the
markers of as many parameters, numbered on from a first position.
-/

namespace RecordSql.Flavor

def appendCondition (out condition : String) : String :=
  if condition = "" then out else out ++ " WHERE " ++ condition

def appendInsert (f : Flavor) (out table : String) (columns : List String) (first : Nat) :
    String :=
  let out := f.appendIdentifier (out ++ "INSERT INTO ") table ++ " ("
  let out := Text.appendSeparated out columns f.appendIdentifier ", " ++ ") VALUES ("
  Text.appendSeparated out (List.range' first columns.length) f.appendMarker ", " ++ ");"

def appendAssignment (f : Flavor) (out : String) (column : String × Nat) : String :=
  f.appendMarker (f.appendIdentifier out column.1 ++ " = ") column.2

def appendUpdate (f : Flavor) (out table : String) (columns : List String) (first : Nat)
    (condition : String) : String :=
  let out := f.appendIdentifier (out ++ "UPDATE ") table ++ " SET "
  let out := Text.appendSeparated out (columns.zipIdx first) f.appendAssignment ", "
  appendCondition out condition ++ ";"

def appendDelete (f : Flavor) (out table condition : String) : String :=
  appendCondition (f.appendIdentifier (out ++ "DELETE FROM ") table) condition ++ ";"

end RecordSql.Flavor
