import RecordSql.Failure
import RecordSql.Text.Letters
import RecordSql.Value

/-! # Rows and effects

What a database answers with: rows of values under labels, and the effects of changes, which add up
over the statements of a script.
-/

namespace RecordSql

structure Row where
  labels : List String
  values : List Value
  deriving DecidableEq

namespace Row

/-- The value at an index, which is null behind the end of the row. -/
def get (r : Row) (i : Nat) : Value :=
  r.values.getD i .null

/-- The value under the first label that is the name in letters of any case. -/
def column? (r : Row) (name : String) : Except Halt (Option Value) :=
  match r.labels.findIdx? fun label => Text.sameLetters label name with
  | none => .ok none
  | some i =>
    match r.values[i]? with
    | some v => .ok (some v)
    | none => .error .missingValue

end Row

structure Affected where
  rows : Nat
  lastId : Option Nat
  deriving DecidableEq

namespace Affected

def zero : Affected := ⟨0, none⟩

def add (a b : Affected) : Affected :=
  ⟨a.rows + b.rows, b.lastId.or a.lastId⟩

def extend (a : Affected) (items : List Affected) : Affected :=
  items.foldl add a

theorem extend_append (a : Affected) (xs ys : List Affected) :
    a.extend (xs ++ ys) = (a.extend xs).extend ys :=
  List.foldl_append

end Affected

end RecordSql
