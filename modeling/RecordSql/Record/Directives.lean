import RecordSql.Record.Word

/-! # Annotations

An annotation collects the meanings of its words from left to right. `not` takes `null` with it and
`default` the word after it; a name equal to the default read so far is no name.
-/

namespace RecordSql

structure Directives where
  exclude : Bool
  embed : Bool
  direction : Direction
  primaryKey : Bool
  nullable : Option Bool
  autoIncrement : Bool
  default : Option String
  type : Option ColumnType
  lengths : Option Lengths
  index : Grouping
  unique : Grouping
  name : Option String
  deriving DecidableEq

namespace Directives

def empty : Directives :=
  ⟨false, false, .both, false, none, false, none, none, none, .none, .none, none⟩

def grouping : Option String → Grouping
  | none => .single
  | some group => .named group

def add (a : Directives) : Word → Directives
  | .exclude => { a with exclude := true }
  | .extends => { a with embed := true }
  | .readOnly => { a with direction := .readOnly }
  | .writeOnly => { a with direction := .writeOnly }
  | .primaryKey => { a with primaryKey := true, nullable := some false }
  | .null => { a with nullable := some true }
  | .autoIncrement => { a with autoIncrement := true }
  | .type t lengths => { a with type := some t, lengths := lengths }
  | .index group => { a with index := grouping group }
  | .unique group => { a with unique := grouping group }
  | .name s => if a.default = some s then a else { a with name := some s }
  | .not | .default => a

def addWords (field : String) (a : Directives) : List String → Except Failure Directives
  | [] => .ok a
  | word :: rest => do
    match ← Word.classify field word with
    | .not =>
      match rest with
      | "null" :: rest => addWords field { a with nullable := some false } rest
      | _ => .error (.malformed field word .loneNot)
    | .default =>
      match rest with
      | literal :: rest => addWords field { a with default := some literal } rest
      | [] => .error (.malformed field word .loneDefault)
    | w => addWords field (a.add w) rest

/-- Read an annotation in letters of any case; `field` is the one to report. -/
def read (field text : String) : Except Failure Directives :=
  empty.addWords field (Text.words (Text.toLower text))

end Directives

end RecordSql
