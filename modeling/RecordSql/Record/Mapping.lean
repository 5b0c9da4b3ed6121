import RecordSql.Naming
import RecordSql.Record.Directives
import RecordSql.Record.Field
import RecordSql.Schema.Table

/-! # Mapping records to tables

Each field of a record gives one column; an excluded field gives none, and a field that is extended
gives the columns of the record nested in it. A field without an annotation that is named `id` is
the key of its table.
-/

namespace RecordSql

def fieldPath (outer name : String) : String :=
  if outer = "" then name else outer ++ "." ++ name

def Column.ofField (n : Naming) (path name : String) (kind : Kind) : Column :=
  let c := { Column.ofType (n.toTable name) (.ofKind kind) with field := path }
  if c.name = "id" then { c with primaryKey := true, autoIncrement := true, nullable := false }
  else c

def Column.ofDirectives (n : Naming) (path name : String) (kind : Kind) (a : Directives) : Column :=
  let c := Column.ofType (a.name.getD (n.toTable name)) (a.type.getD (.ofKind kind))
  let c := match a.lengths with
    | some lengths => c.setLengths lengths
    | none => c
  quoteDefault { c with
    field := path
    nullable := a.nullable.getD c.nullable
    primaryKey := a.primaryKey
    autoIncrement := a.autoIncrement
    default := a.default
    index := a.index
    unique := a.unique
    direction := a.direction }

mutual

def Field.columns (n : Naming) (outer : String) : Field → Except Failure (List Column)
  | .mk name kind none => .ok [Column.ofField n (fieldPath outer name) name kind]
  | .mk name kind (some text) => do
    let path := fieldPath outer name
    let a ← Directives.read path text
    if a.exclude then .ok []
    else if a.embed then kind.columns n path
    else .ok [Column.ofDirectives n path name kind a]

def Kind.columns (n : Naming) (path : String) : Kind → Except Failure (List Column)
  | .composite fields => fieldColumns n path fields
  | _ => .error (.malformed path "extends" .notRecord)

def fieldColumns (n : Naming) (outer : String) : List Field → Except Failure (List Column)
  | [] => .ok []
  | f :: fs => do
    let first ← f.columns n outer
    let rest ← fieldColumns n outer fs
    .ok (first ++ rest)

end

def RecordType.table (n : Naming) (r : RecordType) : Except Failure Table := do
  let columns ← fieldColumns n "" r.fields
  (Table.empty (n.toTable r.name)).addColumns columns

end RecordSql
