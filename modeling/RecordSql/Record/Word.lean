import RecordSql.Failure
import RecordSql.Schema.Column

/-! # Words of annotations

An annotation is a line of words. A word is a fixed one, `index` or `unique` with or without a
group, a type with or without lengths, or else a name.
-/

namespace RecordSql

inductive Word
  | exclude
  | extends
  | readOnly
  | writeOnly
  | primaryKey
  | not
  | null
  | autoIncrement
  | default
  | type (t : ColumnType) (lengths : Option Lengths)
  | index (group : Option String)
  | unique (group : Option String)
  | name (s : String)
  deriving DecidableEq

namespace Word

def fixed? : String → Option Word
  | "-" => some exclude
  | "extends" => some .extends
  | "<-" => some readOnly
  | "->" => some writeOnly
  | "pk" => some primaryKey
  | "not" => some not
  | "null" => some null
  | "autoincr" => some autoIncrement
  | "default" => some default
  | _ => none

def readGroup : Option String → Except WordFault (Option String)
  | none => .ok none
  | some argument =>
    let group := Text.trim argument
    if group = "" then .error .emptyGroup else .ok (some group)

/-- The meaning of the token of a type, or of a name without parentheses. -/
def readType (word : String) (token : TypeToken) : Except WordFault Word :=
  match ColumnType.lookup? token.name, token.argument with
  | some t, none => .ok (type t none)
  | some t, some argument =>
    match Lengths.read? argument with
    | some lengths => .ok (type t (some lengths))
    | none => .error .badLength
  | none, some _ => .error .unknownType
  | none, none => .ok (name word)

def readToken (word : String) : Except WordFault Word :=
  match TypeToken.read? word with
  | none => .error .openParenthesis
  | some token =>
    if token.name = "index" then (readGroup token.argument).map index
    else if token.name = "unique" then (readGroup token.argument).map unique
    else readType word token

/-- The meaning of a word in small letters; `field` is the one to report. -/
def classify (field word : String) : Except Failure Word :=
  match fixed? word with
  | some w => .ok w
  | none => (readToken word).mapError (Failure.malformed field word)

end Word

end RecordSql
