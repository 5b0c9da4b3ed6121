import RecordSql.Record.Field
import RecordSql.Text.Blank
import RecordSql.Text.Letters

/-! # Declared fields

A field of a record is declared with a type and attributes, one of which can hold its annotation.
The kind of the field is inferred from the type: wrappers around a type are looked through, and a
field that is extended has the type of the nested record.
-/

namespace RecordSql

mutual

/-- A type as it is declared; only the text is kept of a form that nothing is inferred from. -/
inductive DeclaredType
  | path (segments : List Segment)
  | reference (t : DeclaredType)
  | slice (t : DeclaredType)
  | array (t : DeclaredType)
  | paren (t : DeclaredType)
  | group (t : DeclaredType)
  | tuple (ts : List DeclaredType)
  | other (text : String)

inductive Segment
  | mk (name : String) (arguments : Arguments)

inductive Arguments
  | none
  | angle (arguments : List Argument)
  | call (inputs : List DeclaredType)

/-- An argument in angle brackets; only the text is kept of one that is neither a type nor a
lifetime. -/
inductive Argument
  | type (t : DeclaredType)
  | lifetime (name : String)
  | other (text : String)

end

def Argument.firstType? : List Argument → Option DeclaredType
  | [] => none
  | type t :: _ => some t
  | lifetime _ :: rest | other _ :: rest => firstType? rest

def Arguments.single? : Arguments → Option DeclaredType
  | angle arguments => Argument.firstType? arguments
  | _ => Option.none

namespace DeclaredType

def isByte : DeclaredType → Bool
  | path [.mk name .none] => name = "u8"
  | _ => false

def kindOfName : String → Kind
  | "i8" | "i16" | "i32" | "u8" | "u16" | "u32" => .int
  | "i64" | "u64" | "isize" | "usize" => .bigInt
  | "f32" => .float
  | "f64" => .double
  | "bool" => .bool
  | "String" | "str" | "char" => .text
  | "PrimitiveDateTime" | "OffsetDateTime" | "Date" | "Time" => .time
  | _ => .other

def wrappers : List String :=
  ["Option", "Box", "Rc", "Arc", "Cow"]

end DeclaredType

mutual

def DeclaredType.kind : DeclaredType → Kind
  | .path segments => Segment.lastKind segments
  | .reference t => t.kind
  | .group t => t.kind
  | .paren t => t.kind
  | .slice t => if t.isByte then .bytes else .other
  | .array t => if t.isByte then .bytes else .other
  | .tuple _ | .other _ => .other

def Segment.lastKind : List Segment → Kind
  | [] => .other
  | [segment] => segment.kind
  | _ :: rest => Segment.lastKind rest

def Segment.kind : Segment → Kind
  | .mk name arguments =>
    if name ∈ DeclaredType.wrappers then arguments.kind
    else if name = "Vec" && arguments.single?.any DeclaredType.isByte then .bytes
    else DeclaredType.kindOfName name

def Arguments.kind : Arguments → Kind
  | .none => .other
  | .angle arguments => Argument.firstKind arguments
  | .call _ => .other

def Argument.firstKind : List Argument → Kind
  | [] => .other
  | argument :: rest => argument.kindBefore (Argument.firstKind rest)

/-- The kind of the values of an argument, which is that of the rest for one that is no type. -/
def Argument.kindBefore (rest : Kind) : Argument → Kind
  | .type t => t.kind
  | .lifetime _ | .other _ => rest

end

mutual

def DeclaredType.required : DeclaredType → DeclaredType
  | .path segments => (Segment.lastRequired? segments).getD (.path segments)
  | t => t

def Segment.lastRequired? : List Segment → Option DeclaredType
  | [] => none
  | [segment] => segment.required?
  | _ :: rest => Segment.lastRequired? rest

def Segment.required? : Segment → Option DeclaredType
  | .mk name arguments => if name = "Option" then arguments.required? else none

def Arguments.required? : Arguments → Option DeclaredType
  | .angle arguments => Argument.firstRequired? arguments
  | _ => Option.none

def Argument.firstRequired? : List Argument → Option DeclaredType
  | [] => none
  | argument :: rest => (argument.required?).or (Argument.firstRequired? rest)

def Argument.required? : Argument → Option DeclaredType
  | .type t => some t.required
  | .lifetime _ | .other _ => none

end

def commaSeparated (texts : List String) : String :=
  ",".intercalate texts

/-- Put a comma behind each text but the last. -/
def withCommas {α : Type} : List (α × String) → List (α × String)
  | [] => []
  | [last] => [last]
  | (a, s) :: rest => (a, s ++ ",") :: withCommas rest

/-- Write arguments with the lifetimes in front; each keeps the comma behind it, and one is added
where the lifetimes end without. -/
def writeArguments (arguments : List (Bool × String)) : String :=
  let written := withCommas arguments
  let lifetimes := (written.filter (·.1)).map (·.2)
  let types := (written.filter (!·.1)).map (·.2)
  let closed := (arguments.getLast?.map (·.1)).getD false
  String.join lifetimes ++ (if closed && !types.isEmpty then "," else "") ++ String.join types

mutual

def DeclaredType.text : DeclaredType → String
  | .path segments => "::".intercalate (Segment.texts segments)
  | .reference t => "&" ++ t.text
  | .slice t => "[" ++ t.text ++ "]"
  | .array t => "[" ++ t.text ++ ";4]"
  | .paren t => "(" ++ t.text ++ ")"
  | .group t => t.text
  | .tuple ts =>
    "(" ++ commaSeparated (DeclaredType.texts ts) ++ (if ts.length = 1 then "," else "") ++ ")"
  | .other text => text

def DeclaredType.texts : List DeclaredType → List String
  | [] => []
  | t :: ts => t.text :: DeclaredType.texts ts

def Segment.texts : List Segment → List String
  | [] => []
  | s :: ss => s.text :: Segment.texts ss

def Segment.text : Segment → String
  | .mk name arguments => name ++ arguments.text

def Arguments.text : Arguments → String
  | .none => ""
  | .angle arguments => "<" ++ writeArguments (Argument.texts arguments) ++ ">"
  | .call inputs => "(" ++ commaSeparated (DeclaredType.texts inputs) ++ ")"

def Argument.texts : List Argument → List (Bool × String)
  | [] => []
  | a :: as => a.text :: Argument.texts as

def Argument.text : Argument → Bool × String
  | .type t => (false, t.text)
  | .lifetime name => (true, "'" ++ name)
  | .other text => (false, text)

end

/-- An attribute by its path and the text that is its only literal, if it holds one. -/
structure Attribute where
  path : String
  literal : Option String

structure DeclaredField where
  name : Option String
  attributes : List Attribute
  type : DeclaredType

inductive InferredKind
  | plain (k : Kind)
  | record (t : DeclaredType)

structure FieldMetadata where
  name : String
  line : Option String
  kind : InferredKind

inductive DeclarationFault
  | unnamed
  | notLiteral
  | repeated
  deriving DecidableEq

def DeclarationFault.message : DeclarationFault → String
  | unnamed => "`Mapped` can only be derived on structs with named fields"
  | notLiteral =>
    "Error while parsing `orm`, use it like: `#[orm(\"varchar(64) not null\")]`"
  | repeated => "A field can carry only one `orm` annotation"

namespace DeclaredField

/-- Find the one annotation among attributes, behind the annotation found so far. -/
def findLine (found : Option String) : List Attribute → Except DeclarationFault (Option String)
  | [] => .ok found
  | a :: rest =>
    if a.path != "orm" then findLine found rest
    else match a.literal, found with
      | none, _ => .error .notLiteral
      | some _, some _ => .error .repeated
      | some text, none => findLine (some text) rest

def extends? (line : Option String) : Bool :=
  line.any fun text => "extends" ∈ Text.words (Text.toLower text)

def plainName (name : String) : String :=
  match name.toList with
  | 'r' :: '#' :: rest => String.ofList rest
  | _ => name

def read (f : DeclaredField) : Except DeclarationFault FieldMetadata :=
  match f.name with
  | none => .error .unnamed
  | some name => do
    let line ← findLine none f.attributes
    let kind := if extends? line then .record f.type.required else .plain f.type.kind
    return ⟨plainName name, line, kind⟩

end DeclaredField

end RecordSql
