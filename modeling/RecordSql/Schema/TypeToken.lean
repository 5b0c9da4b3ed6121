import RecordSql.Number.Numeral
import RecordSql.Text.Blank

/-! # Type tokens

A type token is a name with an optional argument in parentheses, such as `varchar(64)`. The argument
ends at the first closing parenthesis, and what follows it belongs to no part of the token.
-/

namespace RecordSql

structure TypeToken where
  name : String
  argument : Option String

/-- Split a token; there is none when an opening parenthesis is not closed. -/
def TypeToken.read? (s : String) : Option TypeToken :=
  let (name, rest) := s.toList.span (· != '(')
  match rest with
  | [] => some ⟨s, none⟩
  | _ :: rest =>
    let (argument, rest) := rest.span (· != ')')
    if rest.isEmpty then none else some ⟨String.ofList name, some (String.ofList argument)⟩

/-- A length and a second length, zero when there is none. -/
structure Lengths where
  first : UInt32
  second : UInt32
  deriving DecidableEq

def Lengths.read? (s : String) : Option Lengths :=
  match (s.toList.splitOn ',').map fun part => Text.trim (String.ofList part) with
  | [first] => (Number.readUInt32? first).map (⟨·, 0⟩)
  | [first, second] => do
    let first ← Number.readUInt32? first
    let second ← Number.readUInt32? second
    pure ⟨first, second⟩
  | _ => none

end RecordSql
