import RecordSql.Text.Normal.Composite
import RecordSql.Text.Normal.Order

/-! # Normal form

In the normal form of a text each character with marks is composed as far as possible, and the
marks left are in order. Characters that are never composed again are no concern of it.
-/

namespace RecordSql.Text.Normal

def parts : Nat → Char → List Char
  | 0, c => [c]
  | depth + 1, c =>
    match split? c with
    | some (a, b) => parts depth a ++ [b]
    | none => [c]

/-- Compose `first` with marks behind it; `kept` are those that stay, last first. A mark of the
class of the last one that stays, or of a lower one, stays as well. -/
def compose (first : Char) (kept : List Char) : List Char → List Char
  | [] => first :: kept.reverse
  | c :: s =>
    let free := match kept with
      | [] => true
      | d :: _ => classOf d < classOf c
    match if free then join? first c else none with
    | some joined => compose joined kept s
    | none =>
      if classOf c = 0 then first :: kept.reverse ++ compose c [] s
      else compose first (c :: kept) s

/-- The normal form of a list; no character is composed of more than four. -/
def ofList (s : List Char) : List Char :=
  match order (s.flatMap (parts 3)) with
  | [] => []
  | c :: s => compose c [] s

end RecordSql.Text.Normal
