import RecordSql.Text.Blank

/-! # Shortened text

A text for a log line holds the first 497 bytes, without the blanks at their end, and three points
when something was left out.
-/

namespace RecordSql.Text

/-- The characters within the first `size` bytes, if the cut falls between two characters. -/
def takeBytes? : Nat → List Char → Option (List Char)
  | _, [] => some []
  | size, c :: s =>
    if size = 0 then some []
    else if size < c.utf8Size then none
    else (takeBytes? (size - c.utf8Size) s).map (c :: ·)

def shortSize : Nat := 497

def shorten? (s : String) : Option String :=
  (takeBytes? shortSize s.toList).map fun kept =>
    String.ofList (dropEnd isBlank kept) ++ if shortSize < s.utf8ByteSize then "..." else ""

end RecordSql.Text
