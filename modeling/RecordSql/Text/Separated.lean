/-! # Separated text

Values are written one after the other into a text, with a separator in front of each value but
the first. There is none behind a value that wrote nothing.
-/

namespace RecordSql.Text

/-- Write the remaining values; `mark` is the size of the text before the last value written. -/
def appendSeparatedFrom {α : Type} (write : String → α → String) (separator : String) :
    Nat → String → List α → String
  | _, out, [] => out
  | mark, out, value :: rest =>
    let out := if mark < out.utf8ByteSize then out ++ separator else out
    appendSeparatedFrom write separator out.utf8ByteSize (write out value) rest

def appendSeparated {α : Type} (out : String) (values : List α) (write : String → α → String)
    (separator : String) : String :=
  appendSeparatedFrom write separator out.utf8ByteSize out values

end RecordSql.Text
