/-! # Enclosed text

A text is enclosed between two characters by doubling each closing character in it, so that the end
of the enclosed text can be told without its length.
-/

namespace RecordSql.Text

/-- Copy a text behind another one with a character replaced. The characters still to be looked at
begin at `here`, and the piece from `start` on is copied once the character or the end is found. -/
def copyReplacing (search : Char) (replacement s : String) :
    String → (start here : String.Pos.Raw) → List Char → String
  | out, start, _, [] => out ++ start.extract s s.rawEndPos
  | out, start, here, c :: rest =>
    if c = search then
      copyReplacing search replacement s (out ++ start.extract s here ++ replacement)
        (here + c) (here + c) rest
    else copyReplacing search replacement s out start (here + c) rest

def replaceChar (search : Char) (replacement : String) (s : String) : String :=
  copyReplacing search replacement s "" 0 0 s.toList

def double (c : Char) (s : String) : String :=
  replaceChar c (String.ofList [c, c]) s

def enclose (opening closing : Char) (s : String) : String :=
  String.ofList (opening :: (double closing s).toList ++ [closing])

def literal (s : String) : String :=
  enclose '\'' '\'' s

end RecordSql.Text
