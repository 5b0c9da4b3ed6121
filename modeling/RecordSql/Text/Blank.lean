/-! # Blank characters

Blanks are the characters with the property White_Space. Text is trimmed at its ends and cut into
words at blanks; a word is never empty and holds no blank.
-/

namespace RecordSql.Text

/-- Decide the property White_Space. -/
def isBlank (c : Char) : Bool :=
  ('\t' ≤ c && c ≤ '\r') || c = ' ' || c = '\u0085' || c = '\u00a0' || c = '\u1680' ||
    ('\u2000' ≤ c && c ≤ '\u200a') || c = '\u2028' || c = '\u2029' || c = '\u202f' ||
    c = '\u205f' || c = '\u3000'

def dropEnd (p : Char → Bool) (s : List Char) : List Char :=
  (s.reverse.dropWhile p).reverse

def trimEndOf (p : Char → Bool) (s : String) : String :=
  String.ofList (dropEnd p s.toList)

def trimOf (p : Char → Bool) (s : String) : String :=
  String.ofList (dropEnd p (s.toList.dropWhile p))

def trim (s : String) : String :=
  trimOf isBlank s

def closeWord (word : List Char) (rest : List (List Char)) : List (List Char) :=
  if word.isEmpty then rest else word :: rest

/-- Cut a list at blanks into the word it starts inside of and the words after that. -/
def chunks : List Char → List Char × List (List Char)
  | [] => ([], [])
  | c :: s =>
    let (word, rest) := chunks s
    if isBlank c then ([], closeWord word rest) else (c :: word, rest)

def words (s : String) : List String :=
  let (word, rest) := chunks s.toList
  (closeWord word rest).map String.ofList

theorem chunks_noBlank (s : List Char) :
    (∀ c ∈ (chunks s).1, isBlank c = false) ∧
      ∀ w ∈ (chunks s).2, w ≠ [] ∧ ∀ c ∈ w, isBlank c = false := by
  induction s with
  | nil => simp [chunks]
  | cons c s ih =>
    by_cases h : isBlank c
    · by_cases hw : (chunks s).1 = []
      · simpa [chunks, h, closeWord, hw] using ih.2
      · simpa [chunks, h, closeWord, hw] using ih
    · simpa [chunks, h] using ih

end RecordSql.Text
