import RecordSql.Text.Case.Lower
import RecordSql.Text.Case.Upper
import RecordSql.Text.Case.Context
import RecordSql.Text.Ranges

/-! # Upper and lower case

Texts are put into lower or upper case by the full case mappings: a letter can become several, and a
capital sigma becomes a final sigma at the end of a word. Words of the language of annotations and
column types are compared without regard to the case of the letters `a` to `z` alone.
-/

namespace RecordSql.Text
open Case

/-- The lower case of one character outside of any context. -/
def lowerOf (c : Char) : List Char :=
  if c.toNat < 128 then [c.toLower]
  else if c = '\u0130' then ['i', '\u0307']
  else [(counterpart? lowerRuns c).getD c]

def upperOf (c : Char) : List Char :=
  if c.toNat < 128 then [c.toUpper]
  else match upperExpansions.lookup c.toNat with
    | some letters => letters.map Char.ofNat
    | none => [(counterpart? upperRuns c).getD c]

/-- Decide whether the first character that is not ignorable is cased. -/
def meetsCased (s : List Char) : Bool :=
  match s.dropWhile (inRanges ignorableRanges) with
  | [] => false
  | c :: _ => inRanges casedRanges c

/-- The lower case of a list; `before` holds the characters in front of it, nearest first. -/
def lowerFrom : List Char → List Char → List Char
  | _, [] => []
  | before, c :: s =>
    (if c = 'Σ' then [if meetsCased before && !meetsCased s then 'ς' else 'σ'] else lowerOf c) ++
      lowerFrom (c :: before) s

def toLower (s : String) : String :=
  String.ofList (lowerFrom [] s.toList)

def toUpper (s : String) : String :=
  String.ofList (s.toList.flatMap upperOf)

/-- Put the letters `A` to `Z` of a text into lower case. -/
def plainLower (s : String) : String :=
  s.map Char.toLower

/-- Decide whether two texts differ at most in the case of the letters `a` to `z`. -/
def sameLetters (s t : String) : Bool :=
  s.toList.map Char.toLower == t.toList.map Char.toLower

theorem sameLetters_iff {s t : String} :
    sameLetters s t = true ↔ s.toList.map Char.toLower = t.toList.map Char.toLower := by
  simp [sameLetters]

theorem lowerFrom_of_plain (before s : List Char) (h : ∀ c ∈ s, c.toNat < 128) :
    lowerFrom before s = s.map Char.toLower := by
  induction s generalizing before with
  | nil => rfl
  | cons c s ih =>
    have hc : c ≠ 'Σ' := by
      rintro rfl
      exact absurd (h _ List.mem_cons_self) (by decide)
    simp [lowerFrom, hc, lowerOf, h c List.mem_cons_self,
      ih (c :: before) fun d hd => h d (List.mem_cons_of_mem _ hd)]

end RecordSql.Text
