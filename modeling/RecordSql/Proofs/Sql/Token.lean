import RecordSql.Flavor.Features
import RecordSql.Proofs.Number.Digits
import RecordSql.Proofs.Text.Enclosed

/-! # Tokens of a statement

A text is read the way the database of a flavor reads it: quoted identifiers, literals between
single quotes, markers of parameters, and each other character as a token of its own. A text that
stands for tokens does so in front of every text that breaks off the token before it.
-/

namespace RecordSql

/-- A token of a statement; a quote that is not closed takes in the rest of the text. -/
inductive Token
  | identifier (name : String)
  | literal (text : String)
  | marker (number : Option Nat)
  | symbol (c : Char)
  | unclosed
  deriving DecidableEq

def Token.symbols (s : String) : List Token :=
  s.toList.map symbol

namespace Flavor

def readQuoted (closing : Char) (make : String → Token) (s : List Char) : Token × List Char :=
  match Text.readEnclosed? closing s with
  | some (text, rest) => (make (String.ofList text), rest)
  | none => (.unclosed, [])

def readMarker (f : Flavor) (c : Char) (s : List Char) : Token × List Char :=
  match f.placeholder with
  | .plain => (if c = '?' then .marker none else .symbol c, s)
  | .numbered mark =>
    if c = mark then
      match Number.readDigits? (s.takeWhile Char.isDigit) with
      | some n => (.marker n, s.dropWhile Char.isDigit)
      | none => (.symbol c, s)
    else (.symbol c, s)

def readToken (f : Flavor) (c : Char) (s : List Char) : Token × List Char :=
  if c = f.opening then readQuoted f.closing .identifier s
  else if c = '\'' then readQuoted '\'' .literal s
  else f.readMarker c s

theorem readQuoted_length (closing : Char) (make : String → Token) (s : List Char) :
    (readQuoted closing make s).2.length ≤ s.length := by
  unfold readQuoted
  split
  · next h => exact Nat.le_of_lt (Text.readEnclosed?_length h)
  · exact Nat.zero_le _

theorem readMarker_length (f : Flavor) (c : Char) (s : List Char) :
    (f.readMarker c s).2.length ≤ s.length := by
  unfold readMarker
  split
  · exact Nat.le_refl _
  · split
    · split
      · exact (List.dropWhile_suffix _).length_le
      · exact Nat.le_refl _
    · exact Nat.le_refl _

theorem readToken_length (f : Flavor) (c : Char) (s : List Char) :
    (f.readToken c s).2.length ≤ s.length := by
  unfold readToken
  split
  · exact readQuoted_length ..
  · split
    · exact readQuoted_length ..
    · exact readMarker_length ..

def lex (f : Flavor) : List Char → List Token
  | [] => []
  | c :: s => (f.readToken c s).1 :: f.lex (f.readToken c s).2
termination_by s => s.length
decreasing_by exact Nat.lt_succ_of_le (f.readToken_length c s)

def tokens (f : Flavor) (s : String) : List Token :=
  f.lex s.toList

@[simp] theorem lex_nil (f : Flavor) : f.lex [] = [] := by rw [lex]

theorem lex_cons (f : Flavor) (c : Char) (s : List Char) :
    f.lex (c :: s) = (f.readToken c s).1 :: f.lex (f.readToken c s).2 := by rw [lex]

/-! ## Texts side by side -/

/-- Decide whether a quoted token and a marker have come to their end in front of a character. -/
def breaks (c : Char) : Bool :=
  c ∉ ['`', '"', ']', '\''] && !c.isDigit

def Breaks (s : List Char) : Prop :=
  ∀ c ∈ s.head?, breaks c = true

variable {f : Flavor} {b s : List Char} {c : Char}

theorem Breaks.head?_ne_closing (hb : Breaks b) : b.head? ≠ some f.closing :=
  fun h => absurd (hb _ h) (by cases f <;> decide)

theorem Breaks.head?_ne_quote (hb : Breaks b) : b.head? ≠ some '\'' :=
  fun h => absurd (hb _ h) (by decide)

theorem Breaks.isDigit_eq_false (hb : Breaks b) : ∀ c ∈ b.head?, c.isDigit = false :=
  fun c hc => by simpa [breaks] using (Bool.and_eq_true_iff.mp (hb c hc)).2

theorem readQuoted_append {closing : Char} {make : String → Token} (hb : b.head? ≠ some closing)
    (h : (readQuoted closing make s).1 ≠ .unclosed) :
    readQuoted closing make (s ++ b) =
      ((readQuoted closing make s).1, (readQuoted closing make s).2 ++ b) := by
  unfold readQuoted at h ⊢
  split at h
  · next ht => rw [Text.readEnclosed?_append ht hb]
  · exact absurd rfl h

theorem readMarker_append (hb : ∀ c ∈ b.head?, c.isDigit = false) :
    f.readMarker c (s ++ b) = ((f.readMarker c s).1, (f.readMarker c s).2 ++ b) := by
  unfold readMarker
  rw [Number.takeWhile_isDigit_append hb, Number.dropWhile_isDigit_append hb]
  split
  · rfl
  · split
    · split <;> rfl
    · rfl

theorem readMarker_ne_unclosed : (f.readMarker c s).1 ≠ .unclosed := by
  unfold readMarker
  split
  · split <;> simp
  · split
    · split <;> simp
    · simp

/-- A token that has come to its end does not depend on what follows. -/
theorem readToken_append (hb : Breaks b) (h : (f.readToken c s).1 ≠ .unclosed) :
    f.readToken c (s ++ b) = ((f.readToken c s).1, (f.readToken c s).2 ++ b) := by
  by_cases hc : c = f.opening
  · simp only [readToken, if_pos hc] at h ⊢
    exact readQuoted_append hb.head?_ne_closing h
  · by_cases hq : c = '\''
    · simp only [readToken, if_neg hc, if_pos hq] at h ⊢
      exact readQuoted_append hb.head?_ne_quote h
    · simp only [readToken, if_neg hc, if_neg hq]
      exact readMarker_append hb.isDigit_eq_false

theorem readQuoted_append_unclosed {closing : Char} {make : String → Token} (hb : closing ∉ b)
    (hm : ∀ text, make text ≠ .unclosed) (h : (readQuoted closing make s).1 = .unclosed) :
    readQuoted closing make (s ++ b) = (.unclosed, []) ∧
      readQuoted closing make s = (.unclosed, []) := by
  unfold readQuoted at h ⊢
  split at h
  · exact absurd h (hm _)
  · next hn => simp [Text.readEnclosed?_append_none hn hb]

/-- A quote that is not closed stays open in front of a text without quotes. -/
theorem readToken_append_unclosed (hb : f.closing ∉ b ∧ '\'' ∉ b)
    (h : (f.readToken c s).1 = .unclosed) :
    f.readToken c (s ++ b) = (.unclosed, []) ∧ f.readToken c s = (.unclosed, []) := by
  by_cases hc : c = f.opening
  · simp only [readToken, if_pos hc] at h ⊢
    exact readQuoted_append_unclosed hb.1 (by simp) h
  · by_cases hq : c = '\''
    · simp only [readToken, if_neg hc, if_pos hq] at h ⊢
      exact readQuoted_append_unclosed hb.2 (by simp) h
    · simp only [readToken, if_neg hc, if_neg hq] at h
      exact absurd h readMarker_ne_unclosed

end Flavor

end RecordSql
