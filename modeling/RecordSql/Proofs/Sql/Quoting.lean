import RecordSql.Proofs.Sql.Token

/-! # Quoted names and literals

A name is quoted with the closing quotes in it doubled, and a literal with its single quotes.
Reading one gives back what was quoted and ends where the quoted text ends, in front of every text
that does not double the quote at the end.
-/

namespace RecordSql

namespace Flavor

variable {f : Flavor} {closing : Char} {make : String → Token} {rest : List Char}

/-- Read the first token of a text, and give back the text behind it. -/
def readFirst? (f : Flavor) (s : String) : Option (Token × String) :=
  match s.toList with
  | [] => none
  | c :: rest => some ((f.readToken c rest).1, String.ofList (f.readToken c rest).2)

theorem readFirst?_eq_some_iff {s : String} {c : Char} (hs : s.toList = c :: rest) {t : Token}
    {behind : String} :
    f.readFirst? s = some (t, behind) ↔ f.readToken c rest = (t, behind.toList) := by
  rw [readFirst?, hs, Option.some.injEq, Prod.mk.injEq, Prod.eq_iff_fst_eq_snd_eq,
    ← String.toList_inj, String.toList_ofList]

theorem readQuoted_double_iff (hm : Function.Injective make) (hu : ∀ text, make text ≠ .unclosed)
    (s : String) :
    readQuoted closing make ((Text.double closing s).toList ++ closing :: rest) = (make s, rest) ↔
      rest.head? ≠ some closing := by
  rw [← Text.readEnclosed?_double_eq_some_iff s, readQuoted]
  split
  · next text behind h =>
    rw [h, Option.some.injEq, Prod.mk.injEq, Prod.mk.injEq, hm.eq_iff, ← String.toList_inj,
      String.toList_ofList]
  · next h =>
    rw [h]
    exact iff_of_false (fun he => hu s (Prod.mk.inj he).1.symm) nofun

/-- A quoted name ends at its last quote unless the text behind it doubles that quote. -/
theorem readFirst?_quote_iff (name behind : String) :
    f.readFirst? (f.quote name ++ behind) = some (.identifier name, behind) ↔
      behind.toList.head? ≠ some f.closing := by
  have hs : (f.quote name ++ behind).toList =
      f.opening :: ((Text.double f.closing name).toList ++ f.closing :: behind.toList) := by
    simp [quote, Text.toList_enclose]
  rw [readFirst?_eq_some_iff hs, readToken, if_pos rfl]
  exact readQuoted_double_iff (fun _ _ h => Token.identifier.inj h) (by simp) name

theorem readFirst?_literal_iff (s behind : String) :
    f.readFirst? (Text.literal s ++ behind) = some (.literal s, behind) ↔
      behind.toList.head? ≠ some '\'' := by
  have hs : (Text.literal s ++ behind).toList =
      '\'' :: ((Text.double '\'' s).toList ++ '\'' :: behind.toList) := by
    simp [Text.literal, Text.toList_enclose]
  have ho : '\'' ≠ f.opening := by cases f <;> decide
  rw [readFirst?_eq_some_iff hs, readToken, if_neg ho, if_pos rfl]
  exact readQuoted_double_iff (fun _ _ h => Token.literal.inj h) (by simp) s

end Flavor

/-- Quoting doubles one character and leaves the others, and what is quoted is read back in front of
exactly those texts that do not start with the quote at its end. -/
theorem quoting_lossless (f : Flavor) :
    (∀ (c : Char) (s : String),
      (Text.double c s).toList = s.toList.flatMap fun d => if d = c then [c, c] else [d]) ∧
    (∀ name behind, f.readFirst? (f.quote name ++ behind) = some (.identifier name, behind) ↔
      behind.toList.head? ≠ some f.closing) ∧
    (∀ s behind, f.readFirst? (Text.literal s ++ behind) = some (.literal s, behind) ↔
      behind.toList.head? ≠ some '\'') ∧
    Function.Injective f.quote ∧ Function.Injective Text.literal :=
  ⟨Text.toList_double, Flavor.readFirst?_quote_iff, Flavor.readFirst?_literal_iff,
    Text.enclose_injective f.opening f.closing, Text.literal_injective⟩

end RecordSql
