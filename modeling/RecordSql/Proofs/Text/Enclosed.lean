import Mathlib.Data.String.Basic
import RecordSql.Text.Enclosed

/-! # Reading enclosed text

A text with doubled characters is copied piece by piece, and is what doubling each of its characters
alone gives. An enclosed text ends at the first closing character that is not doubled. Reading it
gives back the text that was enclosed and leaves what stands behind it.
-/

namespace RecordSql.Text

/-! ## Replaced characters -/

section

open String (utf8Len)

variable {s : String} {front piece rest : List Char}

theorem extract_piece (hs : s.toList = front ++ piece ++ rest) :
    String.Pos.Raw.extract s ⟨utf8Len front⟩ ⟨utf8Len (front ++ piece)⟩ = String.ofList piece := by
  rw [← String.ofList_toList (s := s), hs, String.utf8Len_append, String.extract_of_valid]

variable {search : Char}

/-- Copying goes on from a piece that does not hold the character, between the ends of two
characters of the text. -/
theorem toList_copyReplacing (replacement out : String) (hs : s.toList = front ++ piece ++ rest)
    (hp : search ∉ piece) :
    (copyReplacing search replacement s out
        ⟨utf8Len front⟩ ⟨utf8Len (front ++ piece)⟩ rest).toList =
      out.toList ++ piece ++
        rest.flatMap fun c => if c = search then replacement.toList else [c] := by
  induction rest generalizing front piece out with
  | nil =>
    have he : s.rawEndPos = ⟨utf8Len (front ++ piece)⟩ := by
      rw [← String.ofList_toList (s := s), String.rawEndPos_ofList, hs, List.append_nil]
    rw [copyReplacing, he, extract_piece hs]
    simp
  | cons c rest ih =>
    have hn : (⟨utf8Len (front ++ piece)⟩ : String.Pos.Raw) + c =
        ⟨utf8Len (front ++ (piece ++ [c]))⟩ := by
      simp [String.Pos.Raw.ext_iff, Nat.add_assoc]
    have hc : s.toList = front ++ (piece ++ [c]) ++ rest := by simpa using hs
    rw [copyReplacing, hn]
    split
    · next h =>
      -- the piece is copied, and an empty one begins behind the character
      have he : s.toList = front ++ (piece ++ [c]) ++ [] ++ rest := by simpa using hs
      have hr := ih (out ++ String.ofList piece ++ replacement) he List.not_mem_nil
      rw [List.append_nil] at hr
      rw [extract_piece hs, hr]
      simp [h]
    · next h =>
      rw [ih out hc (by simp [hp, Ne.symm h])]
      simp [h]

theorem toList_replaceChar (search : Char) (replacement s : String) :
    (replaceChar search replacement s).toList =
      s.toList.flatMap fun c => if c = search then replacement.toList else [c] := by
  have hs : s.toList = [] ++ [] ++ s.toList := rfl
  have h := toList_copyReplacing replacement "" hs (List.not_mem_nil (a := search))
  simpa [replaceChar] using h

end

/-! ## Reading -/

/-- Read an enclosed text behind its opening character, and give back the rest behind its end. -/
def readEnclosed? (closing : Char) : List Char → Option (List Char × List Char)
  | [] => none
  | c :: s =>
    if c = closing then
      match s with
      | [] => some ([], [])
      | d :: rest =>
        if d = closing then (readEnclosed? closing rest).map fun r => (closing :: r.1, r.2)
        else some ([], d :: rest)
    else (readEnclosed? closing s).map fun r => (c :: r.1, r.2)

variable {closing : Char} {s t rest : List Char}

theorem toList_double (c : Char) (s : String) :
    (double c s).toList = s.toList.flatMap fun d => if d = c then [c, c] else [d] := by
  simp [double, toList_replaceChar]

theorem toList_enclose (opening closing : Char) (s : String) :
    (enclose opening closing s).toList = opening :: ((double closing s).toList ++ [closing]) := by
  simp [enclose]

theorem readEnclosed?_cons_of_ne {c : Char} (h : c ≠ closing) (s : List Char) :
    readEnclosed? closing (c :: s) = (readEnclosed? closing s).map fun r => (c :: r.1, r.2) := by
  cases s <;> simp [readEnclosed?, h]

theorem readEnclosed?_closing (h : rest.head? ≠ some closing) :
    readEnclosed? closing (closing :: rest) = some ([], rest) := by
  cases rest with
  | nil => simp [readEnclosed?]
  | cons d rest => simpa [readEnclosed?] using h

theorem readEnclosed?_doubled (closing : Char) (s : List Char) :
    readEnclosed? closing (closing :: closing :: s) =
      (readEnclosed? closing s).map fun r => (closing :: r.1, r.2) := by
  simp [readEnclosed?]

theorem readEnclosed?_double_append (closing : Char) (s : String) (t : List Char) :
    readEnclosed? closing ((double closing s).toList ++ t) =
      (readEnclosed? closing t).map fun r => (s.toList ++ r.1, r.2) := by
  rw [toList_double]
  induction s.toList with
  | nil => simp
  | cons c s ih =>
    by_cases hc : c = closing
    · subst hc
      simp [readEnclosed?_doubled, ih, Function.comp_def]
    · simp [hc, readEnclosed?_cons_of_ne, ih, Function.comp_def]

theorem readEnclosed?_double (s : String) (h : rest.head? ≠ some closing) :
    readEnclosed? closing ((double closing s).toList ++ closing :: rest) =
      some (s.toList, rest) := by
  rw [readEnclosed?_double_append, readEnclosed?_closing h, Option.map_some, List.append_nil]

/-- An enclosed text is read as such only if nothing behind it doubles its end. -/
theorem readEnclosed?_double_eq_some_iff (s : String) :
    readEnclosed? closing ((double closing s).toList ++ closing :: rest) =
      some (s.toList, rest) ↔ rest.head? ≠ some closing := by
  refine ⟨fun h hr => ?_, readEnclosed?_double s⟩
  obtain ⟨rest, rfl⟩ := List.head?_eq_some_iff.mp hr
  rw [readEnclosed?_double_append, readEnclosed?_doubled, Option.map_map] at h
  obtain ⟨r, -, he⟩ := Option.map_eq_some_iff.mp h
  simp at he

theorem enclose_injective (opening closing : Char) :
    Function.Injective (enclose opening closing) := by
  intro s t h
  have hl : (double closing s).toList ++ [closing] = (double closing t).toList ++ [closing] := by
    have hl := congrArg String.toList h
    rw [toList_enclose, toList_enclose] at hl
    exact (List.cons.inj hl).2
  have hs : readEnclosed? closing ((double closing s).toList ++ [closing]) = some (s.toList, []) :=
    readEnclosed?_double s (by simp)
  rw [hl, readEnclosed?_double t (by simp)] at hs
  exact String.toList_inj.mp (Prod.mk.inj (Option.some.inj hs)).1.symm

theorem literal_injective : Function.Injective literal :=
  enclose_injective '\'' '\''

theorem readEnclosed?_length (h : readEnclosed? closing s = some (t, rest)) :
    rest.length < s.length := by
  fun_induction readEnclosed? closing s generalizing t with
  | case1 => simp at h
  | case2 => simp_all
  | case3 s ih =>
    obtain ⟨r, hr, he⟩ := Option.map_eq_some_iff.mp h
    obtain ⟨rfl, rfl⟩ : closing :: r.1 = t ∧ r.2 = rest := by simpa using he
    have := ih hr
    simp only [List.length_cons]
    omega
  | case4 => simp_all
  | case5 c s hc ih =>
    obtain ⟨r, hr, he⟩ := Option.map_eq_some_iff.mp h
    obtain ⟨rfl, rfl⟩ : c :: r.1 = t ∧ r.2 = rest := by simpa using he
    exact Nat.lt_succ_of_lt (ih hr)

theorem readEnclosed?_append {b : List Char} (h : readEnclosed? closing s = some (t, rest))
    (hb : b.head? ≠ some closing) :
    readEnclosed? closing (s ++ b) = some (t, rest ++ b) := by
  fun_induction readEnclosed? closing s generalizing t with
  | case1 => simp at h
  | case2 =>
    obtain ⟨rfl, rfl⟩ : [] = t ∧ [] = rest := by simpa using h
    exact readEnclosed?_closing hb
  | case3 s ih =>
    obtain ⟨r, hr, he⟩ := Option.map_eq_some_iff.mp h
    obtain ⟨rfl, rfl⟩ : closing :: r.1 = t ∧ r.2 = rest := by simpa using he
    rw [List.cons_append, List.cons_append, readEnclosed?_doubled, ih hr]
    rfl
  | case4 d s hd =>
    obtain ⟨rfl, rfl⟩ : [] = t ∧ d :: s = rest := by simpa using h
    exact readEnclosed?_closing (by simpa using hd)
  | case5 c s hc ih =>
    obtain ⟨r, hr, he⟩ := Option.map_eq_some_iff.mp h
    obtain ⟨rfl, rfl⟩ : c :: r.1 = t ∧ r.2 = rest := by simpa using he
    rw [List.cons_append, readEnclosed?_cons_of_ne hc, ih hr]
    rfl

theorem readEnclosed?_append_none {b : List Char} (h : readEnclosed? closing s = none)
    (hb : closing ∉ b) : readEnclosed? closing (s ++ b) = none := by
  fun_induction readEnclosed? closing s with
  | case1 =>
    rw [List.nil_append]
    induction b with
    | nil => rfl
    | cons c b ih =>
      rw [List.mem_cons, not_or] at hb
      rw [readEnclosed?_cons_of_ne (Ne.symm hb.1), ih hb.2]
      rfl
  | case2 => simp at h
  | case3 s ih =>
    rw [List.cons_append, List.cons_append, readEnclosed?_doubled,
      ih (Option.map_eq_none_iff.mp h)]
    rfl
  | case4 => simp at h
  | case5 c s hc ih =>
    rw [List.cons_append, readEnclosed?_cons_of_ne hc, ih (Option.map_eq_none_iff.mp h)]
    rfl

/-! ## Literals -/

/-- Every single quote of a list stands in a pair of two. -/
inductive Paired : List Char → Prop
  | nil : Paired []
  | quotes {s : List Char} : Paired s → Paired ('\'' :: '\'' :: s)
  | other {c : Char} {s : List Char} : c ≠ '\'' → Paired s → Paired (c :: s)

/-- A text stands between single quotes, and every quote strictly inside is doubled. -/
def IsLiteral (s : String) : Prop :=
  ∃ inner, s.toList = '\'' :: (inner ++ ['\'']) ∧ Paired inner

theorem paired_double (s : String) : Paired (double '\'' s).toList := by
  rw [toList_double]
  induction s.toList with
  | nil => exact .nil
  | cons c s ih =>
    rw [List.flatMap_cons]
    split
    · exact .quotes ih
    · next hc => exact .other hc ih

theorem Paired.exists_double {inner : List Char} (h : Paired inner) :
    ∃ s, inner = (double '\'' s).toList := by
  induction h with
  | nil => exact ⟨"", rfl⟩
  | @quotes inner _ ih =>
    obtain ⟨s, rfl⟩ := ih
    refine ⟨String.ofList ('\'' :: s.toList), ?_⟩
    simp [toList_double]
  | @other c inner hc _ ih =>
    obtain ⟨s, rfl⟩ := ih
    refine ⟨String.ofList (c :: s.toList), ?_⟩
    simp [toList_double, hc]

theorem isLiteral_iff {s : String} : IsLiteral s ↔ ∃ t, s = literal t := by
  constructor
  · rintro ⟨inner, hs, hp⟩
    obtain ⟨t, rfl⟩ := hp.exists_double
    refine ⟨t, ?_⟩
    rw [← String.toList_inj, hs, literal, toList_enclose]
  · rintro ⟨t, rfl⟩
    exact ⟨_, toList_enclose _ _ t, paired_double t⟩

end RecordSql.Text
