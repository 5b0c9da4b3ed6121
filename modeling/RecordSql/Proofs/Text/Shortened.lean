import Mathlib.Data.List.DropRight
import Mathlib.Data.List.TakeWhile
import RecordSql.Proofs.Text.Blank
import RecordSql.Text.Shortened

/-! # Shortened text as a function of its bytes

The cut of a long text either falls between two characters, and then its first bytes are kept
without the blanks at their end, or inside of a character, and then nothing comes of it.
-/

namespace RecordSql.Text

def size : List Char → Nat
  | [] => 0
  | c :: s => c.utf8Size + size s

@[simp] theorem size_nil : size [] = 0 := rfl

@[simp] theorem size_cons (c : Char) (s : List Char) : size (c :: s) = c.utf8Size + size s := rfl

theorem utf8ByteSize_ofList (s : List Char) : (String.ofList s).utf8ByteSize = size s := by
  induction s with
  | nil => rfl
  | cons c s ih =>
    rw [String.ofList_cons, String.utf8ByteSize_append, String.utf8ByteSize_singleton, ih,
      size_cons]

theorem size_toList (s : String) : size s.toList = s.utf8ByteSize := by
  rw [← utf8ByteSize_ofList, String.ofList_toList]

theorem size_eq_zero_iff {s : List Char} : size s = 0 ↔ s = [] := by
  constructor
  · intro h
    cases s with
    | nil => rfl
    | cons c s =>
      have hc := c.utf8Size_pos
      rw [size_cons] at h
      omega
  · rintro rfl
    rfl

section

variable {s kept : List Char} {n : Nat}

theorem takeBytes?_eq_some_iff :
    takeBytes? n s = some kept ↔ kept <+: s ∧ size kept = min n (size s) := by
  induction s generalizing n kept with
  | nil =>
    rw [takeBytes?, Option.some.injEq, List.prefix_nil, size_nil, Nat.min_zero, size_eq_zero_iff,
      and_self, eq_comm]
  | cons c s ih =>
    have hc := c.utf8Size_pos
    unfold takeBytes?
    by_cases hn : n = 0
    · rw [if_pos hn, hn, Nat.zero_min, size_eq_zero_iff, Option.some.injEq]
      constructor
      · rintro rfl
        exact ⟨List.nil_prefix, rfl⟩
      · rintro ⟨-, rfl⟩
        rfl
    rw [if_neg hn]
    by_cases hl : n < c.utf8Size
    -- the cut is inside of the first character, where no prefix ends
    · rw [if_pos hl, size_cons, Nat.min_eq_left (by omega)]
      refine iff_of_false (fun h => by cases h) ?_
      rintro ⟨hp, hk⟩
      cases kept with
      | nil => exact hn hk.symm
      | cons d kept =>
        obtain ⟨rfl, -⟩ := List.cons_prefix_cons.mp hp
        rw [size_cons] at hk
        omega
    · rw [if_neg hl, Option.map_eq_some_iff, size_cons]
      constructor
      · rintro ⟨kept, hk, rfl⟩
        obtain ⟨hp, hs⟩ := ih.mp hk
        refine ⟨List.cons_prefix_cons.mpr ⟨rfl, hp⟩, ?_⟩
        rw [size_cons, hs]
        omega
      · rintro ⟨hp, hk⟩
        cases kept with
        | nil =>
          rw [size_nil] at hk
          omega
        | cons d kept =>
          obtain ⟨rfl, ht⟩ := List.cons_prefix_cons.mp hp
          rw [size_cons] at hk
          exact ⟨kept, ih.mpr ⟨ht, by omega⟩, rfl⟩

theorem takeBytes?_eq_none_iff :
    takeBytes? n s = none ↔
      ∃ front c back, s = front ++ c :: back ∧ size front < n ∧ n < size front + c.utf8Size := by
  induction s generalizing n with
  | nil => simp [takeBytes?]
  | cons c s ih =>
    unfold takeBytes?
    by_cases hn : n = 0
    · rw [if_pos hn]
      refine iff_of_false (fun h => by cases h) ?_
      rintro ⟨front, d, back, -, hf, -⟩
      omega
    rw [if_neg hn]
    by_cases hl : n < c.utf8Size
    · rw [if_pos hl]
      exact iff_of_true rfl ⟨[], c, s, rfl, by rw [size_nil]; omega, by rw [size_nil]; omega⟩
    · rw [if_neg hl, Option.map_eq_none_iff, ih]
      constructor
      · rintro ⟨front, d, back, rfl, hf, hb⟩
        refine ⟨c :: front, d, back, rfl, ?_, ?_⟩
        all_goals
          rw [size_cons]
          omega
      · rintro ⟨front, d, back, hs, hf, hb⟩
        cases front with
        | nil =>
          obtain ⟨rfl, -⟩ := List.cons.inj hs
          rw [size_nil] at hb
          omega
        | cons e front =>
          obtain ⟨rfl, rfl⟩ := List.cons.inj hs
          rw [size_cons] at hf hb
          exact ⟨front, d, back, rfl, by omega, by omega⟩

theorem exists_dropEnd_append (p : Char → Bool) (s : List Char) :
    ∃ dropped, s = dropEnd p s ++ dropped ∧ ∀ c ∈ dropped, p c = true := by
  refine ⟨(s.reverse.takeWhile p).reverse, ?_, fun c hc => ?_⟩
  · rw [dropEnd, ← List.reverse_append, List.takeWhile_append_dropWhile, List.reverse_reverse]
  · exact List.mem_takeWhile_imp (List.mem_reverse.mp hc)

theorem getLast?_dropEnd (p : Char → Bool) (s : List Char) :
    ∀ c ∈ (dropEnd p s).getLast?, p c = false := by
  intro c hc
  have hd := List.head?_dropWhile_not p s.reverse
  rw [dropEnd, List.getLast?_reverse, Option.mem_def] at hc
  rwa [hc] at hd

end

/-- Whether the cut of a text falls inside of a character. -/
def IsSplit (s : String) : Prop :=
  ∃ (front back : String) (c : Char), s = front.push c ++ back ∧
    front.utf8ByteSize < shortSize ∧ shortSize < (front.push c).utf8ByteSize

/-- Whether a text is shortened to another one: of its first bytes, those in front of the blanks at
their end are kept, and points tell that there are more bytes. -/
def Shortens (s short : String) : Prop :=
  ∃ kept blanks rest : String, s = kept ++ blanks ++ rest ∧
    (kept ++ blanks).utf8ByteSize = min shortSize s.utf8ByteSize ∧
    (∀ c ∈ blanks.toList, isBlank c = true) ∧ (∀ c ∈ kept.toList.getLast?, isBlank c = false) ∧
    short = kept ++ if shortSize < s.utf8ByteSize then "..." else ""

variable {s short : String}

theorem shorten?_eq_none_iff : shorten? s = none ↔ IsSplit s := by
  rw [shorten?, Option.map_eq_none_iff, takeBytes?_eq_none_iff]
  constructor
  · rintro ⟨front, c, back, hs, hf, hb⟩
    refine ⟨String.ofList front, String.ofList back, c, ?_, ?_, ?_⟩
    · rw [← String.ofList_toList (s := s), hs]
      simp [← String.toList_inj]
    · rwa [utf8ByteSize_ofList]
    · rwa [String.utf8ByteSize_push, utf8ByteSize_ofList]
  · rintro ⟨front, back, c, rfl, hf, hb⟩
    refine ⟨front.toList, c, back.toList, by simp, ?_, ?_⟩
    · rwa [size_toList]
    · rwa [size_toList, ← String.utf8ByteSize_push]

theorem shorten?_eq_some_iff : shorten? s = some short ↔ Shortens s short := by
  rw [shorten?, Option.map_eq_some_iff]
  constructor
  · rintro ⟨front, hf, rfl⟩
    obtain ⟨⟨rest, hr⟩, hz⟩ := takeBytes?_eq_some_iff.mp hf
    obtain ⟨blanks, hb, hp⟩ := exists_dropEnd_append isBlank front
    refine ⟨String.ofList (dropEnd isBlank front), String.ofList blanks, String.ofList rest,
      ?_, ?_, by simpa using hp, by simpa using getLast?_dropEnd isBlank front, rfl⟩
    · rw [← String.ofList_append, ← String.ofList_append, ← hb, hr, String.ofList_toList]
    · rw [← String.ofList_append, ← hb, utf8ByteSize_ofList, hz, size_toList]
  · rintro ⟨kept, blanks, rest, hs, hz, hb, hk, rfl⟩
    have hd : dropEnd isBlank (kept.toList ++ blanks.toList) = kept.toList := by
      have hn : dropEnd isBlank blanks.toList = [] := by
        rw [dropEnd, List.dropWhile_eq_nil_iff.mpr fun c hc => hb c (List.mem_reverse.mp hc)]
        rfl
      rw [dropEnd_append hk, hn, List.append_nil]
    refine ⟨kept.toList ++ blanks.toList, takeBytes?_eq_some_iff.mpr ⟨?_, ?_⟩, ?_⟩
    · rw [hs, String.toList_append, String.toList_append]
      exact List.prefix_append _ _
    · rw [← String.toList_append, size_toList, size_toList, hz]
    · rw [hd, String.ofList_toList]

end RecordSql.Text
