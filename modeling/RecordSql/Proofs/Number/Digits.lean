import Mathlib.Data.List.TakeWhile
import RecordSql.Number.Numeral
import RecordSql.Proofs.Text.Blank

/-! # Digits of a number

The digits that a number is written with are read back as that number, and nothing but a numeral is
read as a number.
-/

namespace RecordSql.Number

variable {b s : List Char} {n : Nat}

theorem readDigitsFrom_eq (h : ∀ c ∈ s, c.isDigit = true) (n : Nat) :
    readDigitsFrom n s = some (Nat.ofDigitChars 10 s n) := by
  induction s generalizing n with
  | nil => simp [readDigitsFrom]
  | cons c s ih =>
    obtain ⟨hc, hs⟩ : c.isDigit = true ∧ ∀ d ∈ s, d.isDigit = true := by simpa using h
    rw [readDigitsFrom, if_pos hc, ih hs, Nat.ofDigitChars_cons, Nat.mul_comm]

theorem isDigit_of_mem_repr {n : Nat} {c : Char} (h : c ∈ (Nat.repr n).toList) :
    c.isDigit = true := by
  rw [Nat.toList_repr] at h
  exact Nat.isDigit_of_mem_toDigits (by decide) (by decide) h

theorem toNat_of_isDigit {c : Char} (h : c.isDigit = true) : 48 ≤ c.toNat ∧ c.toNat ≤ 57 := by
  simpa only [Char.isDigit, Bool.and_eq_true, decide_eq_true_eq, UInt32.le_iff_toNat_le,
    ↓Char.isValue, Char.reduceVal, UInt32.reduceToNat, Char.toNat_val] using h

theorem readDigits?_repr (n : Nat) : readDigits? (Nat.repr n).toList = some n := by
  have hd : ∀ c ∈ (Nat.repr n).toList, c.isDigit = true := fun _ => isDigit_of_mem_repr
  rw [Nat.toList_repr] at hd ⊢
  cases hs : Nat.toDigits 10 n with
  | nil => exact absurd hs Nat.toDigits_ne_nil
  | cons c s =>
    rw [readDigits?, ← hs, readDigitsFrom_eq hd, Nat.ofDigitChars_ten_toDigits]
    exact List.cons_ne_nil c s

theorem readNumeral?_repr (n : Nat) : readNumeral? (Nat.repr n).toList = some n := by
  unfold readNumeral?
  split
  · next s hs =>
    have hd : '+' ∈ (Nat.repr n).toList := hs ▸ List.mem_cons_self
    exact absurd (isDigit_of_mem_repr hd) (by decide)
  · exact readDigits?_repr n

/-! ## Numerals -/

/-- A list is a numeral of a number: its digits, with an optional plus sign in front. -/
inductive Numeral : List Char → Nat → Prop
  | plain {s : List Char} (hne : s ≠ []) (hd : ∀ c ∈ s, c.isDigit = true) :
    Numeral s (Nat.ofDigitChars 10 s 0)
  | signed {s : List Char} (hne : s ≠ []) (hd : ∀ c ∈ s, c.isDigit = true) :
    Numeral ('+' :: s) (Nat.ofDigitChars 10 s 0)

theorem isDigit_of_readDigitsFrom {m : Nat} (h : readDigitsFrom m s = some n) :
    ∀ c ∈ s, c.isDigit = true := by
  induction s generalizing m with
  | nil => simp
  | cons c s ih =>
    rw [readDigitsFrom] at h
    split at h
    · next hc => exact List.forall_mem_cons.mpr ⟨hc, ih h⟩
    · cases h

theorem readDigits?_eq_some_iff :
    readDigits? s = some n ↔
      s ≠ [] ∧ (∀ c ∈ s, c.isDigit = true) ∧ n = Nat.ofDigitChars 10 s 0 := by
  cases s with
  | nil => simp [readDigits?]
  | cons c s =>
    rw [readDigits?]
    · constructor
      · intro h
        have hd := isDigit_of_readDigitsFrom h
        rw [readDigitsFrom_eq hd] at h
        exact ⟨List.cons_ne_nil c s, hd, (Option.some.inj h).symm⟩
      · rintro ⟨-, hd, rfl⟩
        exact readDigitsFrom_eq hd 0
    · exact List.cons_ne_nil c s

theorem readNumeral?_eq_some_iff : readNumeral? s = some n ↔ Numeral s n := by
  constructor
  · intro h
    unfold readNumeral? at h
    split at h
    · obtain ⟨hne, hd, rfl⟩ := readDigits?_eq_some_iff.mp h
      exact .signed hne hd
    · obtain ⟨hne, hd, rfl⟩ := readDigits?_eq_some_iff.mp h
      exact .plain hne hd
  · intro h
    cases h with
    | plain hne hd =>
      have hs : ∀ t, s ≠ '+' :: t := by
        rintro t rfl
        exact absurd (hd '+' List.mem_cons_self) (by decide)
      rw [readNumeral?]
      · exact readDigits?_eq_some_iff.mpr ⟨hne, hd, rfl⟩
      · exact hs
    | signed hne hd => exact readDigits?_eq_some_iff.mpr ⟨hne, hd, rfl⟩

theorem readBelow?_eq_some_iff {bound : Nat} {s : String} :
    readBelow? bound s = some n ↔ Numeral s.toList n ∧ n < bound := by
  rw [readBelow?, Option.filter_eq_some_iff, readNumeral?_eq_some_iff, decide_eq_true_iff]

theorem readUInt32?_eq_some_iff {s : String} {n : UInt32} :
    readUInt32? s = some n ↔ Numeral s.toList n.toNat := by
  rw [readUInt32?, Option.map_eq_some_iff]
  constructor
  · rintro ⟨m, hm, rfl⟩
    obtain ⟨hm, hlt⟩ := readBelow?_eq_some_iff.mp hm
    rwa [UInt32.toNat_ofNat_of_lt' hlt]
  · intro h
    exact ⟨n.toNat, readBelow?_eq_some_iff.mpr ⟨h, n.toNat_lt⟩, UInt32.ofNat_toNat⟩

theorem readUInt64?_eq_some_iff {s : String} {n : UInt64} :
    readUInt64? s = some n ↔ Numeral s.toList n.toNat := by
  rw [readUInt64?, Option.map_eq_some_iff]
  constructor
  · rintro ⟨m, hm, rfl⟩
    obtain ⟨hm, hlt⟩ := readBelow?_eq_some_iff.mp hm
    rwa [UInt64.toNat_ofNat_of_lt' hlt]
  · intro h
    exact ⟨n.toNat, readBelow?_eq_some_iff.mpr ⟨h, n.toNat_lt⟩, UInt64.ofNat_toNat⟩

theorem numeral_repr (n : Nat) : Numeral (Nat.repr n).toList n :=
  readNumeral?_eq_some_iff.mp (readNumeral?_repr n)

theorem Numeral.toNat_of_mem (h : Numeral s n) {c : Char} (hc : c ∈ s) :
    c.toNat = 43 ∨ 48 ≤ c.toNat ∧ c.toNat ≤ 57 := by
  cases h with
  | plain _ hd => exact .inr (toNat_of_isDigit (hd c hc))
  | signed _ hd =>
    rcases List.mem_cons.mp hc with rfl | hc
    · exact .inl rfl
    · exact .inr (toNat_of_isDigit (hd c hc))

theorem Numeral.ne_nil (h : Numeral s n) : s ≠ [] := by
  cases h with
  | plain hne _ => exact hne
  | signed => exact List.cons_ne_nil _ _

theorem Numeral.isBlank_of_mem (h : Numeral s n) {c : Char} (hc : c ∈ s) :
    Text.isBlank c = false := by
  refine Text.isBlank_of_visible ?_
  have hn := h.toNat_of_mem hc
  omega

theorem trim_of_numeral {s : String} (h : Numeral s.toList n) : Text.trim s = s := by
  rw [← String.ofList_toList (s := s)]
  exact Text.trim_of_noBlank fun _ => h.isBlank_of_mem

def Spaced (s : List Char) (n : Nat) : Prop :=
  ∃ before numeral after, s = before ++ (numeral ++ after) ∧ Numeral numeral n ∧
    (∀ c ∈ before, Text.isBlank c = true) ∧ ∀ c ∈ after, Text.isBlank c = true

theorem Numeral.spaced (h : Numeral s n) : Spaced s n :=
  ⟨[], s, [], by simp, h, by simp, by simp⟩

theorem Spaced.of_mem (h : Spaced s n) {c : Char} (hc : c ∈ s) :
    Text.isBlank c = true ∨ c.toNat = 43 ∨ 48 ≤ c.toNat ∧ c.toNat ≤ 57 := by
  obtain ⟨before, numeral, after, rfl, hn, hb, ha⟩ := h
  rcases List.mem_append.mp hc with hc | hc
  · exact .inl (hb c hc)
  rcases List.mem_append.mp hc with hc | hc
  · exact .inr (hn.toNat_of_mem hc)
  · exact .inl (ha c hc)

theorem Spaced.readUInt32? {n : UInt32} (h : Spaced s n.toNat) :
    readUInt32? (Text.trim (String.ofList s)) = some n := by
  obtain ⟨before, numeral, after, rfl, hn, hb, ha⟩ := h
  have he : Text.dropEnd Text.isBlank after = [] := by
    rw [Text.dropEnd, List.reverse_eq_nil_iff, List.dropWhile_eq_nil_iff]
    simpa using ha
  rw [Text.trim_append hb (fun _ => hn.isBlank_of_mem) hn.ne_nil, he, List.append_nil,
    readUInt32?_eq_some_iff, String.toList_ofList]
  exact hn

/-! ## Digits in front of a text -/

theorem takeWhile_isDigit_append (hb : ∀ c ∈ b.head?, c.isDigit = false) :
    (s ++ b).takeWhile Char.isDigit = s.takeWhile Char.isDigit := by
  induction s with
  | nil =>
    cases b with
    | nil => rfl
    | cons d b => simp [hb d rfl]
  | cons c s ih => by_cases hc : c.isDigit = true <;> simp [hc, ih]

theorem dropWhile_isDigit_append (hb : ∀ c ∈ b.head?, c.isDigit = false) :
    (s ++ b).dropWhile Char.isDigit = s.dropWhile Char.isDigit ++ b := by
  have h := List.takeWhile_append_dropWhile (p := Char.isDigit) (l := s ++ b)
  rw [takeWhile_isDigit_append hb] at h
  refine (List.append_right_inj (s.takeWhile Char.isDigit)).mp ?_
  rw [h, ← List.append_assoc, List.takeWhile_append_dropWhile]

theorem takeWhile_repr_append (hb : ∀ c ∈ b.head?, c.isDigit = false) (n : Nat) :
    ((Nat.repr n).toList ++ b).takeWhile Char.isDigit = (Nat.repr n).toList := by
  rw [takeWhile_isDigit_append hb]
  exact List.takeWhile_eq_self_iff.mpr fun _ => isDigit_of_mem_repr

theorem dropWhile_repr_append (hb : ∀ c ∈ b.head?, c.isDigit = false) (n : Nat) :
    ((Nat.repr n).toList ++ b).dropWhile Char.isDigit = b := by
  rw [dropWhile_isDigit_append hb, List.dropWhile_eq_nil_iff.mpr fun _ => isDigit_of_mem_repr,
    List.nil_append]

end RecordSql.Number
