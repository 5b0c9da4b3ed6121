import Mathlib.Data.List.TakeDrop
import RecordSql.Flavor.PhysicalType
import RecordSql.Proofs.Number.Digits
import RecordSql.Proofs.Text.Blank

/-! # Tokens of types

The lengths of a type are written between parentheses behind its name, from where they are read
back. They are read from nothing but their numerals.
-/

namespace RecordSql

namespace TypeToken

variable {name argument : List Char}

theorem span_append {c : Char} {s : List Char} (h : c ∉ s) (rest : List Char) :
    (s ++ c :: rest).span (· != c) = (s, c :: rest) := by
  have hp : ∀ d ∈ s, (d != c) = true := fun d hd => by
    rw [bne_iff_ne]
    exact ne_of_mem_of_not_mem hd h
  rw [List.span_eq_takeWhile_dropWhile, List.takeWhile_append_of_pos hp,
    List.dropWhile_append_of_pos hp]
  simp

theorem read?_of_not_mem (h : '(' ∉ name) :
    read? (String.ofList name) = some ⟨String.ofList name, none⟩ := by
  have hs : name.span (· != '(') = (name, []) := by
    have hp : ∀ c ∈ name, (c != '(') = true := fun c hc => by
      rw [bne_iff_ne]
      exact ne_of_mem_of_not_mem hc h
    rw [List.span_eq_takeWhile_dropWhile, List.takeWhile_eq_self_iff.mpr hp,
      List.dropWhile_eq_nil_iff.mpr hp]
  rw [read?, String.toList_ofList, hs]

theorem read?_append (hn : '(' ∉ name) (ha : ')' ∉ argument) (rest : List Char) :
    read? (String.ofList (name ++ '(' :: (argument ++ ')' :: rest))) =
      some ⟨String.ofList name, some (String.ofList argument)⟩ := by
  rw [read?, String.toList_ofList, span_append hn]
  dsimp only
  rw [span_append ha]
  rfl

/-- The argument of a token stands in its text in front of the first closing parenthesis. -/
theorem mem_of_mem_argument {s argument : String} {token : TypeToken} (h : read? s = some token)
    (ha : token.argument = some argument) {c : Char} (hc : c ∈ argument.toList) :
    c ∈ s.toList ∧ c ≠ ')' := by
  unfold read? at h
  rw [List.span_eq_takeWhile_dropWhile] at h
  dsimp only at h
  split at h
  · cases h
    cases ha
  · next d rest hr =>
    rw [List.span_eq_takeWhile_dropWhile] at h
    dsimp only at h
    split at h
    · cases h
    · cases h
      cases ha
      rw [String.toList_ofList] at hc
      have hm : c ∈ s.toList.dropWhile (· != '(') :=
        hr ▸ List.mem_cons_of_mem d ((List.takeWhile_sublist _).mem hc)
      exact ⟨(List.dropWhile_sublist _).mem hm, by simpa using List.mem_takeWhile_imp hc⟩

end TypeToken

/-- A text is a numeral of the first length, or numerals of both with a comma between them. -/
inductive Lengths.IsSpelled : Lengths → String → Prop
  | one {first : UInt32} {s : String} (h : Number.Numeral s.toList first.toNat) :
    IsSpelled ⟨first, 0⟩ s
  | two {first second : UInt32} {s t : String} (hs : Number.Numeral s.toList first.toNat)
    (ht : Number.Numeral t.toList second.toNat) : IsSpelled ⟨first, second⟩ (s ++ "," ++ t)

/-- A list is a numeral of the first length, or numerals of both with a comma between them, with
blanks around each numeral. -/
inductive Lengths.Listed : Lengths → List Char → Prop
  | one {first : UInt32} {s : List Char} (h : Number.Spaced s first.toNat) : Listed ⟨first, 0⟩ s
  | two {first second : UInt32} {s t : List Char} (hs : Number.Spaced s first.toNat)
    (ht : Number.Spaced t second.toNat) : Listed ⟨first, second⟩ (s ++ ',' :: t)

namespace Lengths

variable {l : Lengths} {s : String}

theorem Listed.of_mem {s : List Char} (h : l.Listed s) {c : Char} (hc : c ∈ s) :
    Text.isBlank c = true ∨ 43 ≤ c.toNat ∧ c.toNat ≤ 57 := by
  cases h with
  | one hs => exact (hs.of_mem hc).imp_right (by omega)
  | two hs ht =>
    rcases List.mem_append.mp hc with hc | hc
    · exact (hs.of_mem hc).imp_right (by omega)
    rcases List.mem_cons.mp hc with rfl | hc
    · exact .inr (by decide)
    · exact (ht.of_mem hc).imp_right (by omega)

theorem comma_not_mem_spaced {s : List Char} {n : Nat} (h : Number.Spaced s n) : ',' ∉ s := by
  intro hc
  have hb : Text.isBlank ',' = false := Text.isBlank_of_visible (by decide)
  rcases h.of_mem hc with h | h
  · rw [hb] at h
    cases h
  · exact absurd h (by decide)

theorem Listed.read?_eq {s : List Char} (h : l.Listed s) : read? (String.ofList s) = some l := by
  rw [read?, String.toList_ofList]
  cases h with
  | @one first s hs =>
    have hp : ([','].intercalate [s]).splitOn ',' = [s] :=
      List.splitOn_intercalate ',' (by simpa using comma_not_mem_spaced hs) (List.cons_ne_nil s [])
    rw [List.intercalate_singleton] at hp
    simp only [hp, List.map_cons, List.map_nil, hs.readUInt32?, Option.map_some]
  | @two first second s t hs ht =>
    have hp : ([','].intercalate [s, t]).splitOn ',' = [s, t] :=
      List.splitOn_intercalate ','
        (by simpa using ⟨comma_not_mem_spaced hs, comma_not_mem_spaced ht⟩)
        (List.cons_ne_nil s [t])
    have hi : [','].intercalate [s, t] = s ++ ',' :: t := by simp
    rw [hi] at hp
    simp only [hp, List.map_cons, List.map_nil, hs.readUInt32?, ht.readUInt32?]
    rfl

theorem IsSpelled.listed (h : l.IsSpelled s) : l.Listed s.toList := by
  cases h with
  | one hs => exact .one hs.spaced
  | two hs ht => simpa using Listed.two hs.spaced ht.spaced

theorem IsSpelled.read?_eq (h : l.IsSpelled s) : read? s = some l := by
  rw [← String.ofList_toList (s := s)]
  exact h.listed.read?_eq

theorem isSpelled_of_read? (hb : ∀ c ∈ s.toList, Text.isBlank c = false) (h : read? s = some l) :
    l.IsSpelled s := by
  have hj : [','].intercalate (s.toList.splitOn ',') = s.toList := List.intercalate_splitOn ','
  unfold read? at h
  split at h
  · next first hp =>
    obtain ⟨part, hs, rfl⟩ := List.map_eq_singleton_iff.mp hp
    obtain rfl : s = String.ofList part := by
      rw [← String.toList_inj, ← hj, hs]
      simp
    obtain ⟨n, hn, rfl⟩ := Option.map_eq_some_iff.mp h
    rw [Text.trim_of_noBlank (by simpa using hb)] at hn
    exact .one (Number.readUInt32?_eq_some_iff.mp hn)
  · next first second hp =>
    obtain ⟨part, parts, hs, rfl, ho⟩ := List.map_eq_cons_iff.mp hp
    obtain ⟨other, rfl, rfl⟩ := List.map_eq_singleton_iff.mp ho
    obtain rfl : s = String.ofList part ++ "," ++ String.ofList other := by
      rw [← String.toList_inj, ← hj, hs]
      simp
    have hp : ∀ c ∈ part, Text.isBlank c = false := fun c hc => hb c (by simp [hc])
    have ho : ∀ c ∈ other, Text.isBlank c = false := fun c hc => hb c (by simp [hc])
    obtain ⟨n, hn, h⟩ := Option.bind_eq_some_iff.mp h
    obtain ⟨m, hm, h⟩ := Option.bind_eq_some_iff.mp h
    rw [Text.trim_of_noBlank hp] at hn
    rw [Text.trim_of_noBlank ho] at hm
    cases h
    exact .two (Number.readUInt32?_eq_some_iff.mp hn) (Number.readUInt32?_eq_some_iff.mp hm)
  · cases h

theorem IsSpelled.toNat_of_mem (h : l.IsSpelled s) {c : Char} (hc : c ∈ s.toList) :
    43 ≤ c.toNat ∧ c.toNat ≤ 57 := by
  cases h with
  | one hs =>
    have hn := hs.toNat_of_mem hc
    omega
  | two hs ht =>
    rw [String.toList_append, String.toList_append, List.mem_append, List.mem_append] at hc
    rcases hc with (hc | hc) | hc
    · have hn := hs.toNat_of_mem hc
      omega
    · obtain rfl : c = ',' := by simpa using hc
      decide
    · have hn := ht.toNat_of_mem hc
      omega

def text (l : Lengths) : String :=
  if l.second = 0 then Nat.repr l.first.toNat
  else Nat.repr l.first.toNat ++ "," ++ Nat.repr l.second.toNat

theorem toNat_of_mem_text {l : Lengths} {c : Char} (hc : c ∈ l.text.toList) :
    44 ≤ c.toNat ∧ c.toNat ≤ 57 := by
  have hd : ∀ n, c ∈ (Nat.repr n).toList → 44 ≤ c.toNat ∧ c.toNat ≤ 57 := fun n hc => by
    have hn := Number.toNat_of_isDigit (Number.isDigit_of_mem_repr hc)
    omega
  unfold text at hc
  split at hc
  · exact hd _ hc
  · simp only [String.toList_append, List.mem_append] at hc
    rcases hc with (hc | hc) | hc
    · exact hd _ hc
    · obtain rfl : c = ',' := by simpa using hc
      decide
    · exact hd _ hc

theorem isSpelled_text (l : Lengths) : l.IsSpelled l.text := by
  obtain ⟨first, second⟩ := l
  unfold text
  split
  · next hs =>
    obtain rfl : second = 0 := hs
    exact .one (Number.numeral_repr _)
  · exact .two (Number.numeral_repr _) (Number.numeral_repr _)

theorem read?_text (l : Lengths) : read? l.text = some l :=
  l.isSpelled_text.read?_eq

def argument? (l : Lengths) : Option String :=
  if l.first = 0 then none
  else if l.second = 0 then some (Nat.repr l.first.toNat)
  else some (Nat.repr l.first.toNat ++ "," ++ Nat.repr l.second.toNat)

theorem argument?_eq_none_iff {l : Lengths} : l.argument? = none ↔ l.first = 0 := by
  unfold argument?
  split
  · simp [*]
  · split <;> simp [*]

theorem text_of_argument? {l : Lengths} {s : String} (h : l.argument? = some s) : l.text = s := by
  unfold argument? at h
  split at h
  · cases h
  · unfold text
    split at h
    · next hs => rw [if_pos hs, Option.some.inj h]
    · next hs => rw [if_neg hs, Option.some.inj h]

theorem toNat_of_mem_argument {l : Lengths} {s : String} (h : l.argument? = some s) {c : Char}
    (hc : c ∈ s.toList) : 44 ≤ c.toNat ∧ c.toNat ≤ 57 :=
  toNat_of_mem_text (text_of_argument? h ▸ hc)

theorem read?_argument {l : Lengths} {s : String} (h : l.argument? = some s) : read? s = some l :=
  text_of_argument? h ▸ l.read?_text

def suffix (l : Lengths) : List Char :=
  match l.argument? with
  | none => []
  | some s => '(' :: (s.toList ++ [')'])

theorem toNat_of_mem_suffix {l : Lengths} {c : Char} (h : c ∈ l.suffix) :
    40 ≤ c.toNat ∧ c.toNat ≤ 57 := by
  unfold suffix at h
  split at h
  · cases h
  · next s hs =>
    rcases List.mem_cons.mp h with rfl | h
    · decide
    rcases List.mem_append.mp h with h | h
    · have hn := toNat_of_mem_argument hs h
      omega
    · obtain rfl := List.mem_singleton.mp h
      decide

end Lengths

theorem Flavor.toList_appendLengths (out : String) (l : Lengths) :
    (appendLengths out l.first l.second).toList = out.toList ++ l.suffix := by
  obtain ⟨first, second⟩ := l
  unfold appendLengths Lengths.suffix Lengths.argument?
  by_cases hf : first = 0
  · simp [hf]
  · have hf' : 0 < first := UInt32.pos_iff_ne_zero.mpr hf
    by_cases hs : second = 0
    · simp [hf, hf', hs]
    · have hs' : 0 < second := UInt32.pos_iff_ne_zero.mpr hs
      simp [hf, hf', hs, hs']

end RecordSql
