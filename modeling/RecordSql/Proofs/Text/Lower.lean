import RecordSql.Proofs.Text.Letters
import RecordSql.Proofs.Text.Blank

/-! # Lower case word by word

Putting a text into lower case moves no blank and no quote, and the letters in front of a blank have
no part in what becomes of those behind it. So the lower case of a text is that of its words.
-/

namespace RecordSql.Text
open Case

def isSymbol (c : Char) : Bool :=
  isBlank c || c = '\''

def symbolRanges : List (Nat × Nat) :=
  [(0x9, 0xD), (0x20, 0x20), (0x27, 0x27), (0x85, 0x85), (0xA0, 0xA0), (0x1680, 0x1680),
   (0x2000, 0x200A), (0x2028, 0x2029), (0x202F, 0x202F), (0x205F, 0x205F), (0x3000, 0x3000)]

variable {c d : Char} {s w : List Char}

theorem isSymbol_eq (c : Char) : isSymbol c = inRanges symbolRanges c := by
  rw [Bool.eq_iff_iff]
  simp only [isSymbol, isBlank, inRanges, symbolRanges, Bool.or_eq_true, Bool.and_eq_true,
    decide_eq_true_eq, Char.le_def, Char.ext_iff, UInt32.le_iff_toNat_le, ← UInt32.toNat_inj,
    ↓Char.isValue, Char.reduceVal, UInt32.reduceToNat, Char.toNat_val, List.any_cons, List.any_nil,
    Bool.false_eq_true, or_false]
  omega

theorem isSymbol_iff {c : Char} :
    isSymbol c = true ↔ ∃ p ∈ symbolRanges, p.1 ≤ c.toNat ∧ c.toNat ≤ p.2 := by
  simp [isSymbol_eq, inRanges]

theorem isSymbol_of_isAlpha (h : c.isAlpha = true) : isSymbol c = false := by
  have hs : ∀ p ∈ symbolRanges, p.2 < 65 ∨ 122 < p.1 := by decide
  rw [Bool.eq_false_iff, ne_eq, isSymbol_iff]
  rintro ⟨p, hp, h1, h2⟩
  have hn := toNat_of_isAlpha h
  have hp := hs p hp
  omega

theorem isBlank_of_isAlpha (h : c.isAlpha = true) : isBlank c = false :=
  (Bool.or_eq_false_iff.mp (isSymbol_of_isAlpha h)).1

theorem isSymbol_counterpart {r : Run} (hr : r ∈ lowerRuns) (h : r.holds c = true) :
    isSymbol (r.counterpart c) = false := by
  -- the runs as they are moved, gaps included, meet no symbol
  have hs : ∀ r ∈ lowerRuns, ∀ p ∈ symbolRanges,
      0 < p.1 ∧ (r.last + r.shift < p.1 ∨ p.2 < r.first + r.shift) := by decide +kernel
  obtain ⟨⟨hf, hl⟩, -⟩ : (r.first ≤ c.toNat ∧ c.toNat ≤ r.last) ∧ _ := by
    simpa [Run.holds] using h
  rw [Bool.eq_false_iff, ne_eq, isSymbol_iff]
  rintro ⟨p, hp, h1, h2⟩
  have hp := hs r hr p hp
  rw [Run.counterpart, Char.toNat_ofNat] at h1 h2
  split_ifs at h1 h2 <;> omega

/-- Lower case neither makes a symbol nor changes one. -/
theorem eq_of_mem_lowerOf (h : d ∈ lowerOf c) (hd : isSymbol d = true) : d = c := by
  unfold lowerOf at h
  split at h
  · obtain rfl := List.mem_singleton.mp h
    by_cases hu : c.isUpper = true
    · have ha : c.toLower.isAlpha = true := by
        rw [Char.isAlpha_toLower_eq_isAlpha, Char.isAlpha, hu, Bool.true_or]
      rw [isSymbol_of_isAlpha ha] at hd
      cases hd
    · exact Char.toLower_eq_of_not_isUpper (by simpa using hu)
  · split at h
    · have hn : ∀ d ∈ ['i', '\u0307'], isSymbol d = false := by
        simp [isSymbol_eq, inRanges, symbolRanges]
      rw [hn d h] at hd
      cases hd
    · obtain rfl := List.mem_singleton.mp h
      cases hc : counterpart? lowerRuns c with
      | none => rfl
      | some e =>
        obtain ⟨r, hr, rfl⟩ := Option.map_eq_some_iff.mp hc
        have hh : r.holds c = true := by simpa using List.find?_some hr
        have hs := isSymbol_counterpart (List.mem_of_find?_eq_some hr) hh
        rw [hc, Option.getD_some, hs] at hd
        cases hd

theorem lowerOf_ne_nil (c : Char) : lowerOf c ≠ [] := by
  unfold lowerOf
  split
  · exact List.cons_ne_nil _ _
  · split <;> exact List.cons_ne_nil _ _

def lowerAt (before : List Char) (c : Char) (s : List Char) : List Char :=
  if c = 'Σ' then [if meetsCased before && !meetsCased s then 'ς' else 'σ'] else lowerOf c

theorem lowerFrom_cons (before : List Char) (c : Char) (s : List Char) :
    lowerFrom before (c :: s) = lowerAt before c s ++ lowerFrom (c :: before) s := rfl

theorem eq_of_mem_lowerAt {before : List Char} (h : d ∈ lowerAt before c s)
    (hd : isSymbol d = true) : d = c := by
  unfold lowerAt at h
  split at h
  · have hn : isSymbol 'ς' = false ∧ isSymbol 'σ' = false := by
      simp [isSymbol_eq, inRanges, symbolRanges]
    rw [List.mem_singleton.mp h] at hd
    split at hd
    · rw [hn.1] at hd
      cases hd
    · rw [hn.2] at hd
      cases hd
  · exact eq_of_mem_lowerOf h hd

theorem lowerAt_ne_nil (before : List Char) (c : Char) (s : List Char) :
    lowerAt before c s ≠ [] := by
  unfold lowerAt
  split
  · exact List.cons_ne_nil _ _
  · exact lowerOf_ne_nil c

theorem lowerFrom_ne_nil (h : s ≠ []) (before : List Char) : lowerFrom before s ≠ [] := by
  cases s with
  | nil => exact absurd rfl h
  | cons c s => exact List.append_ne_nil_of_left_ne_nil (lowerAt_ne_nil before c s) _

theorem head?_lowerFrom_eq_quote_iff (before s : List Char) :
    (lowerFrom before s).head? = some '\'' ↔ s.head? = some '\'' := by
  cases s with
  | nil => rfl
  | cons c s =>
    obtain ⟨d, rest, hd⟩ := List.exists_cons_of_ne_nil (lowerAt_ne_nil before c s)
    rw [lowerFrom_cons, hd, List.cons_append, List.head?_cons, List.head?_cons, Option.some_inj,
      Option.some_inj]
    constructor
    · rintro rfl
      exact (eq_of_mem_lowerAt (hd ▸ List.mem_cons_self) (by decide)).symm
    · rintro rfl
      exact (List.cons.inj hd).1.symm

theorem mem_of_mem_lowerFrom {before : List Char} (h : d ∈ lowerFrom before s)
    (hd : isSymbol d = true) : d ∈ s := by
  induction s generalizing before with
  | nil => exact absurd h List.not_mem_nil
  | cons c s ih =>
    rw [lowerFrom_cons, List.mem_append] at h
    rcases h with h | h
    · rw [eq_of_mem_lowerAt h hd]
      exact List.mem_cons_self
    · exact List.mem_cons_of_mem c (ih h)

theorem meetsCased_append (w rest : List Char) : meetsCased (w ++ ' ' :: rest) = meetsCased w := by
  have hi : inRanges ignorableRanges ' ' = false := by decide +kernel
  have hc : inRanges casedRanges ' ' = false := by decide +kernel
  rw [meetsCased, meetsCased, List.dropWhile_append]
  cases hw : w.dropWhile (inRanges ignorableRanges) with
  | nil =>
    rw [List.isEmpty_nil, if_pos rfl, List.dropWhile_cons_of_neg (by simp [hi])]
    exact hc
  | cons c t => rfl

theorem lowerFrom_append_blank (w rest s : List Char) :
    lowerFrom (w ++ ' ' :: rest) s = lowerFrom w s := by
  induction s generalizing w with
  | nil => rfl
  | cons c s ih =>
    rw [lowerFrom, lowerFrom, meetsCased_append, ← List.cons_append, ih]

/-- What stands in front of a blank and what stands behind it go into lower case each for itself. -/
theorem lowerFrom_blank (before w s : List Char) :
    lowerFrom before (w ++ ' ' :: s) = lowerFrom before w ++ ' ' :: lowerFrom [] s := by
  induction w generalizing before with
  | nil =>
    rw [List.nil_append, lowerFrom_cons, ← List.nil_append (' ' :: before), lowerFrom_append_blank]
    rfl
  | cons c w ih =>
    have hc : lowerAt before c (w ++ ' ' :: s) = lowerAt before c w := by
      rw [lowerAt, lowerAt, meetsCased_append]
    rw [List.cons_append, lowerFrom_cons, lowerFrom_cons, hc, ih, List.append_assoc]

/-! ## Words -/

/-- A text that is a word wherever it stands between blanks. -/
def IsWord (w : String) : Prop :=
  w ≠ "" ∧ ∀ c ∈ w.toList, isBlank c = false

instance (w : String) : Decidable (IsWord w) :=
  decidable_of_iff (w ≠ "" ∧ w.toList.all (!isBlank ·) = true) (by simp [IsWord])

theorem IsWord.toLower {w : String} (h : IsWord w) : IsWord (toLower w) := by
  have hne : w.toList ≠ [] := by simpa using h.1
  refine ⟨?_, fun c hc => ?_⟩
  · rw [ne_eq, ← String.toList_eq_nil_iff, Text.toLower, String.toList_ofList]
    exact lowerFrom_ne_nil hne []
  · rw [Text.toLower, String.toList_ofList] at hc
    rw [Bool.eq_false_iff]
    intro hb
    have hm := mem_of_mem_lowerFrom hc (by rw [isSymbol, hb, Bool.true_or])
    rw [h.2 c hm] at hb
    cases hb

theorem toLower_intercalate (ws : List String) :
    toLower (" ".intercalate ws) = " ".intercalate (ws.map toLower) := by
  induction ws with
  | nil => rfl
  | cons w ws ih =>
    cases ws with
    | nil => simp
    | cons v ws =>
      have ht : (w ++ " " ++ " ".intercalate (v :: ws)).toList =
          w.toList ++ ' ' :: (" ".intercalate (v :: ws)).toList := by
        simp
      rw [String.intercalate_cons_cons, List.map_cons, List.map_cons, String.intercalate_cons_cons,
        ← List.map_cons, ← ih, toLower, toLower, toLower, ht, lowerFrom_blank]
      simp [← String.toList_inj]

theorem words_toLower_intercalate {ws : List String} (h : ∀ w ∈ ws, IsWord w) :
    words (toLower (" ".intercalate ws)) = ws.map toLower := by
  rw [toLower_intercalate]
  refine words_intercalate fun w hw => ?_
  obtain ⟨v, hv, rfl⟩ := List.mem_map.mp hw
  exact (h v hv).toLower

end RecordSql.Text
