import Mathlib
import RecordSql.Text.Blank
import RecordSql.Text.Letters

/-! # Letters of any case

The case of the letters `a` to `z` does not move them: a text in other letters falls apart as the
text itself does, and only its letters can differ.
-/

namespace RecordSql.Text

variable {s t : List Char}

theorem toNat_of_isAlpha {c : Char} (h : c.isAlpha = true) : 65 ≤ c.toNat ∧ c.toNat ≤ 122 := by
  simp only [Char.isAlpha, Char.isUpper, Char.isLower, Bool.or_eq_true, Bool.and_eq_true,
    decide_eq_true_eq, UInt32.le_iff_toNat_le, ↓Char.isValue, Char.reduceVal, UInt32.reduceToNat,
    Char.toNat_val] at h
  omega

theorem upperOf_of_isAlpha {c : Char} (h : c.isAlpha = true) : upperOf c = [c.toUpper] := by
  have hn := toNat_of_isAlpha h
  rw [upperOf, if_pos (by omega)]

theorem isAlpha_of_map_toLower_eq (h : s.map Char.toLower = t.map Char.toLower)
    (ht : ∀ c ∈ t, c.isAlpha = true) : ∀ c ∈ s, c.isAlpha = true := by
  intro c hc
  have hm : c.toLower ∈ t.map Char.toLower := h ▸ List.mem_map_of_mem hc
  obtain ⟨d, hd, he⟩ := List.mem_map.mp hm
  rw [← Char.isAlpha_toLower_eq_isAlpha, ← he, Char.isAlpha_toLower_eq_isAlpha]
  exact ht d hd

theorem eq_of_map_toLower_eq (h : s.map Char.toLower = t.map Char.toLower)
    (ht : ∀ c ∈ t, c.isAlpha = false) : s = t := by
  induction s generalizing t with
  | nil => simpa [eq_comm] using h
  | cons c s ih =>
    cases t with
    | nil => simp at h
    | cons d t =>
      obtain ⟨hc, hs⟩ : c.toLower = d.toLower ∧ s.map Char.toLower = t.map Char.toLower := by
        simpa using h
      have hd : d.isAlpha = false := ht d List.mem_cons_self
      have hl : c.isAlpha = false := by
        rw [← Char.isAlpha_toLower_eq_isAlpha, hc, Char.isAlpha_toLower_eq_isAlpha, hd]
      have hu : ∀ e : Char, e.isAlpha = false → e.toLower = e := fun e he =>
        Char.toLower_eq_of_not_isUpper fun h => by simp [Char.isAlpha, h] at he
      rw [hu c hl, hu d hd] at hc
      rw [hc, ih hs fun e he => ht e (List.mem_cons_of_mem d he)]

theorem map_toLower_toUpper (h : ∀ c ∈ s, c.isAlpha = true) :
    (toUpper (String.ofList s)).toList.map Char.toLower = s.map Char.toLower := by
  simp only [toUpper, String.toList_ofList]
  induction s with
  | nil => rfl
  | cons c s ih =>
    rw [List.flatMap_cons, upperOf_of_isAlpha (h c List.mem_cons_self), List.map_append,
      ih fun d hd => h d (List.mem_cons_of_mem c hd)]
    simp

/-- A text in other letters falls apart in front of an end without letters. -/
theorem exists_append_of_map_toLower_eq {w name suffix : List Char}
    (h : w.map Char.toLower = (name ++ suffix).map Char.toLower)
    (hs : ∀ c ∈ suffix, c.isAlpha = false) :
    ∃ a, w = a ++ suffix ∧ a.map Char.toLower = name.map Char.toLower := by
  rw [List.map_append, List.map_eq_append_iff] at h
  obtain ⟨a, b, rfl, ha, hb⟩ := h
  exact ⟨a, by rw [eq_of_map_toLower_eq hb hs], ha⟩

end RecordSql.Text
