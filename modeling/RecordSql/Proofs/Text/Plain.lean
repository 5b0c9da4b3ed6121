import RecordSql.Proofs.Text.Lower

/-! # Plain words

A plain word is what lower case makes of a word of ASCII. Plain words with spaces between them are
in lower case, and they are the words of their text.
-/

namespace RecordSql.Text

/-- A character of ASCII that is neither a blank nor a capital. -/
def PlainChar (c : Char) : Prop :=
  isBlank c = false ∧ c.toNat < 128 ∧ c.toLower = c

instance (c : Char) : Decidable (PlainChar c) :=
  inferInstanceAs (Decidable (_ ∧ _))

def PlainWord (w : String) : Prop :=
  w ≠ "" ∧ ∀ c ∈ w.toList, PlainChar c

instance (w : String) : Decidable (PlainWord w) :=
  decidable_of_iff (w ≠ "" ∧ w.toList.all (PlainChar ·) = true) (by simp [PlainWord])

variable {u v w text : String} {ws : List String}

theorem PlainWord.append (hu : PlainWord u) (hv : PlainWord v) : PlainWord (u ++ v) := by
  refine ⟨fun h => hu.1 (String.append_eq_empty_iff.mp h).1, fun c hc => ?_⟩
  rw [String.toList_append, List.mem_append] at hc
  exact hc.elim (hu.2 c) (hv.2 c)

theorem trim_of_plainChar (h : ∀ c ∈ w.toList, PlainChar c) : trim w = w := by
  have ht := trim_of_noBlank fun c hc => (h c hc).1
  rwa [String.ofList_toList] at ht

theorem toLower_of_plain (h : ∀ c ∈ text.toList, c.toNat < 128) :
    toLower text = plainLower text := by
  rw [toLower, lowerFrom_of_plain [] _ h, plainLower, ← String.toList_inj, String.toList_ofList,
    String.toList_map]

theorem toNat_toLower_lt {c : Char} (h : c.toNat < 128) : c.toLower.toNat < 128 := by
  by_cases hu : c.isUpper = true
  · have ha : c.toLower.isAlpha = true := by
      rw [Char.isAlpha_toLower_eq_isAlpha, Char.isAlpha, hu, Bool.true_or]
    have hn := toNat_of_isAlpha ha
    omega
  · rwa [Char.toLower_eq_of_not_isUpper (by simpa using hu)]

theorem plainWord_of_mem_words (ht : ∀ c ∈ text.toList, c.toNat < 128)
    (h : w ∈ words (toLower text)) : PlainWord w := by
  obtain ⟨hne, hw⟩ := of_mem_words h
  refine ⟨hne, fun c hc => ?_⟩
  obtain ⟨hb, hm⟩ := hw c hc
  rw [toLower_of_plain ht, plainLower, String.toList_map] at hm
  obtain ⟨d, hd, rfl⟩ := List.mem_map.mp hm
  exact ⟨hb, toNat_toLower_lt (ht d hd), Char.toLower_toLower_eq_toLower d⟩

theorem PlainWord.isWord (h : PlainWord w) : IsWord w :=
  ⟨h.1, fun c hc => (h.2 c hc).1⟩

theorem PlainWord.toLower (h : PlainWord w) : toLower w = w := by
  rw [toLower_of_plain fun c hc => (h.2 c hc).2.1, plainLower, ← String.toList_inj,
    String.toList_map]
  exact (List.map_congr_left fun c hc => (h.2 c hc).2.2).trans (List.map_id _)

theorem words_toLower_plain (h : ∀ w ∈ ws, PlainWord w) :
    words (toLower (" ".intercalate ws)) = ws := by
  rw [words_toLower_intercalate fun w hw => (h w hw).isWord]
  exact (List.map_congr_left fun w hw => (h w hw).toLower).trans (List.map_id ws)

end RecordSql.Text
