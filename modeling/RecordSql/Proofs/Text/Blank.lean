import RecordSql.Text.Blank

/-! # Blanks around a text

Trimming a text that neither starts nor ends with a blank takes away only the blanks around it, and
its first word ends where the first blank follows.
-/

namespace RecordSql.Text

variable {p : Char → Bool} {before s after : List Char}

theorem isBlank_of_visible {c : Char} (h : 32 < c.toNat ∧ c.toNat < 127) : isBlank c = false := by
  rw [Bool.eq_false_iff]
  intro hb
  simp only [isBlank, Bool.or_eq_true, Bool.and_eq_true, decide_eq_true_eq, Char.le_def,
    Char.ext_iff, UInt32.le_iff_toNat_le, ← UInt32.toNat_inj, ↓Char.isValue, Char.reduceVal,
    UInt32.reduceToNat, Char.toNat_val] at hb
  omega

theorem dropWhile_append_eq (hb : ∀ c ∈ before, p c = true) (hs : ∀ c ∈ s.head?, p c = false) :
    (before ++ s).dropWhile p = s := by
  rw [List.dropWhile_append_of_pos hb]
  cases s with
  | nil => rfl
  | cons c s => exact List.dropWhile_cons_of_neg (by simpa using hs)

theorem dropEnd_append (h : ∀ c ∈ s.getLast?, p c = false) (after : List Char) :
    dropEnd p (s ++ after) = s ++ dropEnd p after := by
  have hn : ∀ c ∈ ([] : List Char), p c = true := by simp
  have hs : s.reverse.dropWhile p = s.reverse := dropWhile_append_eq hn (by simpa using h)
  rw [dropEnd, dropEnd, List.reverse_append, List.dropWhile_append]
  split
  · next he =>
    rw [hs, List.isEmpty_iff.mp he, List.reverse_reverse, List.reverse_nil, List.append_nil]
  · rw [List.reverse_append, List.reverse_reverse]

theorem dropEnd_prefix (p : Char → Bool) (s : List Char) : dropEnd p s <+: s := by
  rw [← List.reverse_suffix, dropEnd, List.reverse_reverse]
  exact List.dropWhile_suffix p

theorem mem_head?_of_dropEnd {c : Char} (h : c ∈ (dropEnd p s).head?) : c ∈ s.head? := by
  obtain ⟨dropped, hs⟩ := dropEnd_prefix p s
  rw [← hs, List.head?_append, Option.mem_def.mp h]
  rfl

/-- Trimming takes away the blanks in front of a text without blanks at its ends, and those at the end
of what stands behind it. -/
theorem trim_append_of_ends (hb : ∀ c ∈ before, isBlank c = true) (hne : s ≠ [])
    (hf : ∀ c ∈ s.head?, isBlank c = false) (hl : ∀ c ∈ s.getLast?, isBlank c = false)
    (after : List Char) :
    trim (String.ofList (before ++ (s ++ after))) = String.ofList (s ++ dropEnd isBlank after) := by
  have hd : ∀ c ∈ (s ++ after).head?, isBlank c = false := by
    cases s with
    | nil => exact absurd rfl hne
    | cons c s => exact hf
  rw [trim, trimOf, String.toList_ofList, dropWhile_append_eq hb hd, dropEnd_append hl]

theorem trim_append (hb : ∀ c ∈ before, isBlank c = true) (hs : ∀ c ∈ s, isBlank c = false)
    (hne : s ≠ []) (after : List Char) :
    trim (String.ofList (before ++ (s ++ after))) = String.ofList (s ++ dropEnd isBlank after) :=
  trim_append_of_ends hb hne (fun c hc => hs c (List.mem_of_head? hc))
    (fun c hc => hs c (List.mem_of_getLast? hc)) after

theorem trim_cons {c : Char} (h : isBlank c = true) (s : List Char) :
    trim (String.ofList (c :: s)) = trim (String.ofList s) := by
  rw [trim, trim, trimOf, trimOf, String.toList_ofList, String.toList_ofList,
    List.dropWhile_cons_of_pos h]

theorem trim_of_noBlank (hs : ∀ c ∈ s, isBlank c = false) :
    trim (String.ofList s) = String.ofList s := by
  cases s with
  | nil => rfl
  | cons c s =>
    have hb : ∀ c ∈ ([] : List Char), isBlank c = true := by simp
    have hn : dropEnd isBlank [] = [] := rfl
    have ht := trim_append hb hs (List.cons_ne_nil c s) []
    rwa [hn, List.append_nil, List.nil_append] at ht

theorem chunks_append (hs : ∀ c ∈ s, isBlank c = false) :
    chunks (s ++ after) = (s ++ (chunks after).1, (chunks after).2) := by
  induction s with
  | nil => rfl
  | cons c s ih =>
    have hc : isBlank c = false := hs c List.mem_cons_self
    rw [List.cons_append, chunks, ih fun d hd => hs d (List.mem_cons_of_mem c hd), hc]
    rfl

theorem headD_words (hs : ∀ c ∈ s, isBlank c = false) (hne : s ≠ [])
    (ha : ∀ c ∈ after.head?, isBlank c = true) :
    (words (String.ofList (s ++ after))).headD "" = String.ofList s := by
  have hc : (chunks after).1 = [] := by
    cases after with
    | nil => rfl
    | cons c after =>
      rw [chunks, ha c rfl]
      rfl
  rw [words, String.toList_ofList, chunks_append hs, hc, List.append_nil]
  dsimp only
  rw [closeWord, List.isEmpty_eq_false_iff.mpr hne]
  rfl

theorem words_append (hs : ∀ c ∈ s, isBlank c = false) (hne : s ≠ []) {b : Char}
    (hb : isBlank b = true) (after : List Char) :
    words (String.ofList (s ++ b :: after)) = String.ofList s :: words (String.ofList after) := by
  rw [words, words, String.toList_ofList, String.toList_ofList, chunks_append hs, chunks, hb]
  dsimp only
  rw [if_pos rfl, List.append_nil, closeWord, List.isEmpty_eq_false_iff.mpr hne]
  rfl

theorem words_of_noBlank (hs : ∀ c ∈ s, isBlank c = false) (hne : s ≠ []) :
    words (String.ofList s) = [String.ofList s] := by
  have hc : chunks (s ++ []) = (s ++ [], []) := chunks_append hs
  rw [List.append_nil] at hc
  rw [words, String.toList_ofList, hc]
  dsimp only
  rw [closeWord, List.isEmpty_eq_false_iff.mpr hne]
  rfl

theorem mem_closeWord {v word : List Char} {rest : List (List Char)}
    (h : v ∈ closeWord word rest) : v = word ∧ word ≠ [] ∨ v ∈ rest := by
  unfold closeWord at h
  split at h
  · exact .inr h
  · next hne =>
    rcases List.mem_cons.mp h with rfl | h
    · exact .inl ⟨rfl, by simpa using hne⟩
    · exact .inr h

theorem mem_of_mem_chunks {c : Char} :
    (c ∈ (chunks s).1 → c ∈ s) ∧ ∀ v ∈ (chunks s).2, c ∈ v → c ∈ s := by
  induction s with
  | nil => simp [chunks]
  | cons d s ih =>
    rw [chunks]
    dsimp only
    split
    · refine ⟨fun hc => absurd hc List.not_mem_nil, fun v hv hc => List.mem_cons_of_mem d ?_⟩
      rcases mem_closeWord hv with ⟨rfl, -⟩ | hv
      · exact ih.1 hc
      · exact ih.2 v hv hc
    · refine ⟨fun hc => ?_, fun v hv hc => List.mem_cons_of_mem d (ih.2 v hv hc)⟩
      rcases List.mem_cons.mp hc with rfl | hc
      · exact List.mem_cons_self
      · exact List.mem_cons_of_mem d (ih.1 hc)

theorem of_mem_words {text word : String} (h : word ∈ words text) :
    word ≠ "" ∧ ∀ c ∈ word.toList, isBlank c = false ∧ c ∈ text.toList := by
  obtain ⟨hf, hr⟩ := chunks_noBlank text.toList
  obtain ⟨v, hv, rfl⟩ := List.mem_map.mp h
  rw [ne_eq, ← String.toList_eq_nil_iff, String.toList_ofList]
  rcases mem_closeWord hv with ⟨rfl, hne⟩ | hv
  · exact ⟨hne, fun c hc => ⟨hf c hc, mem_of_mem_chunks.1 hc⟩⟩
  · exact ⟨(hr v hv).1, fun c hc => ⟨(hr v hv).2 c hc, mem_of_mem_chunks.2 v hv hc⟩⟩

theorem words_intercalate {ws : List String}
    (h : ∀ w ∈ ws, w ≠ "" ∧ ∀ c ∈ w.toList, isBlank c = false) :
    words (" ".intercalate ws) = ws := by
  induction ws with
  | nil => rfl
  | cons w ws ih =>
    obtain ⟨hne, hb⟩ := h w List.mem_cons_self
    have hne : w.toList ≠ [] := by simpa using hne
    have hs : isBlank ' ' = true := by decide
    cases ws with
    | nil =>
      rw [String.intercalate_singleton, ← String.ofList_toList (s := w), words_of_noBlank hb hne]
    | cons v ws =>
      have ht : w ++ " " ++ " ".intercalate (v :: ws) =
          String.ofList (w.toList ++ ' ' :: (" ".intercalate (v :: ws)).toList) := by
        simp [← String.toList_inj]
      rw [String.intercalate_cons_cons, ht, words_append hb hne hs, String.ofList_toList,
        String.ofList_toList, ih fun w hw => h w (List.mem_cons_of_mem _ hw)]

end RecordSql.Text
