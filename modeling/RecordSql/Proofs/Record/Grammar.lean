import RecordSql.Proofs.Record.Words

/-! # Words with parentheses

A word with parentheses is a group or a type with lengths: a name, an opening parenthesis, what it
encloses, and the closing parenthesis. The words that are read are these with any text behind the
first closing parenthesis, and that text is lost.
-/

namespace RecordSql

def ColumnType.IsCalled (t : ColumnType) (name : String) : Prop :=
  Text.sameLetters name t.name = true ∨ t = .bool ∧ Text.sameLetters name "BOOLEAN" = true

namespace ColumnType

variable {t : ColumnType} {name : String}

theorem lookup?_eq_some_iff : lookup? name = some t ↔ t.IsCalled name := by
  constructor
  · intro h
    unfold lookup? at h
    split at h
    · next hb => exact .inr ⟨(Option.some.inj h).symm, hb⟩
    · have hs := List.find?_some h
      exact .inl (Text.sameLetters_iff.mpr (Text.sameLetters_iff.mp hs).symm)
  · rintro (hs | ⟨rfl, hb⟩)
    · rw [lookup?_congr (Text.sameLetters_iff.mp hs), t.lookup?_name]
    · rw [lookup?, if_pos hb]

theorem IsCalled.isAlpha_of_mem (h : t.IsCalled name) {c : Char} (hc : c ∈ name.toList) :
    c.isAlpha = true := by
  rcases h with h | ⟨-, h⟩
  · exact Text.isAlpha_of_map_toLower_eq (Text.sameLetters_iff.mp h) t.isAlpha_of_mem_name c hc
  · have ha : "BOOLEAN".toList.all Char.isAlpha = true := by decide
    exact Text.isAlpha_of_map_toLower_eq (Text.sameLetters_iff.mp h) (List.all_eq_true.mp ha) c hc

theorem IsCalled.ne_group (h : t.IsCalled name) : name ≠ "index" ∧ name ≠ "unique" := by
  have hi : lookup? "index" = none := by decide
  have hu : lookup? "unique" = none := by decide
  have hl := lookup?_eq_some_iff.mpr h
  constructor
  · rintro rfl
    exact absurd (hi.symm.trans hl) (by simp)
  · rintro rfl
    exact absurd (hu.symm.trans hl) (by simp)

end ColumnType

theorem TypeToken.exists_append_of_read? {s : String} {token : TypeToken} (h : read? s = some token)
    (hp : '(' ∈ s.toList) :
    ∃ name argument rest, s = name ++ "(" ++ argument ++ ")" ++ rest ∧ '(' ∉ name.toList ∧
      ')' ∉ argument.toList ∧ token = ⟨name, some argument⟩ := by
  obtain ⟨name, tail, hs, hn⟩ := List.eq_append_cons_of_mem hp
  by_cases ht : ')' ∈ tail
  · obtain ⟨argument, rest, rfl, ha⟩ := List.eq_append_cons_of_mem ht
    have hr := read?_append hn ha rest
    rw [← hs, String.ofList_toList] at hr
    refine ⟨String.ofList name, String.ofList argument, String.ofList rest, ?_, ?_, ?_, ?_⟩
    · rw [← String.toList_inj, hs]
      simp
    · rwa [String.toList_ofList]
    · rwa [String.toList_ofList]
    · exact Option.some.inj (h.symm.trans hr)
  · have hc : ∀ c ∈ tail, (c != ')') = true := fun c hc => by
      rw [bne_iff_ne]
      exact ne_of_mem_of_not_mem hc ht
    rw [read?, hs, span_append hn] at h
    dsimp only at h
    rw [List.span_eq_takeWhile_dropWhile, List.dropWhile_eq_nil_iff.mpr hc] at h
    cases h

namespace Word

/-- A text spells a group or a type with lengths. -/
inductive Spells : String → Word → Prop
  | group (unique : Bool) {group : String} (hne : group ≠ "") (hg : ')' ∉ group.toList) :
    Spells (groupStart unique ++ "(" ++ group ++ ")") (ofGroup unique (some group))
  | type {t : ColumnType} {l : Lengths} {name lengths : String} (ht : t.IsCalled name)
    (hl : l.IsSpelled lengths) : Spells (name ++ "(" ++ lengths ++ ")") (.type t (some l))

/-- A word is read as the grammar has it, and refused as malformed when it is none of its words. -/
def FollowsGrammar (field word : String) : Prop :=
  (∀ w, classify field word = .ok w ↔ Spells word w) ∧
    ((∀ w, ¬ Spells word w) →
      ∃ fault, classify field word = .error (Failure.malformed field word fault))

variable {field word front rest : String} {v w : Word}

theorem Spells.exists_parentheses (h : Spells word w) :
    ∃ name argument, word = name ++ "(" ++ argument ++ ")" ∧ '(' ∉ name.toList ∧
      ')' ∉ argument.toList := by
  cases h with
  | group unique hne hg =>
    have hn : '(' ∉ (groupStart unique).toList := by cases unique <;> decide
    exact ⟨_, _, rfl, hn, hg⟩
  | type ht hl =>
    refine ⟨_, _, rfl, fun h => ?_, fun h => ?_⟩
    · exact absurd (ht.isAlpha_of_mem h) (by decide)
    · exact absurd (hl.toNat_of_mem h) (by decide)

theorem Spells.readToken_append (h : Spells front w)
    (hb : ∀ c ∈ front.toList, Text.isBlank c = false) (rest : String) :
    readToken (front ++ rest) = .ok w := by
  cases h with
  | @group unique group hne hg =>
    have hn : '(' ∉ (groupStart unique).toList := by cases unique <;> decide
    have ht : Text.trim group = group := by
      rw [← String.ofList_toList (s := group)]
      exact Text.trim_of_noBlank fun c hc => hb c (by simp [hc])
    rw [readToken_group (read?_parentheses_append hn hg rest), readGroup, ht, if_neg hne]
    rfl
  | @type t l name lengths ht hl =>
    have hn : '(' ∉ name.toList := fun h => absurd (ht.isAlpha_of_mem h) (by decide)
    have ha : ')' ∉ lengths.toList := fun h => absurd (hl.toNat_of_mem h) (by decide)
    rw [readToken, read?_parentheses_append hn ha rest]
    dsimp only
    rw [if_neg ht.ne_group.1, if_neg ht.ne_group.2, readType, ColumnType.lookup?_eq_some_iff.mpr ht]
    dsimp only
    rw [hl.read?_eq]

theorem spells_of_readGroup (unique : Bool) {argument : String} (ha : ')' ∉ argument.toList)
    (hb : ∀ c ∈ argument.toList, Text.isBlank c = false)
    (h : (readGroup (some argument)).map (ofGroup unique) = .ok w) :
    Spells (groupStart unique ++ "(" ++ argument ++ ")") w := by
  have ht : Text.trim argument = argument := by
    rw [← String.ofList_toList (s := argument)]
    exact Text.trim_of_noBlank hb
  rw [readGroup, ht] at h
  by_cases hne : argument = ""
  · rw [if_pos hne] at h
    cases h
  · rw [if_neg hne] at h
    cases h
    exact .group unique hne ha

theorem spells_of_readType {name argument : String}
    (hb : ∀ c ∈ argument.toList, Text.isBlank c = false)
    (h : readType word ⟨name, some argument⟩ = .ok w) :
    Spells (name ++ "(" ++ argument ++ ")") w := by
  unfold readType at h
  split at h
  · next hn => cases hn
  · next t a ht hs =>
    obtain rfl : argument = a := Option.some.inj hs
    split at h
    · next l hl =>
      cases h
      exact .type (ColumnType.lookup?_eq_some_iff.mp ht) (Lengths.isSpelled_of_read? hb hl)
    · cases h
  · cases h
  · next hn => cases hn

/-- Whatever is read has a word of the grammar in front. -/
theorem exists_spells_of_readToken (h : readToken word = .ok w) (hp : '(' ∈ word.toList)
    (hb : ∀ c ∈ word.toList, Text.isBlank c = false) :
    ∃ front rest, word = front ++ rest ∧ Spells front w := by
  cases ht : TypeToken.read? word with
  | none =>
    rw [readToken, ht] at h
    cases h
  | some token =>
    obtain ⟨name, argument, rest, hw, -, ha, rfl⟩ := TypeToken.exists_append_of_read? ht hp
    have hs : ∀ c ∈ argument.toList, Text.isBlank c = false := fun c hc => hb c (by simp [hw, hc])
    refine ⟨name ++ "(" ++ argument ++ ")", rest, hw, ?_⟩
    rw [readToken, ht] at h
    dsimp only at h
    split_ifs at h with hi hu
    · rw [hi]
      exact spells_of_readGroup false ha hs h
    · rw [hu]
      exact spells_of_readGroup true ha hs h
    · exact spells_of_readType hs h

/-- No word of the grammar starts with another one. -/
theorem Spells.rest_eq (h : Spells front v) (hr : Spells (front ++ rest) w) : rest = "" := by
  obtain ⟨name, argument, rfl, hn, ha⟩ := h.exists_parentheses
  obtain ⟨name', argument', he, hn', ha'⟩ := hr.exists_parentheses
  have ht := read?_parentheses_append hn ha rest
  rw [he, read?_parentheses hn' ha'] at ht
  cases ht
  simpa using he

theorem classify_parentheses (hp : '(' ∈ word.toList)
    (hb : ∀ c ∈ word.toList, Text.isBlank c = false) :
    classify field word = .ok w ↔ ∃ front rest, word = front ++ rest ∧ Spells front w := by
  rw [classify_eq_ok_iff, fixed?_of_mem hp]
  constructor
  · rintro (h | ⟨-, h⟩)
    · cases h
    · exact exists_spells_of_readToken h hp hb
  · rintro ⟨front, rest, rfl, hs⟩
    exact .inr ⟨rfl, hs.readToken_append (fun c hc => hb c (by simp [hc])) rest⟩

theorem classify_error (hp : '(' ∈ word.toList) (h : ∀ w, classify field word ≠ .ok w) :
    ∃ fault, classify field word = .error (Failure.malformed field word fault) := by
  unfold classify at h ⊢
  rw [fixed?_of_mem hp] at h ⊢
  cases hr : readToken word with
  | error fault => exact ⟨fault, rfl⟩
  | ok w =>
    rw [hr] at h
    exact absurd rfl (h w)

/-- Words with parentheses are read as the grammar has them exactly if no text stands behind a word
of it: a word is read by the word of the grammar in front, and the text behind that is lost. -/
theorem followsGrammar_iff (field : String) (hp : '(' ∈ word.toList)
    (hb : ∀ c ∈ word.toList, Text.isBlank c = false) :
    (∀ w, classify field word = .ok w ↔ ∃ front rest, word = front ++ rest ∧ Spells front w) ∧
      ((∀ w, classify field word ≠ .ok w) →
        ∃ fault, classify field word = .error (Failure.malformed field word fault)) ∧
      (FollowsGrammar field word ↔
        ∀ front rest w, word = front ++ rest → Spells front w → rest = "") := by
  have hc : ∀ w, classify field word = .ok w ↔ ∃ front rest, word = front ++ rest ∧ Spells front w :=
    fun w => classify_parentheses hp hb
  refine ⟨hc, classify_error hp, ?_⟩
  constructor
  · rintro ⟨hg, -⟩ front rest w hw hs
    have hr : Spells word w := (hg w).mp ((hc w).mpr ⟨front, rest, hw, hs⟩)
    exact hs.rest_eq (hw ▸ hr)
  · intro h
    have hg : ∀ w, classify field word = .ok w ↔ Spells word w := by
      intro w
      rw [hc]
      constructor
      · rintro ⟨front, rest, hw, hs⟩
        obtain rfl := h front rest w hw hs
        rwa [hw, String.append_empty]
      · exact fun hs => ⟨word, "", (String.append_empty).symm, hs⟩
    exact ⟨hg, fun hn => classify_error hp fun w hw => hn w ((hg w).mp hw)⟩

theorem spells_signed :
    Spells ("decimal" ++ "(" ++ ("+10" ++ "," ++ "02") ++ ")") (.type .decimal (some ⟨10, 2⟩)) := by
  have hf : Number.Numeral "+10".toList (10 : UInt32).toNat :=
    .signed (s := ['1', '0']) (by decide) (by simp)
  have hs : Number.Numeral "02".toList (2 : UInt32).toNat :=
    .plain (s := ['0', '2']) (by decide) (by simp)
  exact .type (.inl (by decide)) (.two hf hs)

theorem followsGrammar_signed :
    '(' ∈ "decimal(+10,02)".toList ∧
      (∀ c ∈ "decimal(+10,02)".toList, Text.isBlank c = false) ∧
      FollowsGrammar "Price" "decimal(+10,02)" := by
  have hp : '(' ∈ "decimal(+10,02)".toList := by decide
  have hw : Text.PlainWord "decimal(+10,02)" := by decide
  have hb : ∀ c ∈ "decimal(+10,02)".toList, Text.isBlank c = false := fun c hc => (hw.2 c hc).1
  refine ⟨hp, hb, (followsGrammar_iff "Price" hp hb).2.2.mpr ?_⟩
  intro front rest w he hs
  have hd : Spells "decimal(+10,02)" (.type .decimal (some ⟨10, 2⟩)) := spells_signed
  exact hs.rest_eq (he ▸ hd)

theorem not_followsGrammar_glued :
    ¬ ∀ field word, '(' ∈ word.toList → (∀ c ∈ word.toList, Text.isBlank c = false) →
      FollowsGrammar field word := by
  intro h
  have hw : Text.PlainWord "varchar(8)null" := by decide
  have hn : FollowsGrammar "Name" "varchar(8)null" := h _ _ (by decide) fun c hc => (hw.2 c hc).1
  have hc : classify "Name" "varchar(8)null" = .ok (.type .varchar (some ⟨8, 0⟩)) := by decide
  obtain ⟨name, argument, he, -, -⟩ := ((hn.1 _).mp hc).exists_parentheses
  have hl : "varchar(8)null".toList.getLast? = some ')' := by
    rw [he, String.toList_append]
    exact List.getLast?_concat
  exact absurd hl (by decide)

end Word

end RecordSql
