import RecordSql.Proofs.Record.Canonical
import RecordSql.Proofs.Record.Reading

/-! # Phrases of annotations

The words of an annotation fall into phrases: `not` goes with the `null` behind it, `default` with
the word behind it, and any other word stands by itself. An annotation that is read is a sequence of
phrases, taken in one after the other. So the last phrase on missing values decides about them, even
if it stands behind the one that makes the column a key.
-/

namespace RecordSql

/-- Words of an annotation that are read together. -/
inductive Phrase
  | word (w : Word)
  | notNull
  | default (literal : String)
  deriving DecidableEq

namespace Phrase

inductive Spelled : List String → List Phrase → Prop
  | nil : Spelled [] []
  | word {text : String} {w : Word} {words : List String} {ps : List Phrase}
      (hc : ∀ field, Word.classify field text = .ok w) (hn : w ≠ .not) (hd : w ≠ .default)
      (h : Spelled words ps) : Spelled (text :: words) (.word w :: ps)
  | notNull {words : List String} {ps : List Phrase} (h : Spelled words ps) :
      Spelled ("not" :: "null" :: words) (.notNull :: ps)
  | default {words : List String} {ps : List Phrase} (literal : String) (h : Spelled words ps) :
      Spelled ("default" :: literal :: words) (.default literal :: ps)

def nullable? : Phrase → Option Bool
  | .word .primaryKey | .notNull => some false
  | .word .null => some true
  | _ => none

/-- A `null` stands behind the word for a key, and no phrase behind it takes it back. -/
def NullBehindKey (ps : List Phrase) : Prop :=
  ∃ before behind, ps = before ++ .word .null :: behind ∧ .word .primaryKey ∈ before ∧
    .word .primaryKey ∉ behind ∧ .notNull ∉ behind

variable {ps : List Phrase}

theorem nullable?_eq_some_true_iff {p : Phrase} : p.nullable? = some true ↔ p = .word .null := by
  unfold nullable?
  split <;> simp_all

theorem nullable?_eq_some_false_iff {p : Phrase} :
    p.nullable? = some false ↔ p = .word .primaryKey ∨ p = .notNull := by
  unfold nullable?
  split <;> simp_all

theorem forall_ne_some_false_iff :
    (∀ p ∈ ps, p.nullable? ≠ some false) ↔ .word .primaryKey ∉ ps ∧ .notNull ∉ ps := by
  constructor
  · exact fun h => ⟨fun hk => h _ hk rfl, fun hn => h _ hn rfl⟩
  · rintro ⟨hk, hn⟩ p hp hf
    rcases nullable?_eq_some_false_iff.mp hf with rfl | rfl
    · exact hk hp
    · exact hn hp

theorem findSome?_reverse_eq_some_true_iff :
    ps.reverse.findSome? nullable? = some true ↔ ∃ before behind,
      ps = before ++ .word .null :: behind ∧ ∀ p ∈ behind, p.nullable? ≠ some false := by
  constructor
  · intro h
    obtain ⟨behind, p, before, he, hp, hb⟩ := List.findSome?_eq_some_iff.mp h
    obtain rfl := nullable?_eq_some_true_iff.mp hp
    refine ⟨before.reverse, behind.reverse, ?_, fun p hp hf => ?_⟩
    · rw [← List.reverse_inj, he]
      simp
    · rw [hb p (List.mem_reverse.mp hp)] at hf
      cases hf
  · rintro ⟨before, behind, rfl, hb⟩
    rw [List.reverse_append, List.reverse_cons, List.append_assoc, List.findSome?_append]
    -- a further `null` may stand behind the first one
    cases hs : behind.reverse.findSome? nullable? with
    | none => rfl
    | some allowed =>
      obtain ⟨p, hp, hpa⟩ := List.exists_of_findSome?_eq_some hs
      cases allowed with
      | true => rfl
      | false => exact absurd hpa (hb p (List.mem_reverse.mp hp))

theorem nullBehindKey_iff_findSome? :
    NullBehindKey ps ↔
      .word .primaryKey ∈ ps ∧ ps.reverse.findSome? nullable? = some true := by
  rw [findSome?_reverse_eq_some_true_iff]
  constructor
  · rintro ⟨before, behind, rfl, hk, hb⟩
    exact ⟨List.mem_append_left _ hk, before, behind, rfl, forall_ne_some_false_iff.mpr hb⟩
  · rintro ⟨hk, before, behind, rfl, hb⟩
    have hb := forall_ne_some_false_iff.mp hb
    exact ⟨before, behind, rfl, by simpa [hb.1] using hk, hb⟩

end Phrase

namespace Word

variable {field word : String} {w : Word}

theorem classify_of_ok (h : classify field word = .ok w) (other : String) :
    classify other word = .ok w := by
  have ho := toOption_classify field other word
  rw [h] at ho
  cases hc : classify other word with
  | error e =>
    rw [hc] at ho
    cases ho
  | ok v =>
    rw [hc] at ho
    exact congrArg Except.ok (Option.some.inj ho).symm

theorem eq_of_classify (h : classify field word = .ok w) :
    (w = .not → word = "not") ∧ (w = .default → word = "default") ∧
      (w = .extends → word = "extends") := by
  rcases classify_eq_ok_iff.mp h with hf | ⟨-, hr⟩
  · unfold fixed? at hf
    split at hf <;> cases hf <;> simp
  · rcases of_readToken hr with ⟨unique, _, _, rfl, -⟩ | ⟨_, _, rfl⟩ | rfl
    · cases unique <;> simp [ofGroup]
    · simp
    · simp

end Word

namespace Directives

variable {field text : String} {a b : Directives} {words : List String} {ps : List Phrase}

def addPhrase (a : Directives) : Phrase → Directives
  | .word w => a.add w
  | .notNull => { a with nullable := some false }
  | .default literal => { a with default := some literal }

/-- Words that spell phrases are read as them. -/
theorem leads_spelled (h : Phrase.Spelled words ps) (field : String) (a : Directives) :
    Leads field words a (ps.foldl addPhrase a) := by
  induction h generalizing a with
  | nil => exact .nil
  | word hc hn hd _ ih => exact (leads_word (hc field) hn hd).append (ih _)
  | notNull _ ih =>
    intro rest
    rw [List.cons_append, addWords.eq_def]
    exact ih _ rest
  | default literal _ ih =>
    intro rest
    rw [List.cons_append, addWords.eq_def]
    exact ih _ rest

theorem exists_spelled (h : a.addWords field words = .ok b) :
    ∃ ps, Phrase.Spelled words ps ∧ ps.foldl addPhrase a = b := by
  induction a, words using addWords.induct with
  | case1 a =>
    cases h
    exact ⟨[], .nil, rfl⟩
  | case2 a word rest hnot hdefault hadd =>
    rw [addWords.eq_def] at h
    dsimp only at h
    cases hc : Word.classify field word with
    | error e =>
      rw [hc] at h
      cases h
    | ok w =>
      rw [hc] at h
      -- the two words that are read with the one behind them are known by their text
      cases w with
      | not =>
        obtain rfl := (Word.eq_of_classify hc).1 rfl
        dsimp only [bind, Except.bind] at h
        split at h
        · obtain ⟨ps, hs, he⟩ := hnot h
          exact ⟨.notNull :: ps, .notNull hs, he⟩
        · cases h
      | default =>
        obtain rfl := (Word.eq_of_classify hc).2.1 rfl
        cases rest with
        | nil => cases h
        | cons literal rest =>
          obtain ⟨ps, hs, he⟩ := hdefault h
          exact ⟨.default literal :: ps, .default literal hs, he⟩
      | _ =>
        obtain ⟨ps, hs, he⟩ := hadd _ h
        exact ⟨.word _ :: ps, .word (Word.classify_of_ok hc) (by simp) (by simp) hs, he⟩

theorem addWords_eq_ok_iff :
    a.addWords field words = .ok b ↔
      ∃ ps, Phrase.Spelled words ps ∧ ps.foldl addPhrase a = b := by
  refine ⟨exists_spelled, ?_⟩
  rintro ⟨ps, hs, rfl⟩
  have hl := leads_spelled hs field a []
  rwa [List.append_nil, addWords] at hl

/-- What an annotation says is what its phrases say together. -/
theorem read_eq_ok_iff :
    read field text = .ok a ↔
      ∃ ps, Phrase.Spelled (Text.words (Text.toLower text)) ps ∧ ps.foldl addPhrase empty = a :=
  addWords_eq_ok_iff

theorem read?_eq_some_iff :
    read? text = some a ↔
      ∃ ps, Phrase.Spelled (Text.words (Text.toLower text)) ps ∧ ps.foldl addPhrase empty = a := by
  have hread : read "" text = .ok a ↔ _ := read_eq_ok_iff
  rw [← hread, read?]
  cases read "" text <;> simp [Except.toOption]

theorem nullable_addPhrase (a : Directives) (p : Phrase) :
    (a.addPhrase p).nullable = p.nullable?.or a.nullable := by
  cases p with
  | word w =>
    cases w with
    | name s =>
      rw [addPhrase, add]
      split <;> rfl
    | _ => rfl
  | notNull => rfl
  | default literal => rfl

theorem nullable_foldl (ps : List Phrase) (a : Directives) :
    (ps.foldl addPhrase a).nullable =
      (ps.reverse.findSome? Phrase.nullable?).or a.nullable := by
  induction ps generalizing a with
  | nil => rfl
  | cons p ps ih =>
    rw [List.foldl_cons, ih, nullable_addPhrase, List.reverse_cons, List.findSome?_append,
      Option.or_assoc, List.findSome?_singleton]

theorem flags_addPhrase (a : Directives) (p : Phrase) :
    ((a.addPhrase p).primaryKey = true ↔ a.primaryKey = true ∨ p = .word .primaryKey) ∧
      ((a.addPhrase p).embed = true ↔ a.embed = true ∨ p = .word .extends) := by
  cases p with
  | word w =>
    cases w with
    | name s =>
      rw [addPhrase, add]
      split <;> simp
    | _ => simp [addPhrase, add]
  | notNull => simp [addPhrase]
  | default literal => simp [addPhrase]

theorem flag_foldl {flag : Directives → Bool} {w : Word}
    (h : ∀ a p, flag (addPhrase a p) = true ↔ flag a = true ∨ p = .word w) (ps : List Phrase)
    (a : Directives) :
    flag (ps.foldl addPhrase a) = true ↔ flag a = true ∨ .word w ∈ ps := by
  induction ps generalizing a with
  | nil => simp
  | cons p ps ih => rw [List.foldl_cons, ih, h, List.mem_cons, or_assoc, eq_comm (a := p)]

/-- Phrases make a key that can be missing if a `null` stands behind the word for the key. -/
theorem nullBehindKey_iff :
    Phrase.NullBehindKey ps ↔ (ps.foldl addPhrase empty).primaryKey = true ∧
      (ps.foldl addPhrase empty).nullable.getD true = true := by
  rw [Phrase.nullBehindKey_iff_findSome?, nullable_foldl,
    flag_foldl (fun a p => (flags_addPhrase a p).1)]
  have he : empty.primaryKey = true ↔ False := by decide
  have hn : empty.nullable = none := rfl
  rw [he, false_or, hn, Option.or_none]
  refine and_congr_right fun hk => ?_
  -- the word for the key says something about missing values, so that no default is needed
  have hs : ps.reverse.findSome? Phrase.nullable? ≠ none := fun hs => by
    have hp := List.findSome?_eq_none_iff.mp hs _ (List.mem_reverse.mpr hk)
    cases hp
  obtain ⟨allowed, ha⟩ := Option.ne_none_iff_exists'.mp hs
  simp [ha]

end Directives

end RecordSql
