import RecordSql.Proofs.Record.Phrases

/-! # Directives in any order

An annotation is a list of directives, each a word or two words that go together. If no two of them
are about the same, the annotation says the same in any order of them, or is malformed in all. The
one exception is a name that is in lower case the default of the same annotation: it is a name only
as long as the default does not stand in front of it.
-/

namespace RecordSql

inductive Topic
  | exclusion
  | extension
  | direction
  | nullability
  | autoIncrement
  | default
  | type
  | index
  | unique
  | name
  deriving DecidableEq

def Word.topic : Word → Topic
  | .exclude => .exclusion
  | .extends => .extension
  | .readOnly | .writeOnly => .direction
  | .primaryKey | .not | .null => .nullability
  | .autoIncrement => .autoIncrement
  | .default => .default
  | .type _ _ => .type
  | .index _ => .index
  | .unique _ => .unique
  | .name _ => .name

namespace Phrase

def topic : Phrase → Topic
  | .word w => w.topic
  | .notNull => .nullability
  | .default _ => .default

variable {word : String} {words : List String} {ps : List Phrase}

/-! ## What words spell -/

theorem Spelled.first (h : Spelled (word :: words) ps) :
    (∃ w qs, Word.classify "" word = .ok w ∧ w ≠ .not ∧ w ≠ .default ∧ Spelled words qs ∧
      ps = .word w :: qs) ∨
    (∃ rest qs, word = "not" ∧ words = "null" :: rest ∧ Spelled rest qs ∧ ps = .notNull :: qs) ∨
    ∃ literal rest qs, word = "default" ∧ words = literal :: rest ∧ Spelled rest qs ∧
      ps = .default literal :: qs := by
  cases h with
  | word hc hn hd h => exact .inl ⟨_, _, hc "", hn, hd, h, rfl⟩
  | notNull h => exact .inr (.inl ⟨_, _, rfl, rfl, h, rfl⟩)
  | default literal h => exact .inr (.inr ⟨literal, _, _, rfl, rfl, h, rfl⟩)

theorem spelled_word_iff (hn : word ≠ "not") (hd : word ≠ "default") :
    Spelled (word :: words) ps ↔
      ∃ w qs, Word.classify "" word = .ok w ∧ Spelled words qs ∧ ps = .word w :: qs := by
  constructor
  · intro h
    rcases h.first with ⟨w, qs, hc, -, -, hr, he⟩ | ⟨_, _, hw, -⟩ | ⟨_, _, _, hw, -⟩
    · exact ⟨w, qs, hc, hr, he⟩
    · exact absurd hw hn
    · exact absurd hw hd
  · rintro ⟨w, qs, hc, h, rfl⟩
    obtain ⟨hwn, hwd, -⟩ := Word.eq_of_classify hc
    exact .word (Word.classify_of_ok hc) (fun he => hn (hwn he)) (fun he => hd (hwd he)) h

theorem spelled_notNull_iff :
    Spelled ("not" :: "null" :: words) ps ↔ ∃ qs, Spelled words qs ∧ ps = .notNull :: qs := by
  constructor
  · intro h
    rcases h.first with ⟨w, _, hc, hn, -⟩ | ⟨_, qs, -, hw, hr, he⟩ | ⟨_, _, _, hw, -⟩
    · exact absurd (Except.ok.inj hc).symm hn
    · exact ⟨qs, (List.cons.inj hw).2 ▸ hr, he⟩
    · exact absurd hw (by decide)
  · rintro ⟨qs, h, rfl⟩
    exact .notNull h

theorem spelled_default_iff {literal : String} :
    Spelled ("default" :: literal :: words) ps ↔
      ∃ qs, Spelled words qs ∧ ps = .default literal :: qs := by
  constructor
  · intro h
    rcases h.first with ⟨w, _, hc, -, hd, -⟩ | ⟨_, _, hw, -⟩ | ⟨_, _, qs, -, hw, hr, he⟩
    · exact absurd (Except.ok.inj hc).symm hd
    · exact absurd hw (by decide)
    · obtain ⟨rfl, rfl⟩ := List.cons.inj hw
      exact ⟨qs, hr, he⟩
  · rintro ⟨qs, h, rfl⟩
    exact .default literal h

end Phrase

/-- A directive as it is written, in letters of any case. -/
inductive Directive
  | word (text : String)
  | pair (first second : String)
  deriving DecidableEq

namespace Directive

def words : Directive → List String
  | word text => [text]
  | pair first second => [first, second]

/-- Two words go together as `not null` or as a default, and are no directives by themselves then. -/
def IsWritten : Directive → Prop
  | word text =>
    Text.IsWord text ∧ Text.toLower text ≠ "not" ∧ Text.toLower text ≠ "default"
  | pair first second =>
    Text.IsWord first ∧ Text.IsWord second ∧
      (Text.toLower first = "not" ∧ Text.toLower second = "null" ∨
        Text.toLower first = "default")

instance (d : Directive) : Decidable d.IsWritten :=
  match d with
  | word _ => inferInstanceAs (Decidable (_ ∧ _))
  | pair _ _ => inferInstanceAs (Decidable (_ ∧ _))

def phrase? : Directive → Option Phrase
  | word text => (Word.classify "" (Text.toLower text)).toOption.map .word
  | pair first second =>
    if Text.toLower first = "default" then some (.default (Text.toLower second)) else some .notNull

def text (ds : List Directive) : String :=
  " ".intercalate (ds.flatMap words)

def phrases (ds : List Directive) : List Phrase :=
  ds.filterMap phrase?

def Different (ds : List Directive) : Prop :=
  ((phrases ds).map Phrase.topic).Nodup

instance (ds : List Directive) : Decidable (Different ds) :=
  inferInstanceAs (Decidable (List.Nodup _))

/-- The name that directives give is in lower case the default that they give. -/
def NameDefault (ds : List Directive) : Prop :=
  ∃ s, .word (.name s) ∈ phrases ds ∧ .default s ∈ phrases ds

variable {ds es : List Directive} {d : Directive} {ps : List Phrase} {field : String}
  {a : Directives}

theorem isWord_of_mem (hw : ∀ d ∈ ds, d.IsWritten) :
    ∀ word ∈ ds.flatMap words, Text.IsWord word := by
  intro word hm
  obtain ⟨d, hd, hm⟩ := List.mem_flatMap.mp hm
  cases d with
  | word text =>
    rw [List.mem_singleton.mp hm]
    exact (hw _ hd).1
  | pair first second =>
    rcases List.mem_pair.mp hm with rfl | rfl
    · exact (hw _ hd).1
    · exact (hw _ hd).2.1

theorem spelled_append_iff (hw : d.IsWritten) (words : List String) :
    Phrase.Spelled (d.words.map Text.toLower ++ words) ps ↔
      ∃ p qs, d.phrase? = some p ∧ Phrase.Spelled words qs ∧ ps = p :: qs := by
  cases d with
  | word text =>
    obtain ⟨-, hn, hd⟩ := hw
    refine (Phrase.spelled_word_iff hn hd).trans ?_
    cases hc : Word.classify "" (Text.toLower text) <;> simp [phrase?, hc, Except.toOption]
  | pair first second =>
    obtain ⟨-, -, ⟨hn, hs⟩ | hd⟩ := hw
    · rw [Directive.words, List.map_cons, List.map_singleton, hn, hs]
      refine Phrase.spelled_notNull_iff.trans ?_
      simp [phrase?, hn]
    · rw [Directive.words, List.map_cons, List.map_singleton, hd]
      refine Phrase.spelled_default_iff.trans ?_
      simp [phrase?, hd]

theorem spelled_iff (hw : ∀ d ∈ ds, d.IsWritten) :
    Phrase.Spelled ((ds.flatMap words).map Text.toLower) ps ↔
      (∀ d ∈ ds, d.phrase? ≠ none) ∧ phrases ds = ps := by
  induction ds generalizing ps with
  | nil =>
    constructor
    · intro h
      cases h
      exact ⟨by simp, rfl⟩
    · rintro ⟨-, rfl⟩
      exact .nil
  | cons d ds ih =>
    rw [List.flatMap_cons, List.map_append, spelled_append_iff (hw d List.mem_cons_self),
      List.forall_mem_cons, phrases, List.filterMap_cons]
    simp only [ih fun e he => hw e (List.mem_cons_of_mem d he)]
    cases d.phrase? with
    | none => simp
    | some p =>
      constructor
      · rintro ⟨_, _, ⟨⟩, ⟨hr, rfl⟩, rfl⟩
        exact ⟨⟨by simp, hr⟩, rfl⟩
      · rintro ⟨⟨-, hr⟩, rfl⟩
        exact ⟨p, _, rfl, ⟨hr, rfl⟩, rfl⟩

theorem read_text_eq_ok_iff (hw : ∀ d ∈ ds, d.IsWritten) :
    Directives.read field (text ds) = .ok a ↔
      (∀ d ∈ ds, d.phrase? ≠ none) ∧ (phrases ds).foldl Directives.addPhrase .empty = a := by
  rw [Directives.read_eq_ok_iff, text, Text.words_toLower_intercalate (isWord_of_mem hw)]
  simp only [spelled_iff hw]
  constructor
  · rintro ⟨ps, ⟨hr, rfl⟩, he⟩
    exact ⟨hr, he⟩
  · rintro ⟨hr, he⟩
    exact ⟨_, ⟨hr, rfl⟩, he⟩

end Directive

namespace Directives

variable {a : Directives} {p q : Phrase} {ps qs : List Phrase} {s : String}

/-- Take in a phrase, a name also where it is the default. -/
def put (a : Directives) : Phrase → Directives
  | .word (.name s) => { a with name := some s }
  | p => a.addPhrase p

theorem default_of_addPhrase (h : (a.addPhrase p).default = some s) :
    a.default = some s ∨ p = .default s := by
  cases p with
  | word w =>
    refine .inl ?_
    cases w with
    | name t =>
      rw [addPhrase, add] at h
      split at h <;> exact h
    | _ => exact h
  | notNull => exact .inl h
  | default literal => exact .inr (congrArg _ (Option.some.inj h))

theorem addPhrase_eq_put (h : ∀ s, p = .word (.name s) → a.default ≠ some s) :
    a.addPhrase p = a.put p := by
  unfold put
  split
  · next s => exact if_neg (h s rfl)
  · rfl

theorem foldl_addPhrase_eq_put
    (h : ∀ s, .word (.name s) ∈ ps → a.default ≠ some s ∧ .default s ∉ ps) :
    ps.foldl addPhrase a = ps.foldl put a := by
  induction ps generalizing a with
  | nil => rfl
  | cons p ps ih =>
    have hp : a.addPhrase p = a.put p :=
      addPhrase_eq_put fun s hs => (h s (hs ▸ List.mem_cons_self)).1
    rw [List.foldl_cons, List.foldl_cons, ← hp]
    refine ih fun s hs => ?_
    obtain ⟨ha, hm⟩ := h s (List.mem_cons_of_mem p hs)
    refine ⟨fun hd => ?_, fun hd => hm (List.mem_cons_of_mem p hd)⟩
    rcases default_of_addPhrase hd with hd | rfl
    · exact ha hd
    · exact hm List.mem_cons_self

theorem put_comm (h : p.topic ≠ q.topic) (a : Directives) : (a.put p).put q = (a.put q).put p := by
  rcases p with v | _ | _ <;> rcases q with w | _ | _
  case word.word => cases v <;> cases w <;> first | rfl | exact absurd rfl h
  case word.notNull | word.default => cases v <;> first | rfl | exact absurd rfl h
  case notNull.word | default.word => cases w <;> first | rfl | exact absurd rfl h
  all_goals first | rfl | exact absurd rfl h

/-- Phrases about different things say the same in any order, unless one of them names the default. -/
theorem foldl_addPhrase_perm (h : ps.Perm qs) (ht : (ps.map Phrase.topic).Nodup)
    (hn : ∀ s, .word (.name s) ∈ ps → .default s ∉ ps) :
    ps.foldl addPhrase empty = qs.foldl addPhrase empty := by
  have he : ∀ s, empty.default ≠ some s := by simp [empty]
  rw [foldl_addPhrase_eq_put fun s hs => ⟨he s, hn s hs⟩,
    foldl_addPhrase_eq_put fun s hs => ⟨he s, fun hd => hn s (h.mem_iff.mpr hs) (h.mem_iff.mpr hd)⟩]
  refine h.foldl_eq' (fun p hp q hq a => ?_) empty
  by_cases hpq : p = q
  · rw [hpq]
  · exact put_comm (fun hx => hpq (List.inj_on_of_nodup_map ht hp hq hx)) a

theorem name_addPhrase (h : p.topic ≠ .name) (a : Directives) : (a.addPhrase p).name = a.name := by
  cases p with
  | word w =>
    cases w with
    | name s => exact absurd rfl h
    | _ => rfl
  | notNull => rfl
  | default literal => rfl

theorem name_foldl (h : ∀ p ∈ ps, p.topic ≠ .name) (a : Directives) :
    (ps.foldl addPhrase a).name = a.name := by
  induction ps generalizing a with
  | nil => rfl
  | cons p ps ih =>
    rw [List.foldl_cons, ih fun q hq => h q (List.mem_cons_of_mem p hq),
      name_addPhrase (h p List.mem_cons_self)]

end Directives

namespace Directive

variable {ds es : List Directive} {d e : Directive}

theorem phrases_perm (h : es.Perm ds) : (phrases es).Perm (phrases ds) :=
  h.filterMap phrase?

theorem name_swapped {rest : List Phrase} {s : String}
    (ht : ((.word (.name s) :: .default s :: rest : List Phrase).map Phrase.topic).Nodup) :
    (.word (.name s) :: .default s :: rest : List Phrase).foldl Directives.addPhrase .empty ≠
      (.default s :: .word (.name s) :: rest : List Phrase).foldl Directives.addPhrase .empty := by
  have hr : ∀ p ∈ rest, p.topic ≠ .name := by
    intro p hp he
    refine (List.nodup_cons.mp ht).1 (List.mem_cons_of_mem _ ?_)
    exact List.mem_map.mpr ⟨p, hp, he⟩
  intro h
  have hn := congrArg Directives.name h
  rw [List.foldl_cons, List.foldl_cons, List.foldl_cons, List.foldl_cons, Directives.name_foldl hr,
    Directives.name_foldl hr] at hn
  simp [Directives.addPhrase, Directives.add, Directives.empty] at hn

/-- Of directives that can be read and of which one names the default, two orders do not say the same. -/
theorem exists_perm_ne (hd : Different ds) (hn : NameDefault ds) :
    ∃ es fs : List Directive, es.Perm ds ∧ fs.Perm ds ∧
      (phrases es).foldl Directives.addPhrase .empty ≠
        (phrases fs).foldl Directives.addPhrase .empty := by
  obtain ⟨s, hn, hl⟩ := hn
  obtain ⟨d, hdm, hdn⟩ := List.mem_filterMap.mp hn
  obtain ⟨e, hem, hel⟩ := List.mem_filterMap.mp hl
  have hne : e ≠ d := by
    rintro rfl
    rw [hdn] at hel
    cases hel
  have hes : (d :: e :: (ds.erase d).erase e).Perm ds :=
    (((List.perm_cons_erase ((List.mem_erase_of_ne hne).mpr hem)).cons d).symm).trans
      (List.perm_cons_erase hdm).symm
  have hps : phrases (d :: e :: (ds.erase d).erase e) =
      .word (.name s) :: .default s :: phrases ((ds.erase d).erase e) := by
    simp [phrases, hdn, hel]
  have hqs : phrases (e :: d :: (ds.erase d).erase e) =
      .default s :: .word (.name s) :: phrases ((ds.erase d).erase e) := by
    simp [phrases, hdn, hel]
  -- the name and the default come first, in either order
  refine ⟨_, _, hes, (List.Perm.swap d e _).trans hes, ?_⟩
  rw [hps, hqs]
  refine name_swapped ?_
  rw [← hps]
  exact ((phrases_perm hes).map Phrase.topic).nodup_iff.mpr hd

/-- Directives that are about different things are read as the same in any order exactly if one of them
is malformed, or none names what is in lower case the default. -/
theorem read_text_perm_iff {ds : List Directive} (hw : ∀ d ∈ ds, d.IsWritten)
    (hd : Different ds) :
    (∀ es : List Directive, es.Perm ds → ∀ field a,
      Directives.read field (text es) = .ok a ↔ Directives.read field (text ds) = .ok a) ↔
      ((∀ d ∈ ds, d.phrase? ≠ none) → ¬ NameDefault ds) := by
  have hr : ∀ es : List Directive, es.Perm ds → ∀ field a,
      Directives.read field (text es) = .ok a ↔ (∀ d ∈ ds, d.phrase? ≠ none) ∧
        (phrases es).foldl Directives.addPhrase .empty = a := by
    intro es hp field a
    rw [read_text_eq_ok_iff fun d hm => hw d (hp.mem_iff.mp hm)]
    simp only [hp.mem_iff]
  constructor
  · intro h hs hn
    obtain ⟨es, fs, hes, hfs, hne⟩ := exists_perm_ne hd hn
    have he := (h es hes "" _).mp ((hr es hes "" _).mpr ⟨hs, rfl⟩)
    have hf := (h fs hfs "" _).mp ((hr fs hfs "" _).mpr ⟨hs, rfl⟩)
    exact hne (Except.ok.inj (he.symm.trans hf))
  · intro h es hp field a
    rw [hr es hp, hr ds (.refl ds)]
    refine and_congr_right fun hs => ?_
    rw [Directives.foldl_addPhrase_perm (phrases_perm hp.symm) hd
      fun s hn hl => h hs ⟨s, hn, hl⟩]

def cityDirectives : List Directive :=
  [.pair "NOT" "Null", .word "Bar", .pair "Default" "foo", .word "VarChar(7)", .word "index(A)",
    .word "<-", .word "EXTENDS"]

theorem read_text_perm_city :
    ((∀ d ∈ cityDirectives, d.IsWritten) ∧ Different cityDirectives ∧ ¬ NameDefault cityDirectives) ∧
      text cityDirectives = "NOT Null Bar Default foo VarChar(7) index(A) <- EXTENDS" ∧
      ∀ field a, Directives.read field "EXTENDS <- index(A) VarChar(7) Default foo Bar NOT Null" =
        .ok a ↔ Directives.read field (text cityDirectives) = .ok a := by
  have hw : ∀ d ∈ cityDirectives, d.IsWritten := by decide +kernel
  have hd : Different cityDirectives := by decide +kernel
  have hp : phrases cityDirectives = [.notNull, .word (.name "bar"), .default "foo",
      .word (.type .varchar (some ⟨7, 0⟩)), .word (.index (some "a")), .word .readOnly,
      .word .extends] := by decide +kernel
  have hn : ¬ NameDefault cityDirectives := by
    rintro ⟨s, hs, hl⟩
    rw [hp] at hs hl
    obtain rfl : s = "bar" := by simpa using hs
    simp at hl
  have ht : text cityDirectives.reverse = "EXTENDS <- index(A) VarChar(7) Default foo Bar NOT Null" := rfl
  refine ⟨⟨hw, hd, hn⟩, rfl, ?_⟩
  rw [← ht]
  exact (read_text_perm_iff hw hd).mpr (fun _ => hn) _ cityDirectives.reverse_perm

def capitalized : List Directive :=
  [.pair "default" "foo", .word "Foo"]

theorem read_text_capitalized :
    (∀ d ∈ capitalized, d.IsWritten) ∧ Different capitalized ∧ "Foo" ≠ "foo" ∧
      capitalized.reverse.Perm capitalized ∧
      Directives.read "City" (text capitalized) =
        .ok { Directives.empty with default := some "foo" } ∧
      Directives.read "City" (text capitalized.reverse) =
        .ok { Directives.empty with default := some "foo", name := some "foo" } :=
  ⟨by decide +kernel, by decide +kernel, by decide, capitalized.reverse_perm, by decide +kernel,
    by decide +kernel⟩

end Directive

end RecordSql
