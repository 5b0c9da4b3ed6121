import RecordSql.Proofs.Record.Words
import RecordSql.Record.Directives

/-! # Canonical annotations

What the directives of an annotation stand for can be written again, in a fixed order and with one
space between any two words. The directives that come out of an annotation of ASCII are canonical:
their name is read as a name wherever it stands, and their groups as groups. Canonical directives
are read back from their text.
-/

namespace RecordSql.Directives

variable {field word : String} {a b c : Directives} {w : Word}

def directionWords : Direction → List String
  | .both => []
  | .readOnly => ["<-"]
  | .writeOnly => ["->"]

def nullableWords : Option Bool → List String
  | none => []
  | some true => ["null"]
  | some false => ["not", "null"]

def defaultWords : Option String → List String
  | none => []
  | some literal => ["default", literal]

def words (a : Directives) : List String :=
  (if a.exclude then ["-"] else []) ++ ((if a.embed then ["extends"] else []) ++
    (directionWords a.direction ++ ((if a.primaryKey then ["pk"] else []) ++
    (nullableWords a.nullable ++ ((if a.autoIncrement then ["autoincr"] else []) ++
    ((a.type.map (Word.ofType · a.lengths)).toList ++ (Word.ofGrouping false a.index ++
    (Word.ofGrouping true a.unique ++ (a.name.toList ++ defaultWords a.default)))))))))

def render (a : Directives) : String :=
  " ".intercalate a.words

/-- Directives as they come out of an annotation of ASCII. -/
structure Canonical (a : Directives) : Prop where
  nullable : a.primaryKey = true → a.nullable ≠ none
  type : a.lengths ≠ none → a.type ≠ none
  index : a.index.IsPlain
  unique : a.unique.IsPlain
  name : ∀ w, a.name = some w → Text.PlainWord w ∧ ∀ field, Word.classify field w = .ok (.name w)
  default : ∀ w, a.default = some w → Text.PlainWord w

/-! ## What is read is canonical -/

theorem canonical_empty : empty.Canonical where
  nullable := nofun
  type h := absurd rfl h
  index := trivial
  unique := trivial
  name := nofun
  default := nofun

theorem isPlain_of_classify (unique : Bool) {group : Option String} (hw : Text.PlainWord word)
    (h : Word.classify field word = .ok (.ofGroup unique group)) : (grouping group).IsPlain := by
  rcases Word.classify_eq_ok_iff.mp h with hf | ⟨-, hr⟩
  · exact absurd hf (Word.fixed?_ne_ofGroup word unique group)
  rcases Word.of_readToken hr with ⟨unique', group', token, he, ht, hg⟩ | ⟨t, lengths, he⟩ | he
  · obtain rfl : group = group' := by cases unique <;> cases unique' <;> cases he <;> rfl
    cases ha : token.argument with
    | none =>
      rw [ha] at hg
      cases hg
      trivial
    | some argument =>
      have hm := fun c hc => TypeToken.mem_of_mem_argument (c := c) ht ha hc
      have hp : ∀ c ∈ argument.toList, Text.PlainChar c := fun c hc => hw.2 c (hm c hc).1
      rw [ha, Word.readGroup, Text.trim_of_plainChar hp] at hg
      split at hg
      · cases hg
      · next hne =>
        cases hg
        exact ⟨⟨hne, hp⟩, fun hc => (hm _ hc).2 rfl⟩
  · cases unique <;> cases he
  · cases unique <;> cases he

theorem classify_of_name {s : String} (h : Word.classify field word = .ok (.name s)) :
    s = word ∧ ∀ field, Word.classify field word = .ok (.name word) := by
  rcases Word.classify_eq_ok_iff.mp h with hf | ⟨hf, hr⟩
  · exact absurd hf (Word.fixed?_ne_name word s)
  rcases Word.of_readToken hr with ⟨unique, group, token, he, -⟩ | ⟨t, lengths, he⟩ | he
  · cases unique <;> cases he
  · cases he
  · cases he
    exact ⟨rfl, fun _ => Word.classify_eq_ok_iff.mpr (.inr ⟨hf, hr⟩)⟩

theorem Canonical.add (ha : a.Canonical) (hw : Text.PlainWord word)
    (h : Word.classify field word = .ok w) : (a.add w).Canonical := by
  cases w with
  | primaryKey | null => exact { ha with nullable := fun _ => Option.some_ne_none _ }
  | type t lengths => exact { ha with type := fun _ => Option.some_ne_none _ }
  | index group => exact { ha with index := isPlain_of_classify false hw h }
  | unique group => exact { ha with unique := isPlain_of_classify true hw h }
  | name s =>
    rw [Directives.add]
    split
    · exact ha
    · obtain ⟨rfl, hc⟩ := classify_of_name h
      refine { ha with name := ?_ }
      rintro _ ⟨⟩
      exact ⟨hw, hc⟩
  | exclude | «extends» | readOnly | writeOnly | not | autoIncrement | default => exact { ha with }

theorem Canonical.addWords {words : List String} (ha : a.Canonical)
    (hw : ∀ w ∈ words, Text.PlainWord w) (h : a.addWords field words = .ok b) : b.Canonical := by
  induction a, words using addWords.induct with
  | case1 a =>
    cases h
    exact ha
  | case2 a word rest hnot hdefault hadd =>
    have hr : ∀ w ∈ rest, Text.PlainWord w := fun w hm => hw w (List.mem_cons_of_mem word hm)
    rw [addWords.eq_def] at h
    dsimp only at h
    cases hc : Word.classify field word with
    | error e =>
      rw [hc] at h
      cases h
    | ok w =>
      rw [hc] at h
      -- `not` and `default` take the next word in as well, so that the rest is one word shorter
      cases w with
      | not =>
        dsimp only [bind, Except.bind] at h
        split at h
        · exact hnot { ha with nullable := fun _ => Option.some_ne_none _ }
            (fun w hm => hr w (List.mem_cons_of_mem _ hm)) h
        · cases h
      | default =>
        cases rest with
        | nil => cases h
        | cons literal rest =>
          refine hdefault { ha with default := ?_ }
            (fun w hm => hr w (List.mem_cons_of_mem _ hm)) h
          rintro _ ⟨⟩
          exact hr literal List.mem_cons_self
      | _ => exact hadd _ (ha.add (hw word List.mem_cons_self) hc) hr h

/-! ## What canonical directives are written as -/

/-- In front of any others the words lead from some directives to others. -/
def Leads (field : String) (words : List String) (a b : Directives) : Prop :=
  ∀ rest, a.addWords field (words ++ rest) = b.addWords field rest

theorem Leads.nil : Leads field [] a a := fun _ => rfl

theorem Leads.append {us vs : List String} (h : Leads field us a b) (h' : Leads field vs b c) :
    Leads field (us ++ vs) a c := by
  intro rest
  rw [List.append_assoc, h, h']

theorem leads_word (hc : Word.classify field word = .ok w) (hn : w ≠ .not) (hd : w ≠ .default) :
    Leads field [word] a (a.add w) := by
  intro rest
  rw [List.singleton_append, addWords.eq_def]
  dsimp only
  rw [hc]
  cases w with
  | not => exact absurd rfl hn
  | default => exact absurd rfl hd
  | _ => rfl

theorem leads_flag {flag : Bool} (hc : Word.classify field word = .ok w) (hn : w ≠ .not)
    (hd : w ≠ .default) (hb : b = if flag then a.add w else a) :
    Leads field (if flag then [word] else []) a b := by
  rw [hb]
  cases flag with
  | false => exact .nil
  | true => exact leads_word hc hn hd

theorem leads_direction (h : a.direction = .both) (d : Direction) :
    Leads field (directionWords d) a { a with direction := d } := by
  cases d with
  | both =>
    have he : { a with direction := .both } = a := by rw [← h]
    rw [he]
    exact .nil
  | readOnly => exact leads_word (w := .readOnly) rfl nofun nofun
  | writeOnly => exact leads_word (w := .writeOnly) rfl nofun nofun

theorem leads_nullable {nullable : Option Bool} (h : nullable = none → a.nullable = none) :
    Leads field (nullableWords nullable) a { a with nullable := nullable } := by
  cases nullable with
  | none =>
    have he : { a with nullable := none } = a := by rw [← h rfl]
    rw [he]
    exact .nil
  | some nullable =>
    cases nullable with
    | false =>
      intro rest
      rw [nullableWords, List.cons_append, addWords.eq_def]
      rfl
    | true => exact leads_word (w := .null) rfl nofun nofun

theorem leads_type {type : Option ColumnType} {lengths : Option Lengths}
    (h : lengths ≠ none → type ≠ none) (ha : a.type = none ∧ a.lengths = none) :
    Leads field (type.map (Word.ofType · lengths)).toList a
      { a with type := type, lengths := lengths } := by
  cases type with
  | none =>
    obtain rfl : lengths = none := by simpa using h
    have he : { a with type := none, lengths := none } = a := by rw [← ha.1, ← ha.2]
    rw [he]
    exact .nil
  | some t => exact leads_word (Word.classify_type field t lengths) nofun nofun

def group (a : Directives) (unique : Bool) (g : Grouping) : Directives :=
  if unique then { a with unique := g } else { a with index := g }

theorem leads_grouping {unique : Bool} {g : Grouping} (hg : g.IsPlain)
    (ha : a.group unique .none = a) :
    Leads field (Word.ofGrouping unique g) a (a.group unique g) := by
  have hw : ∀ group, Word.ofGroup unique group ≠ .not ∧ Word.ofGroup unique group ≠ .default ∧
      a.add (.ofGroup unique group) = a.group unique (grouping group) := by
    intro group
    cases unique <;> exact ⟨nofun, nofun, rfl⟩
  cases g with
  | none =>
    rw [ha]
    exact .nil
  | single =>
    obtain ⟨hn, hd, he⟩ := hw none
    exact he ▸ leads_word (Word.classify_single field unique) hn hd
  | named group =>
    obtain ⟨hn, hd, he⟩ := hw (some group)
    exact he ▸ leads_word (Word.classify_named field unique hg) hn hd

theorem leads_name {name : Option String}
    (h : ∀ w, name = some w → Word.classify field w = .ok (.name w))
    (ha : a.name = none ∧ a.default = none) :
    Leads field name.toList a { a with name := name } := by
  cases name with
  | none =>
    have he : { a with name := none } = a := by rw [← ha.1]
    rw [he]
    exact .nil
  | some w =>
    have hd : a.add (.name w) = { a with name := some w } := by
      rw [add, ha.2]
      rfl
    exact hd ▸ leads_word (h w rfl) nofun nofun

theorem leads_default (ha : a.default = none) (default : Option String) :
    Leads field (defaultWords default) a { a with default := default } := by
  cases default with
  | none =>
    have he : { a with default := none } = a := by rw [← ha]
    rw [he]
    exact .nil
  | some literal =>
    intro rest
    rw [defaultWords, List.cons_append, addWords.eq_def]
    rfl

theorem Canonical.leads_words (h : a.Canonical) (field : String) :
    Leads field a.words empty a := by
  -- A primary key sets the nullability, so that there is always a word to put it right.
  have hp : a.nullable = none → (if a.primaryKey then some false else none) = none := by
    intro hn
    rw [if_neg fun hp => h.nullable hp hn]
  refine (leads_flag (w := .exclude) rfl nofun nofun
    (b := ⟨a.exclude, false, .both, false, none, false, none, none, none, .none, .none, none⟩)
    (by cases a.exclude <;> rfl)).append ?_
  refine (leads_flag (w := .extends) rfl nofun nofun
    (b := ⟨a.exclude, a.embed, .both, false, none, false, none, none, none, .none, .none, none⟩)
    (by cases a.embed <;> rfl)).append ?_
  refine (leads_direction rfl a.direction).append ?_
  refine (leads_flag (w := .primaryKey) rfl nofun nofun
    (b := ⟨a.exclude, a.embed, a.direction, a.primaryKey, if a.primaryKey then some false else none,
      false, none, none, none, .none, .none, none⟩) (by cases a.primaryKey <;> rfl)).append ?_
  refine (leads_nullable hp).append ?_
  refine (leads_flag (w := .autoIncrement) rfl nofun nofun
    (b := ⟨a.exclude, a.embed, a.direction, a.primaryKey, a.nullable, a.autoIncrement, none, none,
      none, .none, .none, none⟩) (by cases a.autoIncrement <;> rfl)).append ?_
  refine (leads_type h.type ⟨rfl, rfl⟩).append ?_
  refine (leads_grouping h.index rfl).append ?_
  refine (leads_grouping h.unique rfl).append ?_
  refine (leads_name (fun w hw => (h.name w hw).2 field) ⟨rfl, rfl⟩).append ?_
  exact leads_default rfl a.default

theorem Canonical.plainWord (h : a.Canonical) : ∀ w ∈ a.words, Text.PlainWord w := by
  have hf : ∀ (flag : Bool) word, Text.PlainWord word →
      ∀ w ∈ (if flag then [word] else []), Text.PlainWord w := by
    intro flag word hw w hm
    cases flag with
    | false => cases hm
    | true => rwa [List.mem_singleton.mp hm]
  intro w hw
  simp only [words, List.mem_append] at hw
  -- one case for each part of the text, in the order in which `words` has them
  rcases hw with hw | hw | hw | hw | hw | hw | hw | hw | hw | hw | hw
  · exact hf a.exclude "-" (by decide) w hw
  · exact hf a.embed "extends" (by decide) w hw
  · cases hd : a.direction with
    | both =>
      rw [hd] at hw
      cases hw
    | readOnly =>
      rw [hd] at hw
      exact hf true "<-" (by decide) w hw
    | writeOnly =>
      rw [hd] at hw
      exact hf true "->" (by decide) w hw
  · exact hf a.primaryKey "pk" (by decide) w hw
  · cases hn : a.nullable with
    | none =>
      rw [hn] at hw
      cases hw
    | some nullable =>
      rw [hn] at hw
      cases nullable with
      | false =>
        rcases List.mem_pair.mp hw with rfl | rfl <;> decide
      | true => exact hf true "null" (by decide) w hw
  · exact hf a.autoIncrement "autoincr" (by decide) w hw
  · obtain ⟨t, -, rfl⟩ := Option.map_eq_some_iff.mp (Option.mem_toList.mp hw)
    exact Word.plainWord_ofType t a.lengths
  · exact Word.plainWord_of_mem_ofGrouping h.index hw
  · exact Word.plainWord_of_mem_ofGrouping h.unique hw
  · exact (h.name w (Option.mem_toList.mp hw)).1
  · cases hd : a.default with
    | none =>
      rw [hd] at hw
      cases hw
    | some literal =>
      rw [hd] at hw
      rcases List.mem_pair.mp hw with rfl | rfl
      · decide
      · exact h.default w hd

theorem Canonical.read_render (h : a.Canonical) (field : String) :
    read field a.render = .ok a := by
  have hl := h.leads_words field []
  rw [List.append_nil] at hl
  rw [read, render, Text.words_toLower_plain h.plainWord, hl, Directives.addWords]

/-- Whatever an annotation of ASCII is read as, its text in the fixed order is read as the same. -/
theorem read_render_of_read {text : String} (ht : ∀ c ∈ text.toList, c.toNat < 128)
    (h : read field text = .ok a) (other : String) : read other a.render = .ok a := by
  rw [read] at h
  have ha : a.Canonical :=
    canonical_empty.addWords (fun _ hw => Text.plainWord_of_mem_words ht hw) h
  exact ha.read_render other

def titledText : String :=
  "pk null VARCHAR(+07)\tindex(A(b)c Unique Title default Title -> extends"

def titled : Directives :=
  { empty with
    embed := true, direction := .writeOnly, primaryKey := true, nullable := some true,
    type := some .varchar, lengths := some ⟨7, 0⟩, index := .named "a(b", unique := .single,
    name := some "title", default := some "title" }

theorem read_render_titled :
    (∀ c ∈ titledText.toList, c.toNat < 128) ∧ read "heading" titledText = .ok titled ∧
      titled.render = "extends -> pk null varchar(7) index(a(b) unique title default title" ∧
      read "caption" titled.render = .ok titled := by
  have ht : ∀ c ∈ titledText.toList, c.toNat < 128 := List.all_iff_forall_prop.mp (by decide)
  have h : read "heading" titledText = .ok titled := by decide +kernel
  exact ⟨ht, h, by decide +kernel, read_render_of_read ht h "caption"⟩

end RecordSql.Directives
