import RecordSql.Proofs.Flavor.Stored
import RecordSql.Proofs.Text.Plain
import RecordSql.Record.Word

/-! # Words that are read as themselves

Each meaning of a word has a plain word for it: a type has its name in small letters with its lengths,
and a group has its name between parentheses. No other word is read as a type or as a group, so that
a word without any of these meanings is a name.
-/

namespace RecordSql

namespace ColumnType

def smallName (t : ColumnType) : String :=
  String.ofList (t.name.toList.map Char.toLower)

theorem lookup?_smallName (t : ColumnType) : lookup? t.smallName = some t := by
  rw [← t.lookup?_name]
  exact lookup?_congr (by simp [smallName])

theorem isAlpha_of_mem_smallName {t : ColumnType} {c : Char} (h : c ∈ t.smallName.toList) :
    c.isAlpha = true := by
  rw [smallName, String.toList_ofList] at h
  obtain ⟨d, hd, rfl⟩ := List.mem_map.mp h
  rw [Char.isAlpha_toLower_eq_isAlpha]
  exact t.isAlpha_of_mem_name d hd

theorem fixed?_smallName (t : ColumnType) : Word.fixed? t.smallName = none := by
  cases t <;> decide

theorem smallName_ne_group (t : ColumnType) : t.smallName ≠ "index" ∧ t.smallName ≠ "unique" := by
  cases t <;> decide

end ColumnType

theorem Lengths.plainWord_text (l : Lengths) : Text.PlainWord l.text := by
  refine ⟨fun h => ?_, fun c hc => ?_⟩
  · have hr := l.read?_text
    rw [h] at hr
    cases hr
  · have hn := toNat_of_mem_text hc
    refine ⟨Text.isBlank_of_visible (by omega), by omega, ?_⟩
    refine Char.toLower_eq_of_not_isUpper fun hu => ?_
    have ha := Text.toNat_of_isAlpha (c := c) (by simp [Char.isAlpha, hu])
    omega

def Grouping.IsPlain : Grouping → Prop
  | .named group => Text.PlainWord group ∧ ')' ∉ group.toList
  | _ => True

namespace Word

def ofType (t : ColumnType) (lengths : Option Lengths) : String :=
  match lengths with
  | none => t.smallName
  | some l => t.smallName ++ "(" ++ l.text ++ ")"

def ofGroup (unique : Bool) (group : Option String) : Word :=
  if unique then .unique group else .index group

def groupStart (unique : Bool) : String :=
  if unique then "unique" else "index"

def ofGrouping (unique : Bool) : Grouping → List String
  | .none => []
  | .single => [groupStart unique]
  | .named group => [groupStart unique ++ "(" ++ group ++ ")"]

variable {field word : String} {w : Word} {unique : Bool} {group : Option String}

theorem classify_eq_ok_iff :
    classify field word = .ok w ↔
      fixed? word = some w ∨ fixed? word = none ∧ readToken word = .ok w := by
  unfold classify
  cases fixed? word with
  | some v => simp
  | none => cases readToken word <;> simp [Except.mapError]

theorem fixed?_of_mem (h : '(' ∈ word.toList) : fixed? word = none := by
  unfold fixed?
  split <;> simp at h ⊢

theorem fixed?_ne_ofGroup (word : String) (unique : Bool) (group : Option String) :
    fixed? word ≠ some (ofGroup unique group) := by
  unfold fixed?
  cases unique <;> split <;> simp [ofGroup]

theorem fixed?_ne_name (word s : String) : fixed? word ≠ some (.name s) := by
  unfold fixed?
  split <;> simp

/-- What follows the closing parenthesis of a token is no part of it. -/
theorem read?_parentheses_append {name argument : String} (hn : '(' ∉ name.toList)
    (ha : ')' ∉ argument.toList) (rest : String) :
    TypeToken.read? (name ++ "(" ++ argument ++ ")" ++ rest) = some ⟨name, some argument⟩ := by
  have he : name ++ "(" ++ argument ++ ")" ++ rest =
      String.ofList (name.toList ++ '(' :: (argument.toList ++ ')' :: rest.toList)) := by
    simp [← String.toList_inj]
  rw [he, TypeToken.read?_append hn ha, String.ofList_toList, String.ofList_toList]

theorem read?_parentheses {name argument : String} (hn : '(' ∉ name.toList)
    (ha : ')' ∉ argument.toList) :
    TypeToken.read? (name ++ "(" ++ argument ++ ")") = some ⟨name, some argument⟩ := by
  simpa using read?_parentheses_append hn ha ""

/-! ## Types and groups -/

theorem readToken_type {t : ColumnType} {argument : Option String}
    (h : TypeToken.read? word = some ⟨t.smallName, argument⟩) :
    readToken word = readType word ⟨t.smallName, argument⟩ := by
  obtain ⟨hi, hu⟩ := t.smallName_ne_group
  rw [readToken, h]
  dsimp only
  rw [if_neg hi, if_neg hu]

theorem classify_type (field : String) (t : ColumnType) (lengths : Option Lengths) :
    classify field (ofType t lengths) = .ok (.type t lengths) := by
  have hn : '(' ∉ t.smallName.toList := fun h =>
    absurd (ColumnType.isAlpha_of_mem_smallName h) (by decide)
  cases lengths with
  | none =>
    have ht : TypeToken.read? t.smallName = some ⟨t.smallName, none⟩ := by
      rw [← String.ofList_toList (s := t.smallName)]
      exact TypeToken.read?_of_not_mem hn
    refine classify_eq_ok_iff.mpr (.inr ⟨t.fixed?_smallName, ?_⟩)
    rw [ofType, readToken_type ht, readType, t.lookup?_smallName]
  | some l =>
    have hl : ')' ∉ l.text.toList := fun h => absurd (Lengths.toNat_of_mem_text h) (by decide)
    refine classify_eq_ok_iff.mpr (.inr ⟨fixed?_of_mem (by simp [ofType]), ?_⟩)
    rw [ofType, readToken_type (read?_parentheses hn hl), readType, t.lookup?_smallName]
    dsimp only
    rw [l.read?_text]

theorem readToken_group {argument : Option String}
    (h : TypeToken.read? word = some ⟨groupStart unique, argument⟩) :
    readToken word = (readGroup argument).map (ofGroup unique) := by
  rw [readToken, h]
  cases unique <;> rfl

theorem classify_single (field : String) (unique : Bool) :
    classify field (groupStart unique) = .ok (ofGroup unique none) := by
  cases unique <;> rfl

theorem classify_named (field : String) (unique : Bool) {group : String}
    (h : (Grouping.named group).IsPlain) :
    classify field (groupStart unique ++ "(" ++ group ++ ")") =
      .ok (ofGroup unique (some group)) := by
  have hn : '(' ∉ (groupStart unique).toList := by cases unique <;> decide
  refine classify_eq_ok_iff.mpr (.inr ⟨fixed?_of_mem (by simp), ?_⟩)
  rw [readToken_group (read?_parentheses hn h.2), readGroup, Text.trim_of_plainChar h.1.2,
    if_neg h.1.1]
  rfl

/-! ## Plain words for meanings -/

theorem plainWord_ofType (t : ColumnType) (lengths : Option Lengths) :
    Text.PlainWord (ofType t lengths) := by
  have ht : Text.PlainWord t.smallName := by cases t <;> decide
  cases lengths with
  | none => exact ht
  | some l => exact ((ht.append (by decide)).append l.plainWord_text).append (by decide)

theorem plainWord_of_mem_ofGrouping {g : Grouping} (hg : g.IsPlain)
    (h : word ∈ ofGrouping unique g) : Text.PlainWord word := by
  have hs : Text.PlainWord (groupStart unique) := by cases unique <;> decide
  cases g with
  | none => cases h
  | single => rwa [List.mem_singleton.mp h]
  | named group =>
    rw [List.mem_singleton.mp h]
    exact ((hs.append (by decide)).append hg.1).append (by decide)

/-! ## What a word is read as -/

/-- A word is read as a group, as a type or as itself. -/
theorem of_readToken (h : readToken word = .ok w) :
    (∃ unique group token, w = ofGroup unique group ∧ TypeToken.read? word = some token ∧
      readGroup token.argument = .ok group) ∨
    (∃ t lengths, w = .type t lengths) ∨ w = .name word := by
  have hg : ∀ unique token, TypeToken.read? word = some token →
      (readGroup token.argument).map (ofGroup unique) = .ok w →
      ∃ unique group token, w = ofGroup unique group ∧ TypeToken.read? word = some token ∧
        readGroup token.argument = .ok group := by
    intro unique token ht h
    cases hr : readGroup token.argument with
    | error e =>
      rw [hr] at h
      cases h
    | ok group =>
      rw [hr] at h
      cases h
      exact ⟨unique, group, token, rfl, ht, hr⟩
  unfold readToken at h
  split at h
  · cases h
  · next token ht =>
    split_ifs at h with hi hu
    · exact .inl (hg false token ht h)
    · exact .inl (hg true token ht h)
    · unfold readType at h
      split at h
      · cases h
        exact .inr (.inl ⟨_, _, rfl⟩)
      · split at h
        · cases h
          exact .inr (.inl ⟨_, _, rfl⟩)
        · cases h
      · cases h
      · cases h
        exact .inr (.inr rfl)

end Word

end RecordSql
