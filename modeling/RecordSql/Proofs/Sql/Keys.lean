import RecordSql.Proofs.Flavor.Settled
import RecordSql.Proofs.Schema.History
import RecordSql.Proofs.Schema.Tokens
import RecordSql.Proofs.Sql.Spelling
import RecordSql.Sql.Compiled

/-! # Keys of a definition

The definition of a table makes the column its key that the primary key of the table names. Where
there is no primary key, it makes each serial column a key, so that there are as many keys as serial
columns.
-/

namespace RecordSql

namespace Flavor

/-- Whether the definition of a column makes it the key of a table with the given key. The literal
of a default is taken over as it stands and does not count. -/
def HoldsKey (f : Flavor) (c : Column) (key : Option String) : Prop :=
  Token.symbols " PRIMARY KEY" <:+: f.tokens (f.appendColumn "" { c with default := none } key)

def isWord (c : Char) : Bool :=
  isPlain c && c != 'K'

variable {f : Flavor} {c : Column} {key : Option String}

/-- The letters of the name of a type: none of them is told from the words for a key, and they do not
end like ` NOT`. -/
theorem exists_physicalName (f : Flavor) (c : Column) :
    ∃ cs, f.physicalName c = String.ofList cs ∧ cs.all isWord = true ∧ 2 ≤ cs.length ∧
      ¬ ['O', 'T'] <:+ cs := by
  -- the letters of each name are given, since reading them off a text takes long
  have hw : ∃ cs, f.physicalName c = String.ofList cs ∧
      (cs.all isWord && decide (2 ≤ cs.length) && !(['O', 'T'].isSuffixOf cs)) = true := by
    unfold physicalName
    generalize c.type = t, c.autoIncrement = b, decide (0 < c.length) = sized
    cases f with
    | standard | mysql | sqlite => cases t <;> exact ⟨_, rfl, rfl⟩
    | postgres => cases b <;> cases t <;> exact ⟨_, rfl, rfl⟩
    | mssql | oracle => cases sized <;> cases t <;> exact ⟨_, rfl, rfl⟩
  simpa only [Bool.and_eq_true, Bool.not_eq_true', ← Bool.not_eq_true, decide_eq_true_eq,
    List.isSuffixOf_iff_suffix, and_assoc] using hw

theorem isWord_physicalName (f : Flavor) (c : Column) :
    (f.physicalName c).toList.all isWord = true := by
  obtain ⟨cs, hc, hw, -⟩ := f.exists_physicalName c
  rw [hc, String.toList_ofList, hw]

theorem isWord_of_toNat {d : Char} (h : 40 ≤ d.toNat ∧ d.toNat ≤ 57) : isWord d = true := by
  have hne : ∀ e : Char, ¬ (40 ≤ e.toNat ∧ e.toNat ≤ 57) → d ≠ e := by
    rintro e he rfl
    exact he h
  simp [isWord, isPlain, hne '`' (by decide), hne '"' (by decide), hne '[' (by decide),
    hne '\'' (by decide), hne '?' (by decide), hne '$' (by decide), hne ':' (by decide),
    hne 'K' (by decide)]

theorem isWord_translate (f : Flavor) (c : Column) :
    (f.translate c).1.toList.all isWord = true := by
  have hp := f.isWord_physicalName (f.settle c)
  unfold translate
  dsimp only
  split
  · have hl := toList_appendLengths (f.physicalName (f.settle c))
      ⟨(f.settle c).length, (f.settle c).secondLength⟩
    rw [hl, List.all_append, hp, Bool.true_and, List.all_eq_true]
    exact fun d hd => isWord_of_toNat (Lengths.toNat_of_mem_suffix hd)
  · exact hp

theorem isWord_nullWords (c : Column) : (nullWords c).toList.all isWord = true := by
  unfold nullWords
  split <;> decide

def identityText (f : Flavor) (counting : Bool) : String :=
  if counting && f.autoIncrementWords != "" then " " ++ f.autoIncrementWords else ""

theorem isWord_identityText (f : Flavor) (counting : Bool) :
    (f.identityText counting).toList.all isWord = true := by
  unfold identityText
  split
  · cases f <;> decide
  · rfl

def wordsInFront (f : Flavor) (c : Column) : String :=
  " " ++ (f.translate c).1 ++
    (if f.identityFollowsType then f.identityText (f.translate c).2.autoIncrement else "")

def wordsBehind (f : Flavor) (c : Column) : String :=
  if f.identityFollowsType then "" else f.identityText (f.translate c).2.autoIncrement

theorem isWord_wordsInFront (f : Flavor) (c : Column) :
    (f.wordsInFront c).toList.all isWord = true := by
  have hb : " ".toList.all isWord = true := by decide
  simp only [wordsInFront, String.toList_append, List.all_append, isWord_translate, hb,
    Bool.true_and]
  split
  · exact f.isWord_identityText _
  · rfl

theorem isWord_wordsBehind (f : Flavor) (c : Column) :
    (f.wordsBehind c).toList.all isWord = true := by
  unfold wordsBehind
  split
  · rfl
  · exact f.isWord_identityText _

@[simp] theorem name_translate (f : Flavor) (c : Column) : (f.translate c).2.name = c.name := by
  simp [translate, settle_eq]

theorem translate_withoutDefault (f : Flavor) (c : Column) :
    f.translate { c with default := none } =
      ((f.translate c).1, { (f.translate c).2 with default := none }) := by
  simp only [translate, settle_eq]
  cases f <;> rfl

theorem appendColumn_of_ne (h : f ≠ oracle) (out : String) (c : Column) (key : Option String) :
    f.appendColumn out c key = f.appendPlainDefinition out c key := by
  cases f with
  | oracle => exact absurd rfl h
  | _ => rfl

def keyText (f : Flavor) (c : Column) (key : Option String) : String :=
  if declaresKey (f.translate c).2 key then " PRIMARY KEY" else ""

/-- Behind the name, a definition without a default holds words of which only those for a key depend
on the key of the table. -/
theorem appendColumn_withoutDefault (f : Flavor) (c : Column) (key : Option String) :
    f.appendColumn "" { c with default := none } key =
      f.quote c.name ++ (f.wordsInFront c ++ f.keyText c key ++ f.wordsBehind c ++
        nullWords (f.translate c).2) := by
  by_cases hf : f = oracle
  · subst hf
    have hb : ∀ b : Bool, oracle.identityText b =
        if b then " " ++ oracle.autoIncrementWords else "" := by
      rintro (_ | _) <;> rfl
    have hi : oracle.identityFollowsType = true := rfl
    simp only [appendColumn, appendLeadingDefault, translate_withoutDefault, wordsInFront,
      wordsBehind, hb, hi]
    simp [appendIdentifier, String.append_assoc, declaresKey, nullWords, keyText]
  · rw [appendColumn_of_ne hf]
    simp only [appendPlainDefinition, translate_withoutDefault]
    simp [appendIdentifier, String.append_assoc, declaresKey, nullWords, identityText, wordsInFront,
      wordsBehind, keyText]

theorem tokens_withoutDefault (f : Flavor) (c : Column) (key : Option String) :
    f.tokens (f.appendColumn "" { c with default := none } key) =
      .identifier c.name :: (Token.symbols (f.wordsInFront c) ++ Token.symbols (f.keyText c key) ++
        Token.symbols (f.wordsBehind c) ++ Token.symbols (nullWords (f.translate c).2)) := by
  have hp : ∀ {s : String}, s.toList.all isWord = true → s.toList.all isPlain = true := by
    intro s hs
    rw [List.all_eq_true] at hs ⊢
    exact fun d hd => (Bool.and_eq_true_iff.mp (hs d hd)).1
  have hk : (f.keyText c key).toList.all isPlain = true := by
    unfold keyText
    split <;> decide
  have hh : (f.wordsInFront c).toList.head?.any breaks = true := by
    simp [wordsInFront, breaks]
  rw [appendColumn_withoutDefault, tokens]
  simp only [String.toList_append, List.append_assoc]
  rw [lex_quote c.name (Breaks.of_head hh), lex_symbols (hp (f.isWord_wordsInFront c)),
    lex_symbols hk, lex_symbols (hp (f.isWord_wordsBehind c)),
    lex_end (hp (isWord_nullWords (f.translate c).2))]

theorem holdsKey_iff_declaresKey :
    f.HoldsKey c key ↔ declaresKey (f.translate c).2 key = true := by
  have hw : ∀ {s : String}, s.toList.all isWord = true → Token.symbol 'K' ∉ Token.symbols s := by
    intro s hs hk
    obtain ⟨d, hd, hdk⟩ := List.mem_map.mp hk
    obtain rfl := Token.symbol.inj hdk
    exact absurd (List.all_eq_true.mp hs _ hd) (by decide)
  unfold HoldsKey
  rw [tokens_withoutDefault, keyText]
  cases hd : declaresKey (f.translate c).2 key with
  | true =>
    refine iff_of_true ⟨.identifier c.name :: Token.symbols (f.wordsInFront c),
      Token.symbols (f.wordsBehind c) ++ Token.symbols (nullWords (f.translate c).2), ?_⟩ rfl
    simp
  | false =>
    -- no word has the letter K but those for a key
    refine iff_of_false (fun hi => ?_) Bool.false_ne_true
    have hk : Token.symbol 'K' ∈ Token.symbols " PRIMARY KEY" := by decide
    have hm := hi.subset hk
    simp only [Bool.false_eq_true, if_false, List.mem_cons, List.mem_append, reduceCtorEq,
      false_or] at hm
    rcases hm with ((hm | hm) | hm) | hm
    · exact hw (f.isWord_wordsInFront c) hm
    · exact absurd hm (by decide)
    · exact hw (f.isWord_wordsBehind c) hm
    · exact hw (isWord_nullWords _) hm

/-- A column is made the key if it says that it is or has a serial type, unless the key of the table
is another column. -/
theorem holdsKey_iff : f.HoldsKey c key ↔
    (c.primaryKey = true ∨ c.type.isSerial = true) ∧ (key = none ∨ key = some c.name) := by
  rw [holdsKey_iff_declaresKey]
  simp [declaresKey, translate, settle_eq]

theorem appendColumn_eq (f : Flavor) (out : String) (c : Column) (key : Option String) :
    f.appendColumn out c key = out ++ f.appendColumn "" c key := by
  by_cases hf : f = oracle
  · subst hf
    simp only [appendColumn, appendLeadingDefault, appendIdentifier, String.append_assoc,
      String.empty_append]
  · simp only [appendColumn_of_ne hf, appendPlainDefinition, appendIdentifier,
      String.append_assoc, String.empty_append]

theorem appendColumn_ne_empty (f : Flavor) (c : Column) (key : Option String) :
    f.appendColumn "" c key ≠ "" := by
  by_cases hf : f = oracle
  · subst hf
    simp [appendColumn, appendLeadingDefault, appendIdentifier, quote_ne_empty]
  · simp [appendColumn_of_ne hf, appendPlainDefinition, appendIdentifier, quote_ne_empty]

end Flavor

namespace Table

variable {t : Table} {f : Flavor} {name : String} {as : List Addition}

def definitions (f : Flavor) (t : Table) : List String :=
  t.columns.map fun c => f.appendColumn "" c t.primaryKey

theorem appendDefinitions_eq (f : Flavor) (out : String) (t : Table) :
    Text.appendSeparated out t.columns (fun out c => f.appendColumn out c t.primaryKey) ",\n" =
      out ++ ",\n".intercalate (t.definitions f) :=
  Text.appendSeparated_eq_intercalate (fun out c => f.appendColumn_eq out c t.primaryKey)
    (fun c => f.appendColumn_ne_empty c t.primaryKey) out t.columns

theorem exists_appendPlainCreate_eq (f : Flavor) (out : String) (t : Table) (clause : String)
    (options : TableOptions) :
    ∃ front back, f.appendPlainCreate out t clause options =
      front ++ ",\n".intercalate (t.definitions f) ++ back := by
  have ha : ∀ front definitions close engine charset stop : String,
      front ++ definitions ++ close ++ engine ++ charset ++ stop =
        front ++ definitions ++ (close ++ engine ++ charset ++ stop) := by
    simp [String.append_assoc]
  unfold Flavor.appendPlainCreate
  simp only [appendDefinitions_eq]
  exact ⟨_, _, ha ..⟩

theorem exists_appendCreateTable_eq (f : Flavor) (t : Table) (ifMissing : Bool)
    (options : TableOptions) :
    ∃ front back, f.appendCreateTable "" t ifMissing options ∈
      [front ++ ",\n".intercalate (t.definitions f) ++ back,
        Flavor.appendGuarded "" (front ++ ",\n".intercalate (t.definitions f) ++ back) "-955"] := by
  have hp := exists_appendPlainCreate_eq f
  unfold Flavor.appendCreateTable
  split
  · split
    · obtain ⟨front, back, he⟩ := exists_appendPlainCreate_eq .mssql _ t "" options
      exact ⟨front, back, List.mem_cons.mpr (.inl he)⟩
    · obtain ⟨front, back, he⟩ := exists_appendPlainCreate_eq .oracle "" t "" options
      exact ⟨front, back, by simp [he]⟩
    · obtain ⟨front, back, he⟩ := hp "" t "IF NOT EXISTS " options
      exact ⟨front, back, List.mem_cons.mpr (.inl he)⟩
  · obtain ⟨front, back, he⟩ := hp "" t "" options
    exact ⟨front, back, List.mem_cons.mpr (.inl he)⟩

def DeclaresOneKey (f : Flavor) (t : Table) : Prop :=
  t.columns.Pairwise fun c d => ¬ (f.HoldsKey c t.primaryKey ∧ f.HoldsKey d t.primaryKey)

theorem declaresOneKey_iff (h : t.HasHistory name as) :
    t.DeclaresOneKey f ↔ (t.primaryKey = none →
      t.columns.Pairwise fun c d => ¬ (c.type.isSerial = true ∧ d.type.isSerial = true)) := by
  unfold DeclaresOneKey
  simp only [Flavor.holdsKey_iff]
  cases hk : t.primaryKey with
  | none =>
    have hc : ∀ c ∈ t.columns, c.primaryKey = false := fun c hc => h.primaryKey_eq_false hk hc
    refine Iff.trans (List.Pairwise.iff_of_mem fun {c d} hm hn => ?_)
      ⟨fun hs _ => hs, fun hs => hs rfl⟩
    simp [hc c hm, hc d hn]
  | some key =>
    have hn : t.columns.Pairwise fun c d => c.name ≠ d.name := List.pairwise_map.mp h.nodup
    refine iff_of_true (hn.imp fun {c d} hne hcd => hne ?_) (fun hk => by cases hk)
    have hc : key = c.name := by simpa using hcd.1.2
    have hd : key = d.name := by simpa using hcd.2.2
    exact hc.symm.trans hd

theorem exists_holdsKey (h : t.HasHistory name as) {key : String} (hk : t.primaryKey = some key) :
    ∃ c ∈ t.columns, c.name = key ∧ ∀ d ∈ t.columns, f.HoldsKey d t.primaryKey ↔ d = c := by
  obtain ⟨c, hc, rfl, hp⟩ := h.exists_primaryKey hk
  refine ⟨c, hc, rfl, fun d hd => ?_⟩
  rw [hk, Flavor.holdsKey_iff]
  constructor
  · rintro ⟨-, hn⟩
    have hn : c.name = d.name := by simpa using hn
    exact (List.inj_on_of_nodup_map h.nodup hc hd hn).symm
  · rintro rfl
    exact ⟨.inl hp, .inr rfl⟩

end Table

/-- The definitions in the statement that creates a table make at most one column the key exactly if
the table has a primary key or at most one serial column; where there is a primary key, they make
the column the key that it names. -/
theorem keys_declared_iff {t : Table}
    (h : (∃ name calls, (Table.empty name).run calls = t) ∨
      ∃ (n : Naming) (r : RecordType), r.table n = .ok t) (f : Flavor) :
    (∀ ifMissing options, ∃ front back, f.appendCreateTable "" t ifMissing options ∈
      [front ++ ",\n".intercalate (t.definitions f) ++ back,
        Flavor.appendGuarded "" (front ++ ",\n".intercalate (t.definitions f) ++ back) "-955"]) ∧
    (t.DeclaresOneKey f ↔ (t.primaryKey = none →
      t.columns.Pairwise fun c d => ¬ (c.type.isSerial = true ∧ d.type.isSerial = true))) ∧
    ∀ key, t.primaryKey = some key →
      ∃ c ∈ t.columns, c.name = key ∧ ∀ d ∈ t.columns, f.HoldsKey d t.primaryKey ↔ d = c := by
  obtain ⟨name, as, hh⟩ := Table.exists_hasHistory h
  exact ⟨t.exists_appendCreateTable_eq f, Table.declaresOneKey_iff hh,
    fun key hk => Table.exists_holdsKey hh hk⟩

def keyedTable : Table :=
  (Table.empty "tally").run [
    .column (Column.ofType "seq" .serial),
    .column { Column.ofType "code" .varchar with primaryKey := true, nullable := false },
    .column { Column.ofType "part" .bigserial with primaryKey := true, nullable := false }]

def twiceCountedTable : Table :=
  (Table.empty "tally").run [
    .column (Column.ofType "a" .serial), .column (Column.ofType "b" .serial)]

theorem keys_declared_keyed :
    keyedTable.primaryKey = some "code" ∧ keyedTable.DeclaresOneKey .oracle ∧
      ∃ c ∈ keyedTable.columns, c.name = "code" ∧
        ∀ d ∈ keyedTable.columns, Flavor.oracle.HoldsKey d keyedTable.primaryKey ↔ d = c := by
  have hk : keyedTable.primaryKey = some "code" := by decide
  obtain ⟨-, ho, hc⟩ := keys_declared_iff (.inl ⟨_, _, rfl⟩ : (∃ name calls,
    (Table.empty name).run calls = keyedTable) ∨ _) .oracle
  refine ⟨hk, ho.mpr fun hn => ?_, hc "code" hk⟩
  rw [hk] at hn
  cases hn

theorem keys_declared_twice :
    (Statement.ofTable twiceCountedTable).createTableSql .mysql false = .ok [
      "CREATE TABLE `tally` (\n`a` INT PRIMARY KEY AUTO_INCREMENT NOT NULL,\n" ++
        "`b` INT PRIMARY KEY AUTO_INCREMENT NOT NULL);"] ∧
    ¬ twiceCountedTable.DeclaresOneKey .mysql := by
  refine ⟨by decide +kernel, fun h => ?_⟩
  simp only [Table.DeclaresOneKey, Flavor.holdsKey_iff] at h
  revert h
  decide

end RecordSql
