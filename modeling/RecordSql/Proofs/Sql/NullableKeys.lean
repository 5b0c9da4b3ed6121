import RecordSql.Proofs.Record.Flattening
import RecordSql.Proofs.Record.Phrases
import RecordSql.Proofs.Sql.Keys

/-! # Keys that can be missing

A field that is annotated as a key has a column that cannot be missing, unless a `null` stands
behind the word for the key. A definition that makes such a column the key of its table allows it to
be missing all the same, except where the type is serial.
-/

namespace RecordSql

namespace Flavor

/-- Whether the definition of a column ends in ` NULL` without ` NOT` in front. The literal of a
default is taken over as it stands and does not count. -/
def AllowsNull (f : Flavor) (c : Column) (key : Option String) : Prop :=
  Token.symbols " NULL" <:+ f.tokens (f.appendColumn "" { c with default := none } key) ∧
    ¬ Token.symbols " NOT NULL" <:+ f.tokens (f.appendColumn "" { c with default := none } key)

def KeepsNull (cs : List Char) : Prop :=
  ∀ front : List Char, ¬ " NOT".toList <:+ front ++ cs

variable {f : Flavor} {c : Column} {key : Option String} {cs ds : List Char}

theorem keepsNull_of_not_suffix (hl : 2 ≤ cs.length) (ht : ¬ ['O', 'T'] <:+ cs) :
    KeepsNull cs := by
  intro front hs
  have ho : ['O', 'T'] <:+ front ++ cs := (List.suffix_append [' ', 'N'] _).trans hs
  exact ht (List.suffix_of_suffix_length_le ho (List.suffix_append front cs) hl)

theorem keepsNull_concat {d : Char} (h : d ≠ 'T') (cs : List Char) : KeepsNull (cs ++ [d]) := by
  rintro front ⟨other, ho⟩
  have hd : (other ++ " NOT".toList).getLast? = some d := by
    rw [ho, ← List.append_assoc, List.getLast?_concat]
  have ht : (other ++ " NOT".toList).getLast? = some 'T' := by simp
  exact h (Option.some.inj (hd.symm.trans ht))

theorem KeepsNull.append (h : KeepsNull ds) (cs : List Char) : KeepsNull (cs ++ ds) := by
  intro front
  rw [← List.append_assoc]
  exact h _

theorem KeepsNull.append_or (h : KeepsNull cs) (hd : ds = [] ∨ KeepsNull ds) :
    KeepsNull (cs ++ ds) := by
  rcases hd with rfl | hd
  · rwa [List.append_nil]
  · exact hd.append cs

theorem keepsNull_physicalName (f : Flavor) (c : Column) :
    KeepsNull (f.physicalName c).toList := by
  obtain ⟨cs, hc, -, hl, ht⟩ := f.exists_physicalName c
  rw [hc, String.toList_ofList]
  exact keepsNull_of_not_suffix hl ht

theorem keepsNull_translate (f : Flavor) (c : Column) : KeepsNull (f.translate c).1.toList := by
  have hp := f.keepsNull_physicalName (f.settle c)
  unfold translate
  dsimp only
  split
  · rw [toList_appendLengths (f.physicalName (f.settle c))
      ⟨(f.settle c).length, (f.settle c).secondLength⟩]
    -- the lengths end in a digit or a bracket, if there are any
    rcases List.eq_nil_or_concat (Lengths.suffix ⟨(f.settle c).length, (f.settle c).secondLength⟩)
      with he | ⟨lengths, d, he⟩
    · rwa [he, List.append_nil]
    · rw [List.concat_eq_append] at he
      have hm : d ∈ Lengths.suffix ⟨(f.settle c).length, (f.settle c).secondLength⟩ := by
        rw [he]
        exact List.mem_append_right _ (List.mem_singleton_self d)
      have hd : d ≠ 'T' := by
        rintro rfl
        exact absurd (Lengths.toNat_of_mem_suffix hm).2 (by decide)
      rw [he, ← List.append_assoc]
      exact keepsNull_concat hd _
  · exact hp

theorem identityText_eq_empty_or (f : Flavor) (counting : Bool) :
    (f.identityText counting).toList = [] ∨ KeepsNull (f.identityText counting).toList := by
  unfold identityText
  split
  · next h =>
    cases f with
    | postgres => simp [autoIncrementWords] at h
    | _ => exact .inr (keepsNull_of_not_suffix (by decide) (by decide))
  · exact .inl rfl

theorem keepsNull_words (f : Flavor) (c : Column) (key : Option String) :
    KeepsNull ((f.wordsInFront c).toList ++ (f.keyText c key).toList ++
      (f.wordsBehind c).toList) := by
  have hi := f.identityText_eq_empty_or (f.translate c).2.autoIncrement
  have hf : KeepsNull (f.wordsInFront c).toList := by
    rw [wordsInFront, String.toList_append, String.toList_append]
    refine ((f.keepsNull_translate c).append _).append_or ?_
    split
    · exact hi
    · exact .inl rfl
  have hk : (f.keyText c key).toList = [] ∨ KeepsNull (f.keyText c key).toList := by
    unfold keyText
    split
    · exact .inr (keepsNull_of_not_suffix (by decide) (by decide))
    · exact .inl rfl
  refine (hf.append_or hk).append_or ?_
  unfold wordsBehind
  split
  · exact .inl rfl
  · exact hi

/-- The character of a symbol, and for any other token one that ` NOT` does not have. -/
def spot : Token → Char
  | .symbol c => c
  | _ => 'x'

theorem map_spot_symbols (s : String) : (Token.symbols s).map spot = s.toList := by
  simp [Token.symbols, Function.comp_def, spot]

theorem allowsNull_iff_nullable : f.AllowsNull c key ↔ (f.translate c).2.nullable = true := by
  unfold AllowsNull
  rw [tokens_withoutDefault, ← List.cons_append, nullWords]
  cases (f.translate c).2.nullable with
  | true =>
    refine iff_of_true ⟨List.suffix_append _ _, fun hs => ?_⟩ rfl
    have hn : Token.symbols " NOT NULL" = Token.symbols " NOT" ++ Token.symbols " NULL" := by
      decide
    rw [if_pos rfl, hn, List.suffix_append_self_iff] at hs
    have hm := hs.map spot
    simp only [List.map_cons, List.map_append, map_spot_symbols] at hm
    exact f.keepsNull_words c key ['x'] hm
  | false => exact iff_of_false (fun hs => hs.2 (List.suffix_append _ _)) Bool.false_ne_true

theorem allowsNull_iff :
    f.AllowsNull c key ↔ c.nullable = true ∧ c.type.isSerial = false := by
  rw [allowsNull_iff_nullable]
  simp [translate, settle_eq]

/-- Whether the definition of a column makes it the key and allows it to be missing. -/
def CombinesKeyWithNull (f : Flavor) (c : Column) (key : Option String) : Prop :=
  f.HoldsKey c key ∧ f.AllowsNull c key

end Flavor

namespace Column

theorem nullable_ofDirectives (n : Naming) (path name : String) (kind : Kind) (a : Directives) :
    (ofDirectives n path name kind a).nullable = a.nullable.getD true := by
  unfold ofDirectives setLengths
  cases a.lengths with
  | none => rfl
  | some l =>
    dsimp only
    split <;> rfl

theorem nullable_ofField_of_primaryKey {n : Naming} {path name : String} {kind : Kind}
    (h : (ofField n path name kind).primaryKey = true) :
    (ofField n path name kind).nullable = false := by
  unfold ofField at h ⊢
  dsimp only at h ⊢
  split at h
  · next hn => rw [if_pos hn]
  · cases h

end Column

namespace Field

variable {f : Field}

def LoosensKey (f : Field) : Prop :=
  ∃ text ps, f.line = some text ∧ Phrase.Spelled (Text.words (Text.toLower text)) ps ∧
    Phrase.NullBehindKey ps

theorem loosensKey_iff (h : f.directives?.isSome = true) (n : Naming) :
    f.LoosensKey ↔ (f.column n).primaryKey = true ∧ (f.column n).nullable = true := by
  obtain ⟨name, kind, _ | text⟩ := f
  · refine iff_of_false (fun ⟨_, _, hl, _⟩ => by cases hl) fun ⟨hk, hn⟩ => ?_
    have hf := Column.nullable_ofField_of_primaryKey hk
    exact Bool.false_ne_true (hf.symm.trans hn)
  · obtain ⟨a, ha⟩ := Option.isSome_iff_exists.mp h
    have ha : Directives.read? text = some a := ha
    have hc : (mk name kind (some text)).column n = Column.ofDirectives n "" name kind a := by
      rw [column, ha, Option.getD_some]
    have hk : (Column.ofDirectives n "" name kind a).primaryKey = a.primaryKey := rfl
    rw [hc, hk, Column.nullable_ofDirectives]
    constructor
    · rintro ⟨_, ps, hl, hs, hb⟩
      cases hl
      have hr := Directives.read?_eq_some_iff.mpr ⟨ps, hs, rfl⟩
      obtain rfl := Option.some.inj (hr.symm.trans ha)
      exact Directives.nullBehindKey_iff.mp hb
    · intro hb
      obtain ⟨ps, hs, rfl⟩ := Directives.read?_eq_some_iff.mp ha
      exact ⟨text, ps, rfl, hs, Directives.nullBehindKey_iff.mpr hb⟩

end Field

namespace RecordType

variable {n : Naming} {r : RecordType} {t : Table} {c : Column}

theorem forall_mem_columns_iff (h : r.table n = .ok t) {P : Column → Prop}
    (hP : ∀ c path, P { c with field := path } ↔ P c) :
    (∀ c ∈ t.columns, P c) ↔ ∀ p ∈ leaves r.fields, P (p.field.column n) := by
  obtain ⟨-, -, rfl⟩ := table_eq_ok_iff.mp h
  have he : (Table.empty (n.toTable r.name)).columns = [] := rfl
  simp only [Table.columns_foldl_push, he, List.nil_append, leafColumns, List.forall_mem_map, hP]

theorem isSome_directives?_of_mem_leaves (h : r.table n = .ok t) {p : Place}
    (hp : p ∈ leaves r.fields) : p.field.directives?.isSome = true :=
  ((table_eq_ok_iff.mp h).1 p (List.mem_of_mem_filter hp)).wellFormed

theorem combinesKeyWithNull_iff (h : r.table n = .ok t) (hc : c ∈ t.columns) (f : Flavor) :
    f.CombinesKeyWithNull c t.primaryKey ↔
      t.primaryKey = some c.name ∧ (c.primaryKey = true ∧ c.nullable = true) ∧
        c.type.isSerial = false := by
  obtain ⟨as, hh⟩ := exists_hasHistory_table h
  unfold Flavor.CombinesKeyWithNull
  rw [Flavor.holdsKey_iff, Flavor.allowsNull_iff]
  constructor
  · rintro ⟨⟨hk, hn⟩, ha, hs⟩
    have hk : c.primaryKey = true := by simpa [hs] using hk
    refine ⟨hn.resolve_left fun hn => ?_, ⟨hk, ha⟩, hs⟩
    exact Bool.false_ne_true ((hh.primaryKey_eq_false hn hc).symm.trans hk)
  · rintro ⟨hn, ⟨hk, ha⟩, hs⟩
    exact ⟨⟨.inl hk, .inr hn⟩, ha, hs⟩

end RecordType

/-- The keys of a mapped table cannot be missing exactly if no field has a `null` behind the word
for the key; no definition makes a key and allows it to be missing exactly if each such field of
which the column is the primary key has a serial type. -/
theorem keys_nonNull_iff {n : Naming} {r : RecordType} {t : Table} (h : r.table n = .ok t) :
    ((∀ c ∈ t.columns, c.primaryKey = true → c.nullable = false) ↔
      ∀ p ∈ leaves r.fields, ¬ p.field.LoosensKey) ∧
    ∀ f : Flavor, (∀ c ∈ t.columns, ¬ f.CombinesKeyWithNull c t.primaryKey) ↔
      ∀ p ∈ leaves r.fields, t.primaryKey = some (p.field.column n).name → p.field.LoosensKey →
        (p.field.column n).type.isSerial = true := by
  have hl : ∀ p ∈ leaves r.fields, p.field.LoosensKey ↔
      (p.field.column n).primaryKey = true ∧ (p.field.column n).nullable = true :=
    fun p hp => p.field.loosensKey_iff (RecordType.isSome_directives?_of_mem_leaves h hp) n
  constructor
  · rw [RecordType.forall_mem_columns_iff h fun c path => Iff.rfl]
    refine forall₂_congr fun p hp => ?_
    rw [hl p hp]
    simp
  · intro f
    have hc : (∀ c ∈ t.columns, ¬ f.CombinesKeyWithNull c t.primaryKey) ↔
        ∀ c ∈ t.columns, ¬ (t.primaryKey = some c.name ∧
          (c.primaryKey = true ∧ c.nullable = true) ∧ c.type.isSerial = false) :=
      forall₂_congr fun c hm => not_congr (RecordType.combinesKeyWithNull_iff h hm f)
    rw [hc, RecordType.forall_mem_columns_iff h fun c path => Iff.rfl]
    refine forall₂_congr fun p hp => ?_
    rw [hl p hp]
    simp

def serialKeyRecord : RecordType :=
  ⟨"item", [.mk "seq" .int (some "pk null serial"), .mk "code" .text (some "null pk")]⟩

def serialKeyTable : Table :=
  { Table.empty "item" with
    columns := [
      { Column.ofType "seq" .serial with primaryKey := true },
      { Column.ofType "code" .varchar with primaryKey := true, nullable := false }]
    primaryKey := some "seq" }

theorem keys_nonNull_serial :
    serialKeyRecord.table .same = .ok serialKeyTable ∧
      (¬ ∀ c ∈ serialKeyTable.columns, c.primaryKey = true → c.nullable = false) ∧
      ∀ f : Flavor, ∀ c ∈ serialKeyTable.columns,
        ¬ f.CombinesKeyWithNull c serialKeyTable.primaryKey := by
  have ht : serialKeyRecord.table .same = .ok serialKeyTable := by decide +kernel
  have hs : ∀ p ∈ leaves serialKeyRecord.fields,
      serialKeyTable.primaryKey = some (p.field.column .same).name →
        (p.field.column .same).type.isSerial = true := by decide +kernel
  exact ⟨ht, by decide, fun f =>
    ((keys_nonNull_iff ht).2 f).mpr fun p hp hk _ => hs p hp hk⟩

def looseRecord : RecordType :=
  ⟨"item", [.mk "code" .int (some "pk null")]⟩

def looseTable : Table :=
  { Table.empty "item" with
    columns := [{ Column.ofType "code" .int with primaryKey := true }]
    primaryKey := some "code" }

theorem key_loosened :
    looseRecord.table .same = .ok looseTable ∧
      (∃ c ∈ looseTable.columns, c.primaryKey = true ∧ c.nullable = true ∧
        ∀ f : Flavor, f.CombinesKeyWithNull c looseTable.primaryKey) ∧
      (Statement.ofTable looseTable).createTableSql .mysql false =
        .ok ["CREATE TABLE `item` (\n`code` INT PRIMARY KEY NULL);"] := by
  refine ⟨by decide +kernel, ⟨_, List.mem_cons_self, rfl, rfl, fun f => ?_⟩, by decide +kernel⟩
  exact ⟨Flavor.holdsKey_iff.mpr ⟨.inl rfl, .inr rfl⟩, Flavor.allowsNull_iff.mpr ⟨rfl, rfl⟩⟩

end RecordSql
