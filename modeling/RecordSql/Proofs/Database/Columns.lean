import RecordSql.Database.Catalog
import RecordSql.Proofs.Record.Grammar

/-! # Columns of the catalog

A column that MySQL is told to make is described by a row of its catalog. Read back from there, the
column is a key, counts its rows and can be missing as it was declared, and is declared with the
same type again.
-/

namespace RecordSql

namespace Catalog

/-- A cell holds a type in letters of any case, with blanks around it or modifiers without
parentheses behind it. -/
def HoldsType (cell type : String) : Prop :=
  ∃ before written after, cell = before ++ written ++ after ∧
    (∀ c ∈ before.toList, Text.isBlank c = true) ∧ Text.sameLetters written type = true ∧
      (∀ c ∈ after.toList.head?, Text.isBlank c = true) ∧ '(' ∉ after.toList

/-- A row describes a column of a type as it is declared, without a default. -/
structure Describes (r : Row) (c : Column) (type : String) : Prop where
  type : HoldsType (cell r 3) type
  nullable : (r.get 1).string? = some (if c.nullable then "YES" else "NO")
  default : r.get 2 = .null
  key : (r.get 4).string? = some (if c.primaryKey then "PRI" else "")
  extra : (r.get 5).string? = some (if c.autoIncrement then "auto_increment" else "")

variable {t : ColumnType} {name rest : List Char} {l : Lengths}

theorem isAlpha_of_mem_called (h : t.IsCalled (String.ofList name)) {c : Char} (hc : c ∈ name) :
    c.isAlpha = true :=
  h.isAlpha_of_mem (by simpa using hc)

theorem called_ne_nil (h : t.IsCalled (String.ofList name)) : name ≠ [] := by
  rintro rfl
  have hn : ColumnType.lookup? (String.ofList []) = none := by decide
  exact absurd (hn.symm.trans (ColumnType.lookup?_eq_some_iff.mpr h)) (by simp)

theorem isBlank_of_mem_called (h : t.IsCalled (String.ofList name)) {c : Char} (hc : c ∈ name) :
    Text.isBlank c = false := by
  refine Text.isBlank_of_visible ?_
  have hn := Text.toNat_of_isAlpha (isAlpha_of_mem_called h hc)
  omega

theorem lookup?_typeName (h : t.IsCalled (String.ofList name))
    (hr : ∀ c ∈ rest.head?, Text.isBlank c = true) :
    ColumnType.lookup? (typeName (String.ofList (name ++ rest))) = some t := by
  rw [typeName, Text.headD_words (fun _ => isBlank_of_mem_called h) (called_ne_nil h) hr,
    ← ColumnType.lookup?_eq_some_iff.mpr h]
  refine ColumnType.lookup?_congr ?_
  rw [Text.map_toLower_toUpper fun _ => isAlpha_of_mem_called h, String.toList_ofList]

theorem read?_suffix (h : t.IsCalled (String.ofList name))
    (hr : ∀ c ∈ rest.head?, Text.isBlank c = true) (hp : '(' ∉ rest) :
    ∃ s, TypeToken.read? (String.ofList (name ++ l.suffix ++ rest)) = some ⟨s, l.argument?⟩ ∧
      ColumnType.lookup? (typeName s) = some t := by
  have hn : '(' ∉ name := fun hc => absurd (isAlpha_of_mem_called h hc) (by decide)
  unfold Lengths.suffix
  cases hl : l.argument? with
  | none =>
    refine ⟨String.ofList (name ++ rest), ?_, lookup?_typeName h hr⟩
    rw [List.append_nil, TypeToken.read?_of_not_mem (by simp [hn, hp])]
  | some s =>
    have hs : ')' ∉ s.toList := fun hc =>
      absurd (Lengths.toNat_of_mem_argument hl hc) (by decide)
    have hb : ∀ c ∈ ([] : List Char).head?, Text.isBlank c = true := by simp
    refine ⟨String.ofList name, ?_, ?_⟩
    · have hc := TypeToken.read?_append hn hs rest
      rw [String.ofList_toList] at hc
      simpa using hc
    · simpa using lookup?_typeName h hb

theorem HoldsType.read? {text : String}
    (h : HoldsType text (Flavor.appendLengths t.name l.first l.second)) :
    ∃ s, TypeToken.read? (Text.trim text) = some ⟨s, l.argument?⟩ ∧
      ColumnType.lookup? (typeName s) = some t := by
  obtain ⟨before, written, after, rfl, hb, hw, hh, hp⟩ := h
  rw [Text.sameLetters_iff, Flavor.toList_appendLengths] at hw
  -- lengths have no letters, so that the cell can only vary the letters of the name
  have hs : ∀ c ∈ l.suffix, c.isAlpha = false := fun c hc => by
    have hn := Lengths.toNat_of_mem_suffix hc
    rw [Bool.eq_false_iff]
    intro ha
    have hl := Text.toNat_of_isAlpha ha
    omega
  obtain ⟨name, hw, ha⟩ := Text.exists_append_of_map_toLower_eq hw hs
  have hn : t.IsCalled (String.ofList name) := .inl (Text.sameLetters_iff.mpr (by simpa using ha))
  have hv : ∀ c ∈ name ++ l.suffix, Text.isBlank c = false := fun c hc => by
    rcases List.mem_append.mp hc with hc | hc
    · exact isBlank_of_mem_called hn hc
    · have hn := Lengths.toNat_of_mem_suffix hc
      exact Text.isBlank_of_visible (by omega)
  have hne : name ++ l.suffix ≠ [] := List.append_ne_nil_of_left_ne_nil (called_ne_nil hn) _
  have ht := Text.trim_append hb hv hne after.toList
  have hr := Text.dropEnd_prefix Text.isBlank after.toList
  have hw : before ++ written ++ after =
      String.ofList (before.toList ++ (name ++ l.suffix ++ after.toList)) := by
    rw [← hw, String.ofList_append, String.ofList_append, String.ofList_toList,
      String.ofList_toList, String.ofList_toList, String.append_assoc]
  rw [hw, ht]
  exact read?_suffix hn (fun c hc => hh c (Text.mem_head?_of_dropEnd hc)) fun hm => hp (hr.subset hm)

theorem reportedLengths_argument (c : Column) (l : Lengths) :
    reportedLengths c l.argument? = some { c with
      length := l.first
      secondLength := if l.first = 0 then 0 else l.second } := by
  cases hl : l.argument? with
  | none =>
    have hf := Lengths.argument?_eq_none_iff.mp hl
    simp [reportedLengths, hf]
  | some s =>
    have hf : l.first ≠ 0 := fun hf => by simp [Lengths.argument?_eq_none_iff.mpr hf] at hl
    simp [reportedLengths, Lengths.read?_argument hl, Column.setLengths,
      UInt32.pos_iff_ne_zero.mpr hf, hf]

def constrained (r : Row) (c : Column) : Column :=
  Column.quoteDefault { c with
    nullable := (r.get 1).string? = some "YES"
    default := (r.get 2).written?
    primaryKey := (r.get 4).string? = some "PRI"
    autoIncrement := (r.get 5).string? = some "auto_increment" }

/-- A row is read as a column exactly if its type is a token with a type of the catalog and lengths. -/
theorem readColumn_eq_ok_iff {r : Row} {c : Column} :
    readColumn r = .ok c ↔ ∃ token t d, TypeToken.read? (Text.trim (cell r 3)) = some token ∧
      ColumnType.lookup? (typeName token.name) = some t ∧
      reportedLengths (Column.ofType (bareName (cell r 0)) t) token.argument = some d ∧
      constrained r d = c := by
  unfold readColumn
  dsimp only
  split
  · next hn => simp [hn]
  · next token ht =>
    split
    · next hn => simp [ht, hn]
    · next t hl =>
      split
      · next hn => simp [ht, hl, hn]
      · next d hd => simp [ht, hl, hd, constrained]

theorem exists_of_reportedLengths {c d : Column} {argument : Option String}
    (h : reportedLengths c argument = some d) :
    ∃ first second, d = { c with length := first, secondLength := second } := by
  unfold reportedLengths at h
  split at h
  · obtain ⟨l, -, rfl⟩ := Option.map_eq_some_iff.mp h
    unfold Column.setLengths
    split
    · exact ⟨_, _, rfl⟩
    · exact ⟨c.length, c.secondLength, rfl⟩
  · cases h
    exact ⟨0, 0, rfl⟩

theorem name_of_readColumn {r : Row} {c : Column} (h : readColumn r = .ok c) :
    c.name = bareName (cell r 0) := by
  obtain ⟨token, t, d, -, -, hd, rfl⟩ := readColumn_eq_ok_iff.mp h
  obtain ⟨first, second, rfl⟩ := exists_of_reportedLengths hd
  rfl

theorem Describes.readColumn {r : Row} {c : Column}
    (h : Describes r c (Flavor.appendLengths t.name l.first l.second)) :
    ∃ d, Catalog.readColumn r = .ok d ∧ d.nullable = c.nullable ∧ d.primaryKey = c.primaryKey ∧
      d.autoIncrement = c.autoIncrement ∧ d.type = t ∧ d.length = l.first ∧
        d.secondLength = if l.first = 0 then 0 else l.second := by
  obtain ⟨name, ht, hn⟩ := h.type.read?
  refine ⟨_, readColumn_eq_ok_iff.mpr ⟨_, t, _, ht, hn, reportedLengths_argument _ l, rfl⟩,
    ?_, ?_, ?_, rfl, rfl, rfl⟩
  · simp only [constrained, Column.quoteDefault, h.nullable]
    cases c.nullable <;> decide
  · simp only [constrained, Column.quoteDefault, h.key]
    cases c.primaryKey <;> decide
  · simp only [constrained, Column.quoteDefault, h.extra]
    cases c.autoIncrement <;> decide

end Catalog

/-- A column read back from its row in the catalog of MySQL has its constraints and its type. -/
theorem columnOf_described {c : Column} {r : Row}
    (h : Catalog.Describes r (Flavor.mysql.translate c).2 (Flavor.mysql.translate c).1) :
    ∃ d, (∀ j, (Catalog.columnOf r).run.run j = (.ok d, j)) ∧
      d.nullable = (Flavor.mysql.translate c).2.nullable ∧
      d.primaryKey = (Flavor.mysql.translate c).2.primaryKey ∧
      d.autoIncrement = (Flavor.mysql.translate c).2.autoIncrement ∧
      (Flavor.mysql.translate d).1 = (Flavor.mysql.translate c).1 := by
  rw [Flavor.translate_mysql] at h ⊢
  obtain ⟨d, hd, hn, hk, ha, ht, hf, hs⟩ := h.readColumn (l := ⟨_, _⟩)
  refine ⟨d, fun j => ?_, hn, hk, ha, ?_⟩
  · rw [Catalog.columnOf, hd]
    rfl
  · rw [Flavor.translate_mysql, Flavor.settle_of_stored ht, ht, ColumnType.stored_stored, hf, hs]
    -- the second length is lost only behind a first one that is not written either
    split
    · next h0 =>
      dsimp only at h0
      simp [Flavor.appendLengths, h0]
    · rfl

def declaredColumn : Column :=
  { Column.ofType "n" .bigserial with length := 10, secondLength := 2 }

def declaredRow : Row :=
  ⟨[], [.text "n", .text "NO", .null, .text " BigInt(10,2) unsigned zerofill ", .text "PRI",
    .text "auto_increment"]⟩

theorem columnOf_described_serial :
    ∃ d, (∀ j, (Catalog.columnOf declaredRow).run.run j = (.ok d, j)) ∧ d.nullable = false ∧
      d.primaryKey = true ∧ d.autoIncrement = true ∧
      (Flavor.mysql.translate d).1 = "BIGINT(10,2)" := by
  have ht : Flavor.mysql.translate declaredColumn = ("BIGINT(10,2)",
      { declaredColumn with autoIncrement := true, primaryKey := true, nullable := false }) := by
    decide +kernel
  have hd : Catalog.Describes declaredRow (Flavor.mysql.translate declaredColumn).2
      (Flavor.mysql.translate declaredColumn).1 := by
    have hb : Text.isBlank ' ' = true := by decide
    rw [ht]
    exact ⟨⟨" ", "BigInt(10,2)", " unsigned zerofill ", by decide, by simp [hb], by decide,
      by simp [hb], by decide⟩, rfl, rfl, rfl, rfl⟩
  obtain ⟨d, hd, hn, hk, ha, hs⟩ := columnOf_described hd
  rw [ht] at hn hk ha hs
  exact ⟨d, hd, hn, hk, ha, hs⟩

end RecordSql
