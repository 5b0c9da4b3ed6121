import Mathlib
import RecordSql.Database.Catalog
import RecordSql.Proofs.Database.Exchange
import RecordSql.Proofs.Schema.Groups

/-! # Indexes read back from the catalog

The catalog lists the columns of the indexes that were created for the groups of a table. Each index
is read back as its group, unless the group has no name; but groups of one name are read back as one
index, which is unique only if the first of them is.
-/

namespace RecordSql

/-- A name that neither starts nor ends with a space or a backtick. -/
def IsBare (name : String) : Prop :=
  (∀ c ∈ name.toList.head?, c ≠ '`' ∧ c ≠ ' ') ∧ ∀ c ∈ name.toList.getLast?, c ≠ '`' ∧ c ≠ ' '

def Index.row (table : String) (i : Index) (column : String) : Row :=
  ⟨["INDEX_NAME", "NON_UNIQUE", "COLUMN_NAME"],
    [.text (Flavor.indexName table i.name i.unique), .int (if i.unique then 0 else 1),
      .text column]⟩

def Index.rows (table : String) (i : Index) : List Row :=
  i.columns.map (i.row table)

def Index.group (i : Index) : Group :=
  ⟨i.name, i.columns⟩

def Group.index (unique : Bool) (g : Group) : Index :=
  ⟨g.name, unique, g.members⟩

namespace Table

def groupIndexes (t : Table) : List Index :=
  t.indexes.map (Group.index false) ++ t.uniques.map (Group.index true)

def indexRows (t : Table) : List Row :=
  t.groupIndexes.flatMap (Index.rows t.name)

end Table

theorem Statement.createTableSql_eq {s : Statement} {t : Table} (h : s.table = some t) (f : Flavor)
    (ifMissing : Bool) :
    s.createTableSql f ifMissing =
      .ok (f.appendCreateTable "" t ifMissing ⟨s.storeEngine, s.charset⟩ ::
        t.groupIndexes.map fun i => f.appendCreateIndex "" t.name i.name i.columns i.unique) := by
  simp [createTableSql, mappedTable, h, Table.groupIndexes, Group.index, Function.comp_def, bind,
    Except.bind, pure, Except.pure]

namespace Catalog

variable {table name column : String} {unique : Bool} {is js : List Index} {i : Index}

/-! ## Names -/

theorem dropWhile_of_head? {p : Char → Bool} {s : List Char} (h : ∀ c ∈ s.head?, p c = false) :
    s.dropWhile p = s := by
  cases s with
  | nil => rfl
  | cons c s => rw [List.dropWhile_cons_of_neg (by simp [h c rfl])]

theorem bareName_of_isBare (h : IsBare name) : bareName name = name := by
  have hp : ∀ c : Char, c ≠ '`' ∧ c ≠ ' ' → (decide (c = '`') || decide (c = ' ')) = false := by
    intro c hc
    simp [hc]
  have hs : ∀ c ∈ name.toList.reverse.head?, (decide (c = '`') || decide (c = ' ')) = false := by
    intro c hc
    rw [List.head?_reverse] at hc
    exact hp c (h.2 c hc)
  rw [bareName, Text.trimOf, dropWhile_of_head? fun c hc => hp c (h.1 c hc), Text.dropEnd,
    dropWhile_of_head? hs, List.reverse_reverse, String.ofList_toList]

theorem dropStart?_append (start s : List Char) :
    groupName.dropStart? start (start ++ s) = some s := by
  induction start with
  | nil => rfl
  | cons c start ih => simp [groupName.dropStart?, ih]

theorem groupName_indexName (table : String) {group : String} (h : group ≠ "") (unique : Bool) :
    groupName table (Flavor.indexName table group unique) = group := by
  have hg : (groupName.dropStart? (table.toList ++ ['_'])
      (table.toList ++ '_' :: group.toList)).map String.ofList = some group := by
    have ha := dropStart?_append (table.toList ++ ['_']) group.toList
    rw [List.append_assoc, List.singleton_append] at ha
    rw [ha, Option.map_some, String.ofList_toList]
  have hf : (some group).filter (· != "") = some group := by simp [Option.filter, h]
  cases unique <;>
    simp only [groupName, Flavor.indexName, String.toList_append, List.append_assoc] <;>
    simp [groupName.dropStart?, hg, hf]

theorem groupName_ne_empty (table : String) (h : name ≠ "") : groupName table name ≠ "" := by
  unfold groupName
  dsimp only
  split
  · next hf =>
    obtain ⟨-, hn⟩ := Option.filter_eq_some_iff.mp hf
    simpa using hn
  · exact h

/-! ## Collecting rows -/

theorem contribute_of_not_mem (h : name ∉ is.map (·.name)) (unique : Bool) (column : String) :
    contribute name unique column is = is ++ [⟨name, unique, [column]⟩] := by
  induction is with
  | nil => rfl
  | cons i is ih =>
    obtain ⟨hi, his⟩ : name ≠ i.name ∧ name ∉ is.map (·.name) := by simpa using h
    rw [contribute, if_neg (Ne.symm hi), ih his, List.cons_append]

theorem contribute_of_last (h : i.name ∉ is.map (·.name)) (unique : Bool) (column : String) :
    contribute i.name unique column (is ++ [i]) =
      is ++ [{ i with columns := i.columns ++ [column] }] := by
  induction is with
  | nil => simp [contribute]
  | cons j is ih =>
    obtain ⟨hj, his⟩ : i.name ≠ j.name ∧ i.name ∉ is.map (·.name) := by simpa using h
    rw [List.cons_append, contribute, if_neg (Ne.symm hj), ih his, List.cons_append]

theorem map_group_contribute (name : String) (unique : Bool) (column : String) (is : List Index) :
    (contribute name unique column is).map Index.group =
      Group.contribute name [column] (is.map Index.group) := by
  induction is with
  | nil => rfl
  | cons i is ih =>
    by_cases hi : i.name = name
    · simp [contribute, Group.contribute, Index.group, hi]
    · rw [contribute, if_neg hi, List.map_cons, ih, List.map_cons, Group.contribute]
      exact (if_neg hi).symm

theorem addIndexRow_row (is : List Index) (hn : i.name ≠ "") (hc : IsBare column) :
    addIndexRow table is (i.row table column) = contribute i.name i.unique column is := by
  have hp : Flavor.indexName table i.name i.unique ≠ "" ∧
      Flavor.indexName table i.name i.unique ≠ "PRIMARY" := by
    cases i.unique <;> simp [Flavor.indexName, ← String.toList_inj]
  have hr : ((i.row table column).get 0).written? =
      some (Flavor.indexName table i.name i.unique) := rfl
  have hu : (((i.row table column).get 1).written? != some "YES" &&
      ((i.row table column).get 1).written? != some "1") = i.unique := by
    have hv : ∀ n : Bool, ((Value.int (if n then 0 else 1)).written? != some "YES" &&
        (Value.int (if n then 0 else 1)).written? != some "1") = n := by decide
    exact hv i.unique
  have hb : bareName (cell (i.row table column) 2) = column := bareName_of_isBare hc
  rw [addIndexRow, hr]
  simp only [hp, hu, hb, groupName_indexName table hn i.unique, decide_false, Bool.or_self,
    Bool.false_eq_true, if_false]

theorem foldl_addIndexRow_row (table : String) (hn : i.name ≠ "")
    (hf : i.name ∉ is.map (·.name)) (front : List String) {columns : List String}
    (hc : ∀ c ∈ columns, IsBare c) :
    (columns.map (i.row table)).foldl (addIndexRow table) (is ++ [{ i with columns := front }]) =
      is ++ [{ i with columns := front ++ columns }] := by
  induction columns generalizing front with
  | nil => simp
  | cons c columns ih =>
    have hl := contribute_of_last (i := { i with columns := front }) hf i.unique c
    rw [List.map_cons, List.foldl_cons, addIndexRow_row _ hn (hc c List.mem_cons_self), hl,
      ih (front ++ [c]) fun d hd => hc d (List.mem_cons_of_mem c hd), List.append_assoc,
      List.singleton_append]

theorem foldl_addIndexRow_rows (hn : i.name ≠ "") (hf : i.name ∉ is.map (·.name))
    (hm : i.columns ≠ []) (hc : ∀ c ∈ i.columns, IsBare c) :
    (i.rows table).foldl (addIndexRow table) is = is ++ [i] := by
  obtain ⟨c, columns, hi⟩ := List.exists_cons_of_ne_nil hm
  rw [hi] at hc
  have hr := foldl_addIndexRow_row table hn hf [c]
    fun d hd => hc d (List.mem_cons_of_mem c hd)
  rw [Index.rows, hi, List.map_cons, List.foldl_cons,
    addIndexRow_row _ hn (hc c List.mem_cons_self), contribute_of_not_mem hf]
  rw [List.singleton_append, ← hi] at hr
  exact hr

theorem foldl_addIndexRow_flatMap (hd : ((js ++ is).map (·.name)).Nodup)
    (hn : ∀ i ∈ is, i.name ≠ "") (hm : ∀ i ∈ is, i.columns ≠ [])
    (hc : ∀ i ∈ is, ∀ c ∈ i.columns, IsBare c) :
    (is.flatMap (Index.rows table)).foldl (addIndexRow table) js = js ++ is := by
  induction is generalizing js with
  | nil => simp
  | cons i is ih =>
    have hf : i.name ∉ js.map (·.name) := fun hj =>
      List.disjoint_of_nodup_append (List.map_append ▸ hd) hj List.mem_cons_self
    simp only [List.forall_mem_cons] at hn hm hc
    rw [List.flatMap_cons, List.foldl_append, foldl_addIndexRow_rows hn.1 hf hm.1 hc.1,
      ih (by simpa using hd) hn.2 hm.2 hc.2, List.append_assoc, List.singleton_append]

def Distinct (is : List Index) : Prop :=
  (is.map (·.name)).Nodup ∧ ∀ i ∈ is, i.name ≠ ""

theorem distinct_contribute (h : Distinct is) (hn : name ≠ "") (unique : Bool) (column : String) :
    Distinct (contribute name unique column is) := by
  have hg : (contribute name unique column is).map (·.name) =
      (Group.contribute name [column] (is.map Index.group)).map (·.name) := by
    rw [← map_group_contribute, List.map_map]
    rfl
  refine ⟨?_, fun i hi he => ?_⟩
  · rw [hg]
    exact Group.nodup_contribute _ (by simpa [Index.group, Function.comp_def] using h.1)
  · have hm := List.mem_map_of_mem (f := Index.group) hi
    rw [map_group_contribute] at hm
    rcases Group.mem_contribute hm with hm | hm | ⟨k, hk, hm⟩
    · obtain ⟨j, hj, hji⟩ := List.mem_map.mp hm
      exact h.2 j hj ((congrArg Group.name hji).trans he)
    · exact hn ((congrArg Group.name hm).symm.trans he)
    · obtain ⟨j, hj, rfl⟩ := List.mem_map.mp hk
      exact h.2 j hj ((congrArg Group.name hm).symm.trans he)

theorem distinct_addIndexRow (h : Distinct is) (r : Row) : Distinct (addIndexRow table is r) := by
  unfold addIndexRow
  split
  · exact h
  · split
    · exact h
    · next hn =>
      have hne : ‹String› ≠ "" := by
        intro he
        simp [he] at hn
      exact distinct_contribute h (groupName_ne_empty table hne) _ _

theorem distinct_readIndexes (table : String) (rows : List Row) :
    Distinct (readIndexes table rows) := by
  have hs : ∀ is, Distinct is → Distinct (rows.foldl (addIndexRow table) is) := by
    induction rows with
    | nil => exact fun is h => h
    | cons r rows ih => exact fun is h => ih _ (distinct_addIndexRow h r)
  exact hs [] ⟨List.nodup_nil, by simp⟩

end Catalog

/-! ## Folding indexes into a table -/

namespace Table

variable {t : Table} {is : List Index}

def regroup (t : Table) (is : List Index) : Table :=
  is.foldl addIndex { t with indexes := [], uniques := [] }

theorem indexes_foldl_addIndex (is : List Index) (t : Table) :
    (is.foldl addIndex t).indexes = ((is.filter (!·.unique)).map Index.group).foldl
      (fun gs g => Group.contribute g.name g.members gs) t.indexes := by
  induction is generalizing t with
  | nil => rfl
  | cons i is ih => cases hu : i.unique <;> simp [ih, addIndex, hu, Index.group]

theorem uniques_foldl_addIndex (is : List Index) (t : Table) :
    (is.foldl addIndex t).uniques = ((is.filter (·.unique)).map Index.group).foldl
      (fun gs g => Group.contribute g.name g.members gs) t.uniques := by
  induction is generalizing t with
  | nil => rfl
  | cons i is ih => cases hu : i.unique <;> simp [ih, addIndex, hu, Index.group]

theorem nodup_map_group_filter (h : (is.map (·.name)).Nodup) (p : Index → Bool) :
    (((is.filter p).map Index.group).map (·.name)).Nodup := by
  rw [List.map_map]
  exact h.sublist (List.filter_sublist.map _)

theorem indexes_regroup (t : Table) (h : (is.map (·.name)).Nodup) :
    (t.regroup is).indexes = (is.filter (!·.unique)).map Index.group := by
  rw [regroup, indexes_foldl_addIndex]
  exact Group.foldl_contribute (nodup_map_group_filter h _)

theorem uniques_regroup (t : Table) (h : (is.map (·.name)).Nodup) :
    (t.regroup is).uniques = (is.filter (·.unique)).map Index.group := by
  rw [regroup, uniques_foldl_addIndex]
  exact Group.foldl_contribute (nodup_map_group_filter h _)

theorem regroup_groupIndexes (h : (t.groupIndexes.map (·.name)).Nodup) :
    (t.regroup t.groupIndexes).indexes = t.indexes ∧
      (t.regroup t.groupIndexes).uniques = t.uniques := by
  have hg : ∀ (unique : Bool) (gs : List Group),
      (gs.map (Group.index unique)).map Index.group = gs := by
    intro unique gs
    rw [List.map_map]
    exact List.map_id gs
  rw [indexes_regroup t h, uniques_regroup t h, groupIndexes, List.filter_append,
    List.filter_append]
  constructor
  · rw [List.filter_eq_self.mpr (by simp [Group.index]),
      List.filter_eq_nil_iff.mpr (by simp [Group.index]), List.append_nil, hg]
  · rw [List.filter_eq_nil_iff.mpr (by simp [Group.index]),
      List.filter_eq_self.mpr (by simp [Group.index]), List.nil_append, hg]

/-- Each group has a name, and no name is both that of an index and that of a uniqueness group. -/
def Separate (t : Table) : Prop :=
  (∀ g ∈ t.indexes ++ t.uniques, g.name ≠ "") ∧
    ∀ g ∈ t.indexes, ∀ k ∈ t.uniques, g.name ≠ k.name

theorem Separate.nodup (h : t.Separate) (hg : t.WellGrouped) :
    (t.groupIndexes.map (·.name)).Nodup := by
  rw [groupIndexes, List.map_append, List.map_map, List.map_map]
  refine List.nodup_append.mpr ⟨hg.1.nodup, hg.2.nodup, fun a ha b hb => ?_⟩
  obtain ⟨g, hm, rfl⟩ := List.mem_map.mp ha
  obtain ⟨k, hk, rfl⟩ := List.mem_map.mp hb
  exact h.2 g hm k hk

theorem exists_of_mem_groupIndexes {i : Index} (h : i ∈ t.groupIndexes) :
    ∃ unique, ∃ g ∈ t.indexes ++ t.uniques, i = g.index unique := by
  rcases List.mem_append.mp h with h | h
  · obtain ⟨g, hg, rfl⟩ := List.mem_map.mp h
    exact ⟨false, g, List.mem_append_left _ hg, rfl⟩
  · obtain ⟨g, hg, rfl⟩ := List.mem_map.mp h
    exact ⟨true, g, List.mem_append_right _ hg, rfl⟩

theorem WellGrouped.of_mem (h : t.WellGrouped) {g : Group} (hg : g ∈ t.indexes ++ t.uniques) :
    g.members ≠ [] ∧ ∀ c ∈ g.members, c ∈ t.columnNames := by
  rcases List.mem_append.mp hg with hg | hg
  · exact ⟨h.1.members_ne_nil g hg, h.1.mem_columns g hg⟩
  · exact ⟨h.2.members_ne_nil g hg, h.2.mem_columns g hg⟩

theorem readIndexes_indexRows (hg : t.WellGrouped) (hb : ∀ c ∈ t.columnNames, IsBare c)
    (hs : t.Separate) : Catalog.readIndexes t.name t.indexRows = t.groupIndexes := by
  refine Catalog.foldl_addIndexRow_flatMap (hs.nodup hg) (fun i hi => ?_) (fun i hi => ?_)
    fun i hi c hc => ?_
  all_goals obtain ⟨unique, g, hm, rfl⟩ := exists_of_mem_groupIndexes hi
  · exact hs.1 g hm
  · exact (hg.of_mem hm).1
  · exact hb c ((hg.of_mem hm).2 c hc)

/-- The groups of a table are read back from the rows of their indexes exactly if they are
separate. -/
theorem regroup_readIndexes_iff (hg : t.WellGrouped) (hb : ∀ c ∈ t.columnNames, IsBare c) :
    (t.regroup (Catalog.readIndexes t.name t.indexRows)).indexes = t.indexes ∧
      (t.regroup (Catalog.readIndexes t.name t.indexRows)).uniques = t.uniques ↔ t.Separate := by
  constructor
  · obtain ⟨hd, hn⟩ := Catalog.distinct_readIndexes t.name t.indexRows
    rw [indexes_regroup t hd, uniques_regroup t hd]
    rintro ⟨hi, hu⟩
    have hmi : ∀ g ∈ t.indexes, ∃ i ∈ Catalog.readIndexes t.name t.indexRows,
        i.unique = false ∧ i.group = g := by
      simp [← hi, and_assoc]
    have hmu : ∀ g ∈ t.uniques, ∃ i ∈ Catalog.readIndexes t.name t.indexRows,
        i.unique = true ∧ i.group = g := by
      simp [← hu, and_assoc]
    refine ⟨fun g hm => ?_, fun g hm k hk he => ?_⟩
    · rcases List.mem_append.mp hm with hm | hm
      · obtain ⟨i, hir, -, rfl⟩ := hmi g hm
        exact hn i hir
      · obtain ⟨i, hir, -, rfl⟩ := hmu g hm
        exact hn i hir
    · obtain ⟨i, hir, hif, rfl⟩ := hmi g hm
      obtain ⟨j, hjr, hjt, rfl⟩ := hmu k hk
      -- indexes of one name are one index, which is unique or not
      obtain rfl : i = j := List.inj_on_of_nodup_map hd hir hjr he
      exact Bool.false_ne_true (hif.symm.trans hjt)
  · intro hs
    rw [readIndexes_indexRows hg hb hs]
    exact regroup_groupIndexes (hs.nodup hg)

end Table

/-! ## Reading from a server -/

namespace Catalog

variable {l : Link} {rows : List Row}

theorem run_queries {queried : CatalogQueries}
    (hq : l.server.dialect.flavor.catalogQueries? = some queried) :
    queries.run.run l = (.ok queried, l) := by
  rw [queries, Failure.run_get_bind]
  simp only [hq]
  rfl

theorem run_queries_of_none
    (hq : l.server.dialect.flavor.catalogQueries? = none) :
    ∃ journal, queries.run.run l =
      (.error (.of (.unsupportedDialect l.server.dialect.name)), ⟨l.server, journal⟩) := by
  rw [queries, Failure.run_get_bind]
  simp only [hq]
  exact ⟨_, rfl⟩

theorem run_indexes (hd : l.server.dialect = .mysql)
    (ha : l.server.answers.head? = some (rows.map Item.row)) (database table : String) :
    ((indexes database table).run.run l).1 = .ok (readIndexes table rows) := by
  obtain ⟨queried, hq⟩ : ∃ queried, l.server.dialect.flavor.catalogQueries? = some queried := by
    rw [hd]
    exact ⟨_, rfl⟩
  have hf := Link.run_fetch l ⟨queried.indexes, [.text database, .text table]⟩
  rw [List.headD_eq_head?_getD, ha, Option.getD_some, Item.rows_map_row] at hf
  rw [indexes, Failure.run_bind (run_queries hq), Failure.run_bind hf]
  rfl

end Catalog

/-- The groups of a mapped table come back from the indexes that are created for them exactly if
each group has a name and no name is both that of an index and that of a uniqueness group. -/
theorem groups_read_back_iff {n : Naming} {r : RecordType} {t : Table} (h : r.table n = .ok t)
    (hb : ∀ c ∈ t.columnNames, IsBare c) {l : Link} (hd : l.server.dialect = .mysql)
    (ha : l.server.answers.head? = some (t.indexRows.map Item.row)) (database : String) :
    ∃ is, ((Catalog.indexes database t.name).run.run l).1 = .ok is ∧
      ((t.regroup is).indexes = t.indexes ∧ (t.regroup is).uniques = t.uniques ↔ t.Separate) :=
  ⟨_, Catalog.run_indexes hd ha database t.name,
    Table.regroup_readIndexes_iff (RecordType.wellGrouped_table h) hb⟩

def groupedRecord : RecordType :=
  ⟨"t", [.mk "a" .int (some "index(x)"), .mk "b" .text (some "index(x) unique")]⟩

def overlappingRecord : RecordType :=
  ⟨"t", [.mk "a" .int (some "index unique")]⟩

def groupedTable : Table :=
  { Table.empty "t" with
    columns := [{ Column.ofType "a" .int with index := .named "x" },
      { Column.ofType "b" .varchar with index := .named "x", unique := .single }]
    indexes := [⟨"x", ["a", "b"]⟩]
    uniques := [⟨"b", ["b"]⟩] }

theorem groups_read_back_grouped :
    ∃ is, ((Catalog.indexes "db" "t").run.run
        ⟨⟨.mysql, [groupedTable.indexRows.map Item.row], []⟩, .empty false⟩).1 = .ok is ∧
      (groupedTable.regroup is).indexes = groupedTable.indexes ∧
      (groupedTable.regroup is).uniques = groupedTable.uniques := by
  have hb : ∀ c ∈ groupedTable.columnNames, IsBare c := by
    simp [groupedTable, Table.columnNames, IsBare, Column.ofType]
  have ht : groupedRecord.table .same = .ok groupedTable := by cbv
  obtain ⟨is, hr, hi⟩ := groups_read_back_iff ht hb
    (l := ⟨⟨.mysql, [groupedTable.indexRows.map Item.row], []⟩, .empty false⟩) rfl rfl "db"
  exact ⟨is, hr, hi.mpr (by simp [Table.Separate, groupedTable])⟩

theorem groups_not_read_back :
    ∃ t, overlappingRecord.table .same = .ok t ∧
      t.indexes = [⟨"a", ["a"]⟩] ∧ t.uniques = [⟨"a", ["a"]⟩] ∧
      (t.regroup (Catalog.readIndexes t.name t.indexRows)).indexes = [⟨"a", ["a", "a"]⟩] ∧
      (t.regroup (Catalog.readIndexes t.name t.indexRows)).uniques = [] := by
  refine ⟨{ Table.empty "t" with
      columns := [{ Column.ofType "a" .int with index := .single, unique := .single }]
      indexes := [⟨"a", ["a"]⟩]
      uniques := [⟨"a", ["a"]⟩] }, by cbv, rfl, rfl, ?_, ?_⟩
  · decide +kernel
  · decide +kernel

end RecordSql
