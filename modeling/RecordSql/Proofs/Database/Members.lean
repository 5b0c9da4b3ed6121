import RecordSql.Proofs.Database.IndexRows
import RecordSql.Proofs.Database.Tables

/-! # Members of groups read back

The columns of a table and the members of its groups are read from different answers. Where the rows
about indexes name columns of the table or none, each member is a column of the table unless a row
names none: its member has the empty name.
-/

namespace RecordSql

def Table.MembersDeclared (t : Table) : Prop :=
  ∀ g ∈ t.indexes ++ t.uniques, ∀ c ∈ g.members, c ∈ t.columnNames

theorem Group.forall_mem_collect_iff {gs : List Group} {p : String → Prop} :
    (∀ g ∈ collect gs, ∀ c ∈ g.members, p c) ↔ ∀ g ∈ gs, ∀ c ∈ g.members, p c := by
  simp only [collect, List.forall_mem_map, List.mem_eraseDups, List.mem_flatMap, List.mem_filter,
    decide_eq_true_eq, forall_exists_index, and_imp]
  constructor
  · intro h g hg c hc
    exact h g hg c g hg rfl hc
  · intro h _ _ c g hg _ hc
    exact h g hg c hc

theorem Table.membersDeclared_iff (t : Table) :
    t.MembersDeclared ↔ ∀ i ∈ t.groupIndexes, ∀ c ∈ i.columns, c ∈ t.columnNames := by
  simp [MembersDeclared, groupIndexes, Group.index, or_imp, forall_and]

theorem Table.membersDeclared_regroup_iff {is : List Index} (t : Table)
    (h : (is.map (·.name)).Nodup) :
    (t.regroup is).MembersDeclared ↔
      ∀ i ∈ is, ∀ c ∈ i.columns, c ∈ (t.regroup is).columnNames := by
  rw [MembersDeclared, indexes_regroup t h, uniques_regroup t h]
  simp only [List.forall_mem_append, List.forall_mem_map, List.mem_filter, Index.group, and_imp]
  constructor
  · rintro ⟨hi, hu⟩ i hm
    cases hiu : i.unique with
    | false => exact hi i hm (by simp [hiu])
    | true => exact hu i hm hiu
  · intro hm
    exact ⟨fun i hi _ => hm i hi, fun i hi _ => hm i hi⟩

theorem Table.foldl_addIndex_eq_regroup {t : Table} (hi : t.indexes = []) (hu : t.uniques = [])
    (is : List Index) : is.foldl addIndex t = t.regroup is := by
  obtain ⟨name, columns, indexes, uniques, key, engine, rows, count⟩ := t
  obtain rfl : indexes = [] := hi
  obtain rfl : uniques = [] := hu
  rfl

theorem Table.groups_foldl_push {cs : List Column} (hc : ∀ c ∈ cs, c.ungrouped = c) (t : Table) :
    (cs.foldl push t).indexes = t.indexes ∧ (cs.foldl push t).uniques = t.uniques := by
  induction cs generalizing t with
  | nil => exact ⟨rfl, rfl⟩
  | cons c cs ih =>
    obtain ⟨hc, hcs⟩ := List.forall_mem_cons.mp hc
    obtain ⟨hi, hu⟩ := ih hcs (t.push c)
    rw [List.foldl_cons, hi, hu, ← hc]
    exact ⟨rfl, rfl⟩

namespace Catalog

/-- Rows about indexes name columns that other rows are about, or no column. -/
def RefersTo (indexes columns : List Row) : Prop :=
  ∀ r ∈ indexes, r.get 2 = .null ∨ ∃ c ∈ columns, (c.get 0).written? = (r.get 2).written?

/-- A row about an index names no column, although the index is read. -/
def NamesNone (r : Row) : Prop :=
  indexName? r ≠ none ∧ r.get 2 = .null

variable {r : Row} {rows : List Row} {c : Column} {singles is : List Index} {l : Link}
  {database name : String}

theorem Gathers.forall_columns_iff (h : Gathers singles is) {p : String → Prop} :
    (∀ i ∈ is, ∀ c ∈ i.columns, p c) ↔ ∀ i ∈ singles, ∀ c ∈ i.columns, p c := by
  have hg : ∀ js : List Index, (∀ i ∈ js, ∀ c ∈ i.columns, p c) ↔
      ∀ g ∈ js.map Index.group, ∀ c ∈ g.members, p c := fun js => by simp [Index.group]
  rw [hg, hg, h.groups_eq, Group.forall_mem_collect_iff]

theorem map_name_decoded (h : ∀ r ∈ rows, ∃ c, readColumn r = .ok c) :
    (decoded rows).map (·.name) = rows.map fun r => bareName (cell r 0) := by
  induction rows with
  | nil => rfl
  | cons r rows ih =>
    obtain ⟨⟨c, hc⟩, hr⟩ := List.forall_mem_cons.mp h
    have hd : decoded (r :: rows) = c :: decoded rows :=
      List.filterMap_cons_some (by rw [hc]; rfl)
    rw [hd, List.map_cons, List.map_cons, ih hr, name_of_readColumn hc]

theorem columnNames_tableFrom (r : Row) (name : String) (columns indexes : List Item) :
    (tableFrom r name columns indexes).columnNames = (decoded (rowsOf columns)).map (·.name) := by
  rw [← columns_tableFrom r name columns indexes, List.map_map]
  rfl

theorem forall_single?_iff {table : String} {p : String → Prop} :
    (∀ i ∈ rows.filterMap (single? table), ∀ c ∈ i.columns, p c) ↔
      ∀ r ∈ rows, indexName? r ≠ none → p (bareName (cell r 2)) := by
  simp only [List.mem_filterMap, forall_exists_index, and_imp]
  constructor
  · intro h r hr hn
    obtain ⟨name, hn⟩ := Option.ne_none_iff_exists'.mp hn
    exact h _ r hr (by rw [single?, hn]; rfl) _ (List.mem_singleton_self _)
  · intro h i r hr hi c hc
    obtain ⟨name, hn, rfl⟩ := name_single? hi
    obtain rfl := List.mem_singleton.mp hc
    exact h r hr (by simp [hn])

theorem membersDeclared_tableFrom_iff (r : Row) (name : String) (columns indexes : List Item) :
    (tableFrom r name columns indexes).MembersDeclared ↔
      ∀ i ∈ rowsOf indexes, indexName? i ≠ none →
        bareName (cell i 2) ∈ (decoded (rowsOf columns)).map (·.name) := by
  obtain ⟨hi, hu⟩ := Table.groups_foldl_push
    (fun c (hc : c ∈ decoded (rowsOf columns)) => ungrouped_of_mem_decoded hc) (declared r name)
  have hr := Table.foldl_addIndex_eq_regroup hi hu (readIndexes name (rowsOf indexes))
  rw [← tableFrom] at hr
  rw [hr, Table.membersDeclared_regroup_iff _ (distinct_readIndexes _ _).1, ← hr,
    columnNames_tableFrom, (gathers_readIndexes _ _).forall_columns_iff, forall_single?_iff]

theorem eq_tablesFrom_of_read {ts : List Table} (h : (read database l).1 = .ok ts) :
    Readable l.server.answers ∧
      ts = tablesFrom (rowsOf (l.server.answers.headD [])) l.server.answers.tail := by
  cases hq : l.server.dialect.flavor.catalogQueries? with
  | none =>
    obtain ⟨f, journal, hr⟩ := run_tables_of_none hq database
    rw [read, hr] at h
    cases h
  | some q =>
    by_cases ha : Readable l.server.answers
    · exact ⟨ha, Except.ok.inj (h.symm.trans (read_of_readable hq database ha).1)⟩
    · obtain ⟨f, i, hr, -⟩ := read_of_not_readable hq database ha
      cases h.symm.trans hr

theorem exists_tableFrom_of_read {ts : List Table} (h : (read database l).1 = .ok ts) {k : Nat}
    {t : Table} (ht : ts[k]? = some t) :
    (∀ r ∈ rowsOf (l.server.answers.getD (2 * k + 1) []), ∃ c, readColumn r = .ok c) ∧
      ∃ r name, t = tableFrom r name (l.server.answers.getD (2 * k + 1) [])
        (l.server.answers.getD (2 * k + 2) []) := by
  obtain ⟨ha, rfl⟩ := eq_tablesFrom_of_read h
  rw [tablesFrom, List.getElem?_mapIdx] at ht
  obtain ⟨p, hp, rfl⟩ := Option.map_eq_some_iff.mp ht
  obtain ⟨hk, -⟩ := List.getElem?_eq_some_iff.mp hp
  rw [Exchange.getD_tail, Exchange.getD_tail]
  exact ⟨ha.decoded k hk, p.1, p.2, rfl⟩

end Catalog

/-- Where the rows about the indexes of a table name its columns or none, the members of its groups,
and so the columns of the statements that create its indexes, are columns of the table exactly if no
row names none or the table has a column with the empty name. -/
theorem members_declared_iff {l : Link} {database : String} {ts : List Table}
    (h : (Catalog.read database l).1 = .ok ts) {k : Nat} {t : Table} (ht : ts[k]? = some t)
    (hr : Catalog.RefersTo (Catalog.rowsOf (l.server.answers.getD (2 * k + 2) []))
      (Catalog.rowsOf (l.server.answers.getD (2 * k + 1) []))) :
    (t.MembersDeclared ↔ ∀ r ∈ Catalog.rowsOf (l.server.answers.getD (2 * k + 2) []),
      Catalog.NamesNone r → "" ∈ t.columnNames) ∧
    ∀ (s : Statement) (f : Flavor) (ifMissing : Bool), s.table = some t → ∃ is : List Index,
      s.createTableSql f ifMissing =
          .ok (f.appendCreateTable "" t ifMissing ⟨s.storeEngine, s.charset⟩ ::
            is.map fun i => f.appendCreateIndex "" t.name i.name i.columns i.unique) ∧
        (t.MembersDeclared ↔ ∀ i ∈ is, ∀ c ∈ i.columns, c ∈ t.columnNames) := by
  refine ⟨?_, fun s f ifMissing hs =>
    ⟨_, Statement.createTableSql_eq hs f ifMissing, t.membersDeclared_iff⟩⟩
  obtain ⟨hd, r, name, rfl⟩ := Catalog.exists_tableFrom_of_read h ht
  rw [Catalog.membersDeclared_tableFrom_iff, Catalog.columnNames_tableFrom,
    Catalog.map_name_decoded hd]
  -- a row that names no column stands for the empty name
  constructor
  · rintro hm i hi ⟨hn, hnull⟩
    have he := hm i hi hn
    rwa [Catalog.cell, hnull] at he
  · intro hm i hi hn
    rcases hr i hi with hnull | ⟨c, hc, he⟩
    · rw [Catalog.cell, hnull]
      exact hm i hi ⟨hn, hnull⟩
    · rw [Catalog.cell, ← he]
      exact List.mem_map.mpr ⟨c, hc, rfl⟩

def partServer (part : Value) : Server :=
  ⟨.mysql, [
    [.row ⟨["TABLE_NAME"], [.text "t"]⟩],
    [.row ⟨[], [.text "a", .text "NO", .null, .text "int", .text "MUL", .text ""]⟩,
      .row ⟨[], [.text "b", .text "NO", .null, .text "int", .text "", .text ""]⟩],
    [.row ⟨[], [.text "k", .int 1, .text "a"]⟩, .row ⟨[], [.text "k", .int 1, part]⟩]], []⟩

def partTable (group : Grouping) (members : List String) : Table :=
  { Table.empty "t" with
    columns := [
      { Column.ofType "a" .int with nullable := false, index := .named "k" },
      { Column.ofType "b" .int with nullable := false, index := group }]
    indexes := [⟨"k", members⟩] }

theorem members_declared_named :
    (Catalog.read "db" ⟨partServer (.text "b"), .empty false⟩).1 =
        .ok [partTable (.named "k") ["a", "b"]] ∧
      (partTable (.named "k") ["a", "b"]).MembersDeclared := by
  have hr : (Catalog.read "db" ⟨partServer (.text "b"), .empty false⟩).1 =
      .ok [partTable (.named "k") ["a", "b"]] := by decide +kernel
  have hc : Catalog.RefersTo
      (Catalog.rowsOf ((partServer (.text "b")).answers.getD 2 []))
      (Catalog.rowsOf ((partServer (.text "b")).answers.getD 1 [])) := by
    unfold Catalog.RefersTo
    decide +kernel
  refine ⟨hr, (members_declared_iff hr (k := 0) rfl hc).1.mpr ?_⟩
  unfold Catalog.NamesNone
  decide +kernel

theorem member_not_declared :
    (Catalog.read "db" ⟨partServer .null, .empty false⟩).1 = .ok [partTable .none ["a", ""]] ∧
      Catalog.RefersTo (Catalog.rowsOf ((partServer .null).answers.getD 2 []))
        (Catalog.rowsOf ((partServer .null).answers.getD 1 [])) ∧
      ¬ (partTable .none ["a", ""]).MembersDeclared ∧
      (Statement.ofTable (partTable .none ["a", ""])).createTableSql .mysql false =
        .ok ["CREATE TABLE `t` (\n`a` INT NOT NULL,\n`b` INT NOT NULL);",
          "CREATE INDEX `IDX_t_k` ON `t` (`a`, ``);"] := by
  refine ⟨by decide +kernel, ?_, ?_, by decide +kernel⟩
  · unfold Catalog.RefersTo
    decide +kernel
  · unfold Table.MembersDeclared
    decide +kernel

end RecordSql
