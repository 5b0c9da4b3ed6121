import RecordSql.Proofs.Database.Columns
import RecordSql.Proofs.Database.Indexes
import RecordSql.Proofs.Schema.History

/-! # Tables read back from the catalog

A database is read back with one call for its tables and two calls for each table that is named, the
first for its columns and the second for its indexes. The first answer with an error, with a column
that makes no sense or with a column twice ends the reading; otherwise there is a table for each name.
-/

namespace RecordSql

/-- The first name of a list that is among given names or in front in the list. -/
def repeated? (seen : List String) : List String → Option String
  | [] => none
  | name :: names => if name ∈ seen then some name else repeated? (seen ++ [name]) names

theorem repeated?_eq_none_iff {seen names : List String} (h : seen.Nodup) :
    repeated? seen names = none ↔ (seen ++ names).Nodup := by
  induction names generalizing seen with
  | nil => simp [repeated?, h]
  | cons name names ih =>
    rw [repeated?]
    by_cases hn : name ∈ seen
    · rw [if_pos hn]
      refine iff_of_false (by simp) fun hd => ?_
      exact List.disjoint_of_nodup_append hd hn List.mem_cons_self
    · have hd : (seen ++ [name]).Nodup := by simpa using h.concat hn
      rw [if_neg hn, ih hd, List.append_assoc, List.singleton_append]

theorem Table.addColumns_eq (t : Table) (cs : List Column) :
    t.addColumns cs = Failure.result
      ((repeated? t.columnNames (cs.map (·.name))).map (.of <| .duplicateColumn t.name ·))
      (cs.foldl push t) := by
  induction cs generalizing t with
  | nil => rfl
  | cons c cs ih =>
    rw [addColumns, List.map_cons, repeated?, List.foldl_cons]
    by_cases hn : c.name ∈ t.columnNames
    · rw [addColumn_eq_error_iff.mpr ⟨hn, rfl⟩, if_pos hn]
      rfl
    · rw [addColumn_eq_ok_iff.mpr ⟨hn, rfl⟩, if_neg hn]
      change (t.push c).addColumns cs = _
      rw [ih, columnNames_push]
      rfl

def Column.ungrouped (c : Column) : Column :=
  { c with index := .none, unique := .none }

theorem Column.ungrouped_regrouped (c : Column) (i : Index) :
    (c.regrouped i).ungrouped = c.ungrouped := by
  unfold regrouped
  split
  · cases i.unique <;> rfl
  · rfl

theorem Table.map_ungrouped_foldl_addIndex (is : List Index) (t : Table) :
    (is.foldl addIndex t).columns.map Column.ungrouped = t.columns.map Column.ungrouped := by
  induction is generalizing t with
  | nil => rfl
  | cons i is ih =>
    rw [List.foldl_cons, ih, columns_addIndex, List.map_map]
    exact List.map_congr_left fun c _ => c.ungrouped_regrouped i

theorem Table.name_foldl_addIndex (is : List Index) (t : Table) :
    (is.foldl addIndex t).name = t.name := by
  induction is generalizing t with
  | nil => rfl
  | cons i is ih =>
    rw [List.foldl_cons, ih, addIndex]
    split <;> rfl

namespace Catalog

def decoded (rows : List Row) : List Column :=
  rows.filterMap fun r => (readColumn r).toOption

def undecoded? (rows : List Row) : Option Failure :=
  rows.findSome? fun r => match readColumn r with
    | .ok _ => none
    | .error f => some f

variable {r : Row} {rows : List Row} {c : Column}

theorem undecoded?_eq_none_iff :
    undecoded? rows = none ↔ ∀ r ∈ rows, ∃ c, readColumn r = .ok c := by
  rw [undecoded?, List.findSome?_eq_none_iff]
  refine forall₂_congr fun r _ => ?_
  cases readColumn r <;> simp

theorem ungrouped_of_readColumn (h : readColumn r = .ok c) : c.ungrouped = c := by
  obtain ⟨token, t, d, -, -, hd, rfl⟩ := readColumn_eq_ok_iff.mp h
  obtain ⟨first, second, rfl⟩ := exists_of_reportedLengths hd
  rfl

theorem ungrouped_of_mem_decoded (h : c ∈ decoded rows) : c.ungrouped = c := by
  obtain ⟨r, -, hr⟩ := List.mem_filterMap.mp h
  cases hd : readColumn r with
  | error f =>
    rw [hd] at hr
    cases hr
  | ok d =>
    rw [hd] at hr
    cases hr
    exact ungrouped_of_readColumn hd

theorem map_ungrouped_decoded (rows : List Row) :
    (decoded rows).map Column.ungrouped = decoded rows :=
  (List.map_congr_left fun _ => ungrouped_of_mem_decoded).trans (List.map_id _)

theorem run_columnOf (r : Row) (j : Journal) :
    ∃ journal, journal.kept = j.kept ∧ (columnOf r).run.run j = (readColumn r, journal) := by
  rw [columnOf]
  cases readColumn r with
  | ok c => exact ⟨j, rfl, rfl⟩
  | error f =>
    dsimp only
    split
    · exact ⟨_, j.kept_note _ _, rfl⟩
    · exact ⟨j, rfl, rfl⟩

theorem run_columnsOf (rows : List Row) (j : Journal) :
    ∃ journal, journal.kept = j.kept ∧ (columnsOf rows).run.run j =
      (Failure.result (undecoded? rows) (decoded rows), journal) := by
  induction rows generalizing j with
  | nil => exact ⟨j, rfl, rfl⟩
  | cons r rows ih =>
    obtain ⟨journal, hk, hr⟩ := run_columnOf r j
    obtain ⟨journal', hk', hr'⟩ := ih journal
    rw [columnsOf, undecoded?, List.findSome?_cons, decoded]
    cases hc : readColumn r with
    | error f =>
      rw [hc] at hr
      exact ⟨journal, hk, Failure.run_bind_error hr _⟩
    | ok c =>
      rw [hc] at hr
      refine ⟨journal', hk'.trans hk, ?_⟩
      rw [Failure.run_bind hr, List.filterMap_cons_some (by rw [hc]; rfl)]
      change _ = (Failure.result (undecoded? rows) (c :: decoded rows), journal')
      cases hu : undecoded? rows with
      | some f =>
        rw [hu] at hr'
        exact Failure.run_bind_error hr' _
      | none =>
        rw [hu] at hr'
        exact Failure.run_bind hr' _

def rowsOf (items : List Item) : List Row :=
  items.filterMap Item.row?

def named (rows : List Row) : List (Row × String) :=
  rows.filterMap fun r => (r.get 0).written?.map (r, ·)

def columnsFailure? (table : String) (items : List Item) : Option Failure :=
  ((items.findSome? Item.error?).or (undecoded? (rowsOf items))).or
    ((repeated? [] ((decoded (rowsOf items)).map (·.name))).map
      (.of <| .duplicateColumn table ·))

def columnsExchange (q : CatalogQueries) (database table : String) : Exchange :=
  ⟨⟨q.columns, [.text database, .text table]⟩, columnsFailure? table⟩

def indexesExchange (q : CatalogQueries) (database table : String) : Exchange :=
  Call.exchange ⟨q.indexes, [.text database, .text table]⟩

def tableExchanges (q : CatalogQueries) (database table : String) : List Exchange :=
  [columnsExchange q database table, indexesExchange q database table]

/-- The exchanges that read a database back. -/
def plan (q : CatalogQueries) (database : String) (names : List String) : List Exchange :=
  Call.exchange ⟨q.tables, [.text database]⟩ :: names.flatMap (tableExchanges q database)

def declared (r : Row) (name : String) : Table :=
  { Table.empty name with
    storeEngine := (r.get 1).written?
    rowEstimate := (r.get 2).count?
    autoIncrement := (r.get 3).count? }

def tableFrom (r : Row) (name : String) (columns indexes : List Item) : Table :=
  (readIndexes name (rowsOf indexes)).foldl Table.addIndex
    ((decoded (rowsOf columns)).foldl Table.push (declared r name))

variable {l : Link} {q : CatalogQueries} {database name : String}

theorem conducts_queries {α : Type} {next : CatalogQueries → Link.Act α} {xs : List Exchange}
    {a : α} (hq : l.server.dialect.flavor.catalogQueries? = some q)
    (h : l.Conducts (next q) xs a) : l.Conducts (queries >>= next) xs a := by
  obtain ⟨journal, hk, hr⟩ := h
  exact ⟨journal, hk, (Failure.run_bind (run_queries hq) next).trans hr⟩

theorem conducts_columns (hq : l.server.dialect.flavor.catalogQueries? = some q)
    (database name : String) :
    l.Conducts (columns database name)
      [⟨⟨q.columns, [.text database, .text name]⟩, fun items =>
        (items.findSome? Item.error?).or (undecoded? (rowsOf items))⟩]
      (decoded (rowsOf (l.server.answers.headD []))) := by
  refine conducts_queries hq ((l.conducts_fetch _).checked (fun m => ?_) rfl rfl)
  obtain ⟨journal, hk, hr⟩ :=
    run_columnsOf (rowsOf (l.server.answers.headD [])) m.journal
  exact ⟨journal, hk, Link.run_withJournal hr⟩

theorem conducts_addColumns (hq : l.server.dialect.flavor.catalogQueries? = some q)
    (database : String) {t : Table} (ht : t.columns = []) :
    l.Conducts (do t.addColumns (← columns database t.name))
      [columnsExchange q database t.name]
      ((decoded (rowsOf (l.server.answers.headD []))).foldl Table.push t) := by
  have hn : t.columnNames = [] := by rw [Table.columnNames, ht, List.map_nil]
  refine (conducts_columns hq database t.name).checked (fun m => ⟨m.journal, rfl, ?_⟩) rfl rfl
  rw [Table.addColumns_eq, hn]
  rfl

theorem conducts_indexes (hq : l.server.dialect.flavor.catalogQueries? = some q)
    (database name : String) :
    l.Conducts (indexes database name) [indexesExchange q database name]
      (readIndexes name (rowsOf (l.server.answers.headD []))) := by
  refine conducts_queries hq ((l.conducts_fetch _).checked (o := none)
    (fun m => ⟨m.journal, rfl, rfl⟩) rfl ?_)
  exact Option.or_none.symm

theorem conducts_tableOf (hq : l.server.dialect.flavor.catalogQueries? = some q)
    {r : Row} (hr : (r.get 0).written? = some name) :
    l.Conducts (tableOf database r) (tableExchanges q database name)
      (some (tableFrom r name (l.server.answers.headD []) (l.server.answers.tail.headD []))) := by
  have ht : tableOf database r =
      (do (declared r name).addColumns (← columns database name) : Link.Act Table) >>= fun t => do
        let t := (← indexes database name).foldl Table.addIndex t
        Link.note .trace ("Read table `" ++ t.name ++ "` with " ++ Nat.repr t.columns.length ++
          " columns from the catalog")
        return some t := by
    rw [tableOf, hr, bind_assoc]
    rfl
  rw [ht, tableExchanges, ← List.singleton_append]
  refine (conducts_addColumns hq database (t := declared r name) rfl).bind
    fun _ journal _ => ?_
  rw [Link.after_singleton]
  refine (conducts_indexes (l := ⟨⟨l.server.dialect, l.server.answers.tail, _⟩, journal⟩) hq
    database name).checked (o := none)
    (fun m => ⟨_, m.journal.kept_note _ _, rfl⟩) rfl ?_
  rw [Option.or_none]

theorem named_cons_of_none {r : Row} (h : (r.get 0).written? = none) (rows : List Row) :
    named (r :: rows) = named rows :=
  List.filterMap_cons_none (by rw [h]; rfl)

theorem named_cons_of_some {r : Row} (h : (r.get 0).written? = some name) (rows : List Row) :
    named (r :: rows) = (r, name) :: named rows :=
  List.filterMap_cons_some (by rw [h]; rfl)

def tablesFrom (rows : List Row) (answers : List (List Item)) : List Table :=
  (named rows).mapIdx fun k p =>
    tableFrom p.1 p.2 (answers.getD (2 * k) []) (answers.getD (2 * k + 1) [])

theorem tablesFrom_cons {r : Row} (h : (r.get 0).written? = some name) (rows : List Row)
    (answers : List (List Item)) :
    tablesFrom (r :: rows) answers =
      tableFrom r name (answers.headD []) (answers.tail.headD []) ::
        tablesFrom rows (answers.drop 2) := by
  have hd : ∀ i, (answers.drop 2).getD i [] = answers.getD (i + 2) [] := fun i => by
    rw [List.getD_eq_getElem?_getD, List.getElem?_drop, Nat.add_comm, List.getD_eq_getElem?_getD]
  rw [tablesFrom, named_cons_of_some h, List.mapIdx_cons, List.headD_eq_getD, List.headD_eq_getD,
    Exchange.getD_tail]
  refine congrArg _ (List.ext_getElem? fun k => ?_)
  rw [tablesFrom, List.getElem?_mapIdx, List.getElem?_mapIdx]
  simp only [hd, Nat.mul_add, Nat.add_right_comm]

theorem conducts_tablesOf (hq : l.server.dialect.flavor.catalogQueries? = some q)
    (database : String) (rows : List Row) :
    l.Conducts (tablesOf database rows)
      ((named rows).flatMap fun p => tableExchanges q database p.2)
      (tablesFrom rows l.server.answers) := by
  induction rows generalizing l with
  | nil => exact .pure l []
  | cons r rows ih =>
    rw [tablesOf]
    cases hr : (r.get 0).written? with
    | none =>
      rw [tablesFrom, named_cons_of_none hr, tableOf, hr]
      exact (ih hq).bind_pure _
    | some name =>
      rw [named_cons_of_some hr, List.flatMap_cons, tablesFrom_cons hr]
      refine (conducts_tableOf hq hr).bind fun he journal _ => ?_
      -- the rows behind read the answers that this table leaves
      have ht := ih (l := l.after (tableExchanges q database name) journal) hq
      rw [Link.answers_after he] at ht
      exact ht.bind_pure _

def listed (answers : List (List Item)) : List (Row × String) :=
  named (rowsOf (answers.headD []))

def planOf (q : CatalogQueries) (database : String) (answers : List (List Item)) :
    List Exchange :=
  plan q database ((listed answers).map (·.2))

theorem conducts_tables (hq : l.server.dialect.flavor.catalogQueries? = some q)
    (database : String) :
    l.Conducts (tables database) (planOf q database l.server.answers)
      (tablesFrom (rowsOf (l.server.answers.headD [])) l.server.answers.tail) := by
  refine conducts_queries hq ?_
  rw [planOf, plan, List.flatMap_map]
  refine (l.conducts_fetch ⟨q.tables, [.text database]⟩).bind fun he journal _ => ?_
  have ht := conducts_tablesOf
    (l := l.after [Call.exchange ⟨q.tables, [.text database]⟩] journal) hq database
    (rowsOf (l.server.answers.headD []))
  rw [Link.answers_after he, List.length_singleton, List.drop_one] at ht
  exact ht

/-! ## When a database is read back -/

/-- Answers can be read if none of them has an error, each row of columns makes sense and no table
has a column twice. -/
structure Readable (answers : List (List Item)) : Prop where
  errors : ∀ i ≤ 2 * (listed answers).length, ∀ f, Item.error f ∉ answers.getD i []
  decoded : ∀ k < (listed answers).length, ∀ r ∈ rowsOf (answers.getD (2 * k + 1) []),
    ∃ c, readColumn r = .ok c
  distinct : ∀ k < (listed answers).length,
    ((Catalog.decoded (rowsOf (answers.getD (2 * k + 1) []))).map (·.name)).Nodup

theorem columnsFailure?_eq_none_iff {table : String} {items : List Item} :
    columnsFailure? table items = none ↔ (∀ f, Item.error f ∉ items) ∧
      (∀ r ∈ rowsOf items, ∃ c, readColumn r = .ok c) ∧
        ((decoded (rowsOf items)).map (·.name)).Nodup := by
  rw [columnsFailure?, Option.or_eq_none_iff, Option.or_eq_none_iff, Option.map_eq_none_iff,
    repeated?_eq_none_iff List.nodup_nil, Item.findSome?_error?_eq_none_iff,
    undecoded?_eq_none_iff, List.nil_append, and_assoc]

theorem getElem?_flatMap_tableExchanges (q : CatalogQueries) (database : String)
    (names : List String) (k : Nat) :
    (names.flatMap (tableExchanges q database))[2 * k]? =
        names[k]?.map (columnsExchange q database) ∧
      (names.flatMap (tableExchanges q database))[2 * k + 1]? =
        names[k]?.map (indexesExchange q database) := by
  induction names generalizing k with
  | nil => simp
  | cons name names ih =>
    cases k with
    | zero => exact ⟨rfl, rfl⟩
    | succ k => exact ih k

theorem forall_plan_iff {names : List String} {p : Nat → Exchange → Prop} :
    (∀ i x, (plan q database names)[i]? = some x → p i x) ↔
      p 0 (Call.exchange ⟨q.tables, [.text database]⟩) ∧ ∀ k name, names[k]? = some name →
        p (2 * k + 1) (columnsExchange q database name) ∧
          p (2 * k + 2) (indexesExchange q database name) := by
  have ht := getElem?_flatMap_tableExchanges q database names
  rw [plan]
  constructor
  · intro h
    refine ⟨h 0 _ rfl, fun k name hn => ⟨h _ _ ?_, h _ _ ?_⟩⟩
    · rw [List.getElem?_cons_succ, (ht k).1, hn, Option.map_some]
    · rw [List.getElem?_cons_succ, (ht k).2, hn, Option.map_some]
  · rintro ⟨h0, h⟩ i x hx
    cases i with
    | zero =>
      obtain rfl := Option.some.inj hx
      exact h0
    | succ i =>
      rw [List.getElem?_cons_succ] at hx
      -- the exchanges behind the first are about the columns and the indexes of a table each
      obtain ⟨k, rfl | rfl⟩ : ∃ k, i = 2 * k ∨ i = 2 * k + 1 := ⟨i / 2, by omega⟩
      · rw [(ht k).1] at hx
        obtain ⟨name, hn, rfl⟩ := Option.map_eq_some_iff.mp hx
        exact (h k name hn).1
      · rw [(ht k).2] at hx
        obtain ⟨name, hn, rfl⟩ := Option.map_eq_some_iff.mp hx
        exact (h k name hn).2

theorem ending?_planOf_eq_none_iff (q : CatalogQueries) (database : String)
    (answers : List (List Item)) :
    Exchange.ending? (planOf q database answers) answers = none ↔
      Readable answers := by
  have hn : ∀ k, k < (listed answers).length ↔
      ∃ name, ((listed answers).map (·.2))[k]? = some name := fun k => by
    rw [← Option.isSome_iff_exists, isSome_getElem?, List.length_map]
  rw [Exchange.ending?_eq_none_iff, planOf, forall_plan_iff]
  simp only [columnsExchange, indexesExchange, columnsFailure?_eq_none_iff, Call.failure?_exchange,
    Item.findSome?_error?_eq_none_iff]
  constructor
  · rintro ⟨h0, h⟩
    have hc := fun k (hk : k < (listed answers).length) => ((hn k).mp hk).elim (h k)
    refine ⟨fun i hi => ?_, fun k hk => (hc k hk).1.2.1, fun k hk => (hc k hk).1.2.2⟩
    obtain rfl | ⟨k, rfl | rfl⟩ : i = 0 ∨ ∃ k, i = 2 * k + 1 ∨ i = 2 * k + 2 :=
      i.eq_zero_or_pos.imp_right fun hi => ⟨(i - 1) / 2, by omega⟩
    · exact h0
    · exact (hc k (by omega)).1.1
    · exact (hc k (by omega)).2
  · intro h
    refine ⟨h.errors 0 (Nat.zero_le _), fun k name hk => ?_⟩
    have hk := (hn k).mpr ⟨name, hk⟩
    exact ⟨⟨h.errors _ (by omega), h.decoded k hk, h.distinct k hk⟩, h.errors _ (by omega)⟩

def read (database : String) (l : Link) : Except Failure (List Table) × Link :=
  (tables database).run.run l

/-- A database is read back completely or not at all. The calls are those of the plan up to the first
one whose answer gives rise to a failure; without a failure there is a table for each name, with the
columns of its rows. -/
structure Traced (q : CatalogQueries) (database : String) (l : Link) : Prop where
  sent : ∃ calls, calls <+: (planOf q database l.server.answers).map (·.call) ∧
    (read database l).2.server.calls = l.server.calls ++ calls
  succeeds_iff : (∃ ts, (read database l).1 = .ok ts) ↔ Readable l.server.answers
  succeeded : ∀ ts, (read database l).1 = .ok ts →
    (read database l).2.server.calls =
        l.server.calls ++ (planOf q database l.server.answers).map (·.call) ∧
      ts.map (·.name) = (listed l.server.answers).map (·.2) ∧
        ∀ k t, ts[k]? = some t → t.columns.map Column.ungrouped =
          decoded (rowsOf (l.server.answers.getD (2 * k + 1) []))
  failed : ∀ f, (read database l).1 = .error f →
    ∃ i, Exchange.EndsAt (planOf q database l.server.answers) l.server.answers i f ∧
      (read database l).2.server.calls =
        l.server.calls ++ ((planOf q database l.server.answers).map (·.call)).take (i + 1)

theorem name_tableFrom (r : Row) (name : String) (columns indexes : List Item) :
    (tableFrom r name columns indexes).name = name := by
  rw [tableFrom, Table.name_foldl_addIndex, Table.name_foldl_push]
  rfl

theorem columns_tableFrom (r : Row) (name : String) (columns indexes : List Item) :
    (tableFrom r name columns indexes).columns.map Column.ungrouped =
      decoded (rowsOf columns) := by
  rw [tableFrom, Table.map_ungrouped_foldl_addIndex, Table.columns_foldl_push, List.map_append,
    map_ungrouped_decoded]
  rfl

theorem map_name_tablesFrom (rows : List Row) (answers : List (List Item)) :
    (tablesFrom rows answers).map (·.name) = (named rows).map (·.2) := by
  refine List.ext_getElem? fun k => ?_
  rw [tablesFrom, List.getElem?_map, List.getElem?_mapIdx, List.getElem?_map, Option.map_map]
  exact congrArg (Option.map · _) (funext fun p => name_tableFrom ..)

theorem run_tables_of_none (hq : l.server.dialect.flavor.catalogQueries? = none)
    (database : String) :
    ∃ f journal, (tables database).run.run l = (.error f, ⟨l.server, journal⟩) := by
  obtain ⟨journal, hr⟩ := run_queries_of_none hq
  exact ⟨_, journal, Failure.run_bind_error hr _⟩

theorem read_of_readable (hq : l.server.dialect.flavor.catalogQueries? = some q)
    (database : String) (h : Readable l.server.answers) :
    (read database l).1 =
        .ok (tablesFrom (rowsOf (l.server.answers.headD [])) l.server.answers.tail) ∧
      (read database l).2.server.calls =
        l.server.calls ++ (planOf q database l.server.answers).map (·.call) := by
  obtain ⟨journal, -, hr⟩ := conducts_tables hq database
  have he := (ending?_planOf_eq_none_iff q database l.server.answers).mpr h
  rw [read, hr, he, ← Exchange.sent_eq_map he]
  exact ⟨rfl, rfl⟩

theorem read_of_not_readable (hq : l.server.dialect.flavor.catalogQueries? = some q)
    (database : String) (h : ¬ Readable l.server.answers) :
    ∃ f i, (read database l).1 = .error f ∧
      Exchange.EndsAt (planOf q database l.server.answers) l.server.answers i f ∧
        (read database l).2.server.calls =
          l.server.calls ++ ((planOf q database l.server.answers).map (·.call)).take (i + 1) := by
  obtain ⟨journal, -, hr⟩ := conducts_tables hq database
  rw [← ending?_planOf_eq_none_iff q database] at h
  obtain ⟨f, he⟩ := Option.ne_none_iff_exists'.mp h
  obtain ⟨i, hf, hs⟩ := Exchange.exists_endsAt he
  refine ⟨f, i, ?_, hf, ?_⟩
  · rw [read, hr, he]
    rfl
  · rw [read, hr, ← hs]
    rfl

theorem traced (hq : l.server.dialect.flavor.catalogQueries? = some q) (database : String) :
    Traced q database l := by
  by_cases h : Readable l.server.answers
  · obtain ⟨hr, hc⟩ := read_of_readable hq database h
    refine ⟨⟨_, List.prefix_rfl, hc⟩, iff_of_true ⟨_, hr⟩ h, fun ts ht => ?_, fun f hf => ?_⟩
    · obtain rfl := Except.ok.inj (hr.symm.trans ht)
      refine ⟨hc, map_name_tablesFrom .., fun k t hk => ?_⟩
      rw [tablesFrom, List.getElem?_mapIdx] at hk
      obtain ⟨p, -, rfl⟩ := Option.map_eq_some_iff.mp hk
      rw [columns_tableFrom, Exchange.getD_tail]
    · cases hr.symm.trans hf
  · obtain ⟨f, i, hr, hf, hc⟩ := read_of_not_readable hq database h
    have hn : ∀ ts, (read database l).1 ≠ .ok ts := fun ts ht => by
      cases hr.symm.trans ht
    refine ⟨⟨_, List.take_prefix _ _, hc⟩, iff_of_false (fun ⟨ts, ht⟩ => hn ts ht) h,
      fun ts ht => absurd ht (hn ts), fun g hg => ?_⟩
    obtain rfl : f = g := Except.error.inj (hr.symm.trans hg)
    exact ⟨i, hf, hc⟩

/-- Reading a database back is refused without a call where the dialect has no queries for it. -/
theorem tables_traced (database : String) (l : Link) :
    match l.server.dialect.flavor.catalogQueries? with
    | none => (∃ f, (read database l).1 = .error f) ∧
        (read database l).2.server.calls = l.server.calls
    | some q => Traced q database l := by
  cases hq : l.server.dialect.flavor.catalogQueries? with
  | none =>
    obtain ⟨f, journal, hr⟩ := run_tables_of_none hq database
    rw [read, hr]
    exact ⟨⟨f, rfl⟩, rfl⟩
  | some q => exact traced hq database

end Catalog

end RecordSql
