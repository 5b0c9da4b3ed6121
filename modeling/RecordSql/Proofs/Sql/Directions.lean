import RecordSql.Proofs.Schema.History
import RecordSql.Proofs.Sql.Binding
import RecordSql.Proofs.Sql.Page
import RecordSql.Proofs.Sql.Serials
import RecordSql.Proofs.Text.Blank

/-! # Directions of columns

Changes of rows write no column that is only read. A select names the columns that are read, or asks
for all columns where there are none; it takes the names over as they are, so that a name can stand
for other columns than its own.
-/

namespace RecordSql

/-! ## Changes of rows -/

namespace Table

variable {t : Table} {name : String} {as : List Addition} {c : Column}

theorem HasHistory.not_mem_names (h : t.HasHistory name as) (hc : c ∈ t.columns)
    (hd : c.direction = .readOnly) (p : Column → Bool) :
    c.name ∉ (t.writable.filter p).map (·.name) := by
  intro hm
  obtain ⟨d, hw, hn⟩ := List.mem_map.mp hm
  have hw := List.mem_filter.mp (List.mem_filter.mp hw).1
  have hcd : some d = some c := by
    rw [← h.column?_eq d hw.1, hn, h.column?_eq c hc]
  cases hcd
  have hr : c.direction.writes = false := by
    rw [hd]
    rfl
  exact Bool.false_ne_true (hr.symm.trans hw.2)

end Table

namespace Statement

variable {f : Flavor} {s : Statement} {t : Table} {values : List Value} {call : Call}

theorem tokens_insertSql (hs : s.table = some t) (h : s.insertSql f values = .ok call) :
    ∃ markers, f.tokens call.sql = Token.insert s.tableName
      ((t.writable.filter fun c => !c.autoIncrement).map (·.name)) markers := by
  obtain ⟨columns, hc, -, rfl⟩ := insertSql_eq_ok_iff.mp h
  rw [insertColumns_eq hs] at hc
  cases hc
  exact ⟨_, f.tokens_appendInsert ..⟩

theorem tokens_updateSql (hs : s.table = some t) (h : s.updateSql f values = .ok call) :
    ∃ markers, f.tokens call.sql = Token.update s.tableName
        (((t.writable.filter fun c => !c.autoIncrement && !c.primaryKey).map (·.name)).zip
          markers) ++ f.tokens (Flavor.conditionText s.condition) := by
  obtain ⟨columns, hc, -, hu⟩ := updateSql_eq_ok_iff.mp h
  rw [updateColumns_eq hs] at hc
  cases hc
  cases hf : f.placeholder.isNumbered with
  | false =>
    rw [if_neg (by simp [hf])] at hu
    rw [← hu]
    exact ⟨_, f.tokens_appendUpdate ..⟩
  | true =>
    rw [if_pos hf] at hu
    rw [← hu]
    exact ⟨_, f.tokens_appendUpdate ..⟩

end Statement

/-! ## Select lists -/

def selectItems (list : String) : List String :=
  (list.toList.splitOn ',').map fun item => Text.trim (String.ofList item)

/-- An item of a select list on a table takes in a column, by its name or with all columns. -/
def Column.TakenBy (c : Column) (table item : String) : Prop :=
  item ∈ ["*", table ++ ".*", c.name, table ++ "." ++ c.name]

instance (c : Column) (table item : String) : Decidable (c.TakenBy table item) :=
  inferInstanceAs (Decidable (item ∈ _))

def Column.SelectedBy (c : Column) (table list : String) : Prop :=
  ∃ item ∈ selectItems list, c.TakenBy table item

instance (c : Column) (table list : String) : Decidable (c.SelectedBy table list) :=
  inferInstanceAs (Decidable (∃ item ∈ _, _))

theorem selectItems_append (list next : String) :
    selectItems (list ++ ", " ++ next) = selectItems list ++ selectItems next := by
  have hl : (list ++ ", " ++ next).toList = list.toList ++ ',' :: ' ' :: next.toList := by
    simp
  have hc : ((fun c => c == ',') ' ') = false := by decide
  rw [selectItems, hl, List.splitOn_eq_splitOnP, List.splitOnP_append_cons _ _ (by decide),
    List.map_append, List.splitOnP_cons_eq_if_modifyHead, if_neg (by simp [hc]), selectItems,
    selectItems, List.splitOn_eq_splitOnP, List.splitOn_eq_splitOnP]
  congr 1
  cases next.toList.splitOnP (· == ',') with
  | nil => rfl
  | cons item items =>
    rw [List.modifyHead_cons, List.map_cons, List.map_cons, Text.trim_cons (by decide)]

theorem selectItems_intercalate {names : List String} (h : names ≠ []) :
    selectItems (", ".intercalate names) = names.flatMap selectItems := by
  induction names with
  | nil => exact absurd rfl h
  | cons name names ih =>
    cases names with
    | nil => simp
    | cons next names =>
      rw [String.intercalate_cons_cons, selectItems_append, ih (List.cons_ne_nil next names)]
      rfl

namespace Column

variable {c : Column} {table : String}

theorem selectedBy_star : c.SelectedBy table "*" :=
  ⟨"*", by decide +kernel, List.mem_cons_self⟩

theorem selectedBy_intercalate_iff {cs : List Column} (h : cs ≠ []) :
    c.SelectedBy table (", ".intercalate (cs.map (·.name))) ↔
      ∃ d ∈ cs, c.SelectedBy table d.name := by
  have hn : cs.map (·.name) ≠ [] := by simpa using h
  rw [SelectedBy, selectItems_intercalate hn]
  simp only [List.mem_flatMap, List.mem_map, SelectedBy]
  constructor
  · rintro ⟨item, ⟨-, ⟨d, hd, rfl⟩, hi⟩, ht⟩
    exact ⟨d, hd, item, hi, ht⟩
  · rintro ⟨d, hd, item, hi, ht⟩
    exact ⟨item, ⟨d.name, ⟨d, hd, rfl⟩, hi⟩, ht⟩

end Column

namespace Statement

variable {f : Flavor} {s : Statement} {t : Table} {sql : String} {c : Column}

/-- A select starts with its list of columns, and an inner select that numbers the rows has a list
of its own. -/
inductive Lists (f : Flavor) (s : Statement) : String → Prop
  | plain (rest : String) :
      Lists f s ("SELECT " ++ s.columnList ++ " FROM " ++ s.tableName ++ rest)
  | top (n : Nat) (rest : String) :
      Lists f s ("SELECT " ++ ("TOP " ++ Nat.repr n ++ " ") ++ s.columnList ++ " FROM " ++
        s.tableName ++ rest)
  | numbered (order rest : String) (h : Flavor.numberingOrder s = .ok order) :
      Lists f s ("select " ++ s.columnList ++ " from (select ROW_NUMBER() OVER(order by " ++
        order ++ " )as " ++ f.rowNumberAlias ++ "," ++ s.numberedList ++ " from " ++
        s.tableName ++ rest)

theorem Lists.append (h : s.Lists f sql) (more : String) : s.Lists f (sql ++ more) := by
  cases h with
  | plain rest =>
    rw [String.append_assoc]
    exact .plain _
  | top n rest =>
    rw [String.append_assoc]
    exact .top n _
  | numbered order rest ho =>
    rw [String.append_assoc]
    exact .numbered order _ ho

theorem lists_appendPlainSelect (f : Flavor) (s : Statement) (top : Option Nat) :
    s.Lists f (Flavor.appendPlainSelect "" s top) := by
  simp only [Flavor.appendPlainSelect, Flavor.appendSelectEnd_eq]
  refine Lists.append ?_ _
  cases top with
  | none => simpa using Lists.plain (f := f) (s := s) ""
  | some n => simpa using Lists.top (f := f) (s := s) n ""

theorem lists_appendLimit {out : String} (h : s.Lists f out) (limit : Nat)
    (offset : Option Nat) : s.Lists f (f.appendLimit out limit offset) := by
  cases offset with
  | none => exact (h.append _).append _
  | some offset => cases f <;> exact (((h.append _).append _).append _).append _

theorem selectSql_cases (h : s.selectSql f = .ok sql) :
    (∃ top, sql = Flavor.appendPlainSelect "" s top) ∨
      (∃ limit offset, sql = f.appendLimit (Flavor.appendPlainSelect "" s none) limit offset) ∨
        ∃ limit offset order, Flavor.numberingOrder s = .ok order ∧
          sql = f.numberedSelect s limit offset order := by
  by_cases ht : s.tableName = ""
  · rw [selectSql_of_unnamed ht] at h
    cases h
  cases hl : s.limit with
  | none =>
    rw [selectSql_of_limit_eq_none ht hl] at h
    split at h
    · cases h
    · cases h
      exact .inl ⟨none, rfl⟩
  | some limit =>
    rw [selectSql_of_limit_eq_some ht hl] at h
    split at h
    · cases h
      exact .inr (.inl ⟨limit, _, rfl⟩)
    · cases h
      exact .inl ⟨some limit, rfl⟩
    · obtain ⟨order, ho, rfl⟩ := Flavor.written_writeNumberedSelect_eq_ok h
      exact .inr (.inr ⟨limit, _, order, ho, rfl⟩)

theorem lists_selectSql (h : s.selectSql f = .ok sql) : s.Lists f sql := by
  rcases selectSql_cases h with ⟨top, rfl⟩ | ⟨limit, offset, rfl⟩ | ⟨limit, offset, order, ho, rfl⟩
  · exact lists_appendPlainSelect f s top
  · exact lists_appendLimit (lists_appendPlainSelect f s none) limit offset
  · exact .numbered order _ ho

/-- No select list of a statement selects a column of the table that is only written. -/
def HidesWriteOnly (s : Statement) (t : Table) : Prop :=
  ∀ c ∈ t.columns, c.direction = .writeOnly →
    ¬ c.SelectedBy s.tableName s.columnList ∧ ¬ c.SelectedBy s.tableName s.numberedList

theorem selectedBy_columnList_iff (hs : s.table = some t) (hc : s.columns = []) :
    c.SelectedBy s.tableName s.columnList ↔
      t.readable = [] ∨ ∃ d ∈ t.readable, c.SelectedBy s.tableName d.name := by
  have hl : s.columnList = if t.readable = [] then "*" else
      ", ".intercalate (t.readable.map (·.name)) := by
    rw [columnList, hc, hs]
    simp
  by_cases hr : t.readable = []
  · rw [hl, if_pos hr]
    exact iff_of_true Column.selectedBy_star (.inl hr)
  · rw [hl, if_neg hr, Column.selectedBy_intercalate_iff hr, or_iff_right hr]

theorem not_selectedBy_numberedList (h : ¬ c.SelectedBy s.tableName s.columnList) :
    ¬ c.SelectedBy s.tableName s.numberedList := by
  by_cases hl : s.columnList = "*"
  · rw [hl] at h
    exact absurd Column.selectedBy_star h
  · rwa [numberedList, if_neg hl]

theorem hidesWriteOnly_iff (hs : s.table = some t) (hc : s.columns = []) :
    s.HidesWriteOnly t ↔ ∀ c ∈ t.columns, c.direction = .writeOnly →
      t.readable ≠ [] ∧ ∀ d ∈ t.readable, ¬ c.SelectedBy s.tableName d.name := by
  have hn : ∀ c : Column, (¬ c.SelectedBy s.tableName s.columnList ∧
      ¬ c.SelectedBy s.tableName s.numberedList) ↔
        t.readable ≠ [] ∧ ∀ d ∈ t.readable, ¬ c.SelectedBy s.tableName d.name := by
    intro c
    rw [and_iff_left_of_imp not_selectedBy_numberedList, selectedBy_columnList_iff hs hc, not_or]
    simp
  simp only [HidesWriteOnly, hn]

end Statement

/-- On a table that is mapped or built by calls, inserts and updates write no column that is only
read. A select without columns of its own starts with its select lists, and they hide the columns
that are only written exactly if some column is read and the names of the columns that are read do
not stand for those that are only written. -/
theorem directions_kept_iff {t : Table}
    (h : (∃ name calls, (Table.empty name).run calls = t) ∨
      ∃ (n : Naming) (r : RecordType), r.table n = .ok t)
    {s : Statement} (hs : s.table = some t) (f : Flavor) :
    (∀ values call, s.insertSql f values = .ok call →
      ∃ (names : List String) (markers : List (Option Nat)),
        f.tokens call.sql = Token.insert s.tableName names markers ∧
        ∀ c ∈ t.columns, c.direction = .readOnly → c.name ∉ names) ∧
    (∀ values call, s.updateSql f values = .ok call →
      ∃ (names : List String) (markers : List (Option Nat)),
        f.tokens call.sql = Token.update s.tableName (names.zip markers) ++
          f.tokens (Flavor.conditionText s.condition) ∧
        ∀ c ∈ t.columns, c.direction = .readOnly → c.name ∉ names) ∧
    (∀ sql, s.selectSql f = .ok sql → s.Lists f sql) ∧
    (s.columns = [] → (s.HidesWriteOnly t ↔ ∀ c ∈ t.columns, c.direction = .writeOnly →
      t.readable ≠ [] ∧ ∀ d ∈ t.readable, ¬ c.SelectedBy s.tableName d.name)) := by
  obtain ⟨name, as, hh⟩ := Table.exists_hasHistory h
  refine ⟨fun values call hi => ?_, fun values call hu => ?_,
    fun sql => Statement.lists_selectSql, Statement.hidesWriteOnly_iff hs⟩
  · obtain ⟨markers, ht⟩ := Statement.tokens_insertSql hs hi
    exact ⟨_, markers, ht, fun c hc hd => hh.not_mem_names hc hd _⟩
  · obtain ⟨markers, ht⟩ := Statement.tokens_updateSql hs hu
    exact ⟨_, markers, ht, fun c hc hd => hh.not_mem_names hc hd _⟩

def loginRecord : RecordType :=
  ⟨"login", [.mk "name" .text none, .mk "password" .text (some "->"),
    .mk "seen" .int (some "<-")]⟩

def loginTable : Table :=
  (Table.empty "login").run [
    .column (Column.ofType "name" .varchar),
    .column { Column.ofType "password" .varchar with direction := .writeOnly },
    .column { Column.ofType "seen" .int with direction := .readOnly }]

theorem directions_kept_login :
    loginRecord.table .same = .ok loginTable ∧
      (Statement.ofTable loginTable).HidesWriteOnly loginTable := by
  have ht : loginRecord.table .same = .ok loginTable := by decide +kernel
  have h := directions_kept_iff (.inr ⟨.same, loginRecord, ht⟩)
    (s := Statement.ofTable loginTable) rfl .mysql
  exact ⟨ht, (h.2.2.2 rfl).mpr (by decide +kernel)⟩

def secretRecord : RecordType :=
  ⟨"login", [.mk "password" .text (some "->")]⟩

def secretTable : Table :=
  (Table.empty "login").run [
    .column { Column.ofType "password" .varchar with direction := .writeOnly }]

theorem secret_selected :
    secretRecord.table .same = .ok secretTable ∧
      (Statement.ofTable secretTable).selectSql .postgres = .ok "SELECT * FROM login" ∧
      ¬ (Statement.ofTable secretTable).HidesWriteOnly secretTable := by
  refine ⟨by decide +kernel, by decide +kernel, ?_⟩
  rw [Statement.hidesWriteOnly_iff rfl rfl]
  decide

end RecordSql
