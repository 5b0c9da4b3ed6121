import RecordSql.Proofs.Sql.Targets

/-! # Complete statements

A change and a definition are complete if they name a table and list a column of it. To select,
count, delete and drop asks for the name of the table. To insert, update and create asks for a mapped
table only, whatever its name is and whether or not a column is left to list.
-/

namespace RecordSql

/-- What the start of a statement tells: the table, and the first column of the list behind it. -/
structure Heading where
  table : String
  column? : Option String
  deriving DecidableEq

namespace Token

def opening? : List Token → Option String
  | symbol ' ' :: symbol '(' :: identifier c :: _ => some c
  | symbol ' ' :: symbol '(' :: symbol '\n' :: identifier c :: _ => some c
  | symbol ' ' :: symbol 'S' :: symbol 'E' :: symbol 'T' :: symbol ' ' :: identifier c ::
      symbol ' ' :: symbol '=' :: symbol ' ' :: marker _ :: _ => some c
  | _ => none

/-- The heading among the tokens of a statement: it starts with the first identifier, or with the
table of the index that the first identifier names. -/
def heading? : List Token → Option Heading
  | [] => none
  | identifier _ :: symbol ' ' :: symbol 'O' :: symbol 'N' :: symbol ' ' :: identifier table :: ts =>
    some ⟨table, opening? ts⟩
  | identifier table :: ts => some ⟨table, opening? ts⟩
  | _ :: ts => heading? ts

theorem skips_heading? : Skips heading? :=
  ⟨rfl, fun _ _ => rfl, fun _ _ => rfl⟩

theorem heading?_identifier {ts : List Token} (h : indexed? ts = none) (table : String) :
    heading? (identifier table :: ts) = some ⟨table, opening? ts⟩ := by
  rw [heading?]
  rintro other ts rfl
  cases h

theorem opening?_parentheses (columns : List String) (ts : List Token) :
    opening? (symbols " (" ++ (names columns ++ symbol ')' :: ts)) = columns.head? := by
  cases columns with
  | nil => rfl
  | cons c columns => cases columns <;> rfl

theorem opening?_assignments (assignments : List (String × Option Nat)) (c : Char)
    (ts : List Token) :
    opening? (symbols " SET " ++ (listed (assignments.map assignment) ++ symbol c :: ts)) =
      assignments.head?.map (·.1) := by
  cases assignments with
  | nil => rfl
  | cons a assignments => cases assignments <;> rfl

end Token

namespace Flavor

open Token

variable {f : Flavor} {sql table : String} {column? : Option String}

/-- A statement is complete if it names a table and lists a column of it. -/
def IsComplete (f : Flavor) (sql : String) : Prop :=
  ∃ table column, f.read? heading? sql = some ⟨table, some column⟩ ∧ table ≠ ""

theorem isComplete_iff (h : f.read? heading? sql = some ⟨table, column?⟩) :
    f.IsComplete sql ↔ table ≠ "" ∧ column? ≠ none := by
  unfold IsComplete
  rw [h]
  cases column? <;> simp

/-! ## Changes -/

theorem heading?_appendInsert (f : Flavor) (table : String) (columns : List String) (first : Nat) :
    f.read? heading? (f.appendInsert "" table columns first) = some ⟨table, columns.head?⟩ := by
  refine read?_of_tokens ?_
  rw [tokens_appendInsert, Token.insert]
  simp only [List.append_assoc, List.cons_append, skips_heading?.symbols]
  rw [heading?_identifier rfl]
  exact congrArg (fun column? => some (Heading.mk table column?)) (opening?_parentheses columns _)

theorem heading?_appendUpdate (f : Flavor) (table : String) (columns : List String) (first : Nat)
    (condition : String) :
    f.read? heading? (f.appendUpdate "" table columns first condition) =
      some ⟨table, columns.head?⟩ := by
  -- a condition cannot be taken for an assignment, as there is a symbol in front of it
  obtain ⟨c, ts, ht⟩ : ∃ c ts, f.tokens (conditionText condition) = symbol c :: ts := by
    rcases f.tokens_conditionText_cases condition with h | ⟨ts, h⟩
    · exact ⟨_, _, h⟩
    · exact ⟨_, _, h⟩
  have hz : (columns.zip ((List.range' first columns.length).map f.number?)).head?.map (·.1) =
      columns.head? := by
    cases columns <;> rfl
  refine read?_of_tokens ?_
  rw [tokens_appendUpdate, Token.update, ht]
  simp only [List.append_assoc, List.cons_append, skips_heading?.symbols]
  rw [heading?_identifier rfl, opening?_assignments, hz]

/-! ## Definitions -/

theorem heading?_appendCreateIndex (f : Flavor) (table group : String) (columns : List String)
    (unique : Bool) :
    f.read? heading? (f.appendCreateIndex "" table group columns unique) =
      some ⟨table, columns.head?⟩ := by
  refine read?_of_tokens ?_
  rw [tokens_appendCreateIndex, Token.createIndex]
  simp only [List.append_assoc, List.cons_append, skips_heading?.symbols]
  exact congrArg (fun column? => some (Heading.mk table column?)) (opening?_parentheses columns _)

theorem exists_appendColumn_eq_quote (f : Flavor) (c : Column) (key : Option String) :
    ∃ rest, f.appendColumn "" c key = f.quote c.name ++ (" " ++ rest) := by
  by_cases hf : f = oracle
  · subst hf
    simp only [appendColumn, appendLeadingDefault, name_translate, appendIdentifier,
      String.empty_append, String.append_assoc]
    exact ⟨_, rfl⟩
  · simp only [appendColumn_of_ne hf, appendPlainDefinition, name_translate, appendIdentifier,
      String.empty_append, String.append_assoc]
    exact ⟨_, rfl⟩

theorem opening?_definitions (f : Flavor) (t : Table) (rest : List Char) :
    opening? (symbols " (\n" ++
      f.lex ((",\n".intercalate (t.definitions f)).toList ++ ')' :: rest)) =
        t.columns.head?.map (·.name) := by
  unfold Table.definitions
  cases t.columns with
  | nil =>
    rw [List.map_nil, String.intercalate_nil, String.toList_empty, List.nil_append, lex_cons,
      readToken_plain (by decide)]
    rfl
  | cons c columns =>
    obtain ⟨more, hm⟩ : ∃ more, ",\n".intercalate ((c :: columns).map fun c =>
        f.appendColumn "" c t.primaryKey) = f.appendColumn "" c t.primaryKey ++ more := by
      cases columns with
      | nil => exact ⟨"", by simp⟩
      | cons d columns =>
        rw [List.map_cons, List.map_cons, String.intercalate_cons_cons, String.append_assoc]
        exact ⟨_, rfl⟩
    obtain ⟨behind, hb⟩ := f.exists_appendColumn_eq_quote c t.primaryKey
    rw [hm, hb]
    simp only [String.toList_append, List.append_assoc]
    rw [lex_quote _ (Breaks.of_head (by decide))]
    rfl

theorem heading?_appendCreateTable (f : Flavor) (t : Table) (ifMissing : Bool)
    (options : TableOptions) :
    f.read? heading? (f.appendCreateTable "" t ifMissing options) =
      some ⟨t.name, t.columns.head?.map (·.name)⟩ := by
  refine read?_appendCreateTable skips_heading? (fun clause stop hc => ?_) ifMissing
  obtain ⟨rest, hr⟩ := f.tokens_create hc t options stop
  rw [hr, skips_heading?.symbols, skips_heading?.symbols, heading?_identifier rfl,
    opening?_definitions]

end Flavor

/-! ## Statements -/

namespace Statement

variable {f : Flavor} {s : Statement} {t : Table}

def InsertsComplete (s : Statement) (f : Flavor) : Prop :=
  ∀ values call, s.insertSql f values = .ok call → f.IsComplete call.sql

def UpdatesComplete (s : Statement) (f : Flavor) : Prop :=
  ∀ values call, s.updateSql f values = .ok call → f.IsComplete call.sql

def CreatesComplete (s : Statement) (f : Flavor) : Prop :=
  ∀ ifMissing sqls, s.createTableSql f ifMissing = .ok sqls → ∀ sql ∈ sqls, f.IsComplete sql

/-- Changes that are complete on one condition are all complete on it, where any is compiled. -/
theorem complete_iff_of_exists {run : List Value → Except Failure Call} {p : Prop}
    (he : ∃ values call, run values = .ok call)
    (hc : ∀ values call, run values = .ok call → (f.IsComplete call.sql ↔ p)) :
    (∀ values call, run values = .ok call → f.IsComplete call.sql) ↔ p := by
  constructor
  · intro h
    obtain ⟨values, call, hr⟩ := he
    exact (hc values call hr).mp (h values call hr)
  · exact fun h values call hr => (hc values call hr).mpr h

theorem head?_map_name_ne_none_iff {p : Column → Bool} :
    ((t.writable.filter p).map (·.name)).head? ≠ none ↔
      ∃ c ∈ t.columns, c.direction.writes = true ∧ p c = true := by
  rw [ne_eq, List.head?_eq_none_iff, List.map_eq_nil_iff, List.eq_nil_iff_forall_not_mem]
  simp [Table.writable, and_comm]

theorem insertsComplete_iff (hs : s.table = some t) :
    s.InsertsComplete f ↔
      s.tableName ≠ "" ∧ ∃ c ∈ t.columns, c.direction.writes = true ∧ c.autoIncrement = false := by
  refine complete_iff_of_exists (exists_insertSql hs f) fun values call h => ?_
  obtain ⟨columns, hi, -, rfl⟩ := insertSql_eq_ok_iff.mp h
  rw [insertColumns_eq hs] at hi
  cases hi
  rw [Flavor.isComplete_iff (f.heading?_appendInsert ..), head?_map_name_ne_none_iff]
  simp

theorem updatesComplete_iff (hs : s.table = some t) :
    s.UpdatesComplete f ↔
      s.tableName ≠ "" ∧ ∃ c ∈ t.columns, c.direction.writes = true ∧ c.autoIncrement = false ∧
        c.primaryKey = false := by
  refine complete_iff_of_exists (exists_updateSql hs f) fun values call h => ?_
  obtain ⟨columns, hu, -, rfl⟩ := updateSql_eq_ok_iff.mp h
  rw [updateColumns_eq hs] at hu
  cases hu
  have hh : ∀ first, f.IsComplete (f.appendUpdate "" s.tableName
      ((t.writable.filter fun c => !c.autoIncrement && !c.primaryKey).map (·.name)) first
        s.condition) ↔ _ := fun first => Flavor.isComplete_iff (f.heading?_appendUpdate ..)
  rw [head?_map_name_ne_none_iff] at hh
  split <;> simpa using hh _

theorem createsComplete_iff (hs : s.table = some t) :
    s.CreatesComplete f ↔
      t.name ≠ "" ∧ t.columns ≠ [] ∧ ∀ g ∈ t.indexes ++ t.uniques, g.members ≠ [] := by
  have ht : ∀ ifMissing options, f.IsComplete (f.appendCreateTable "" t ifMissing options) ↔
      t.name ≠ "" ∧ t.columns ≠ [] := by
    intro ifMissing options
    rw [Flavor.isComplete_iff (f.heading?_appendCreateTable ..)]
    simp
  have hi : ∀ i : Index, f.IsComplete
      (f.appendCreateIndex "" t.name i.name i.columns i.unique) ↔ t.name ≠ "" ∧ i.columns ≠ [] := by
    intro i
    rw [Flavor.isComplete_iff (f.heading?_appendCreateIndex ..)]
    simp
  have hg : (∀ i ∈ t.groupIndexes, i.columns ≠ []) ↔
      ∀ g ∈ t.indexes ++ t.uniques, g.members ≠ [] := by
    simp [Table.groupIndexes, Group.index, or_imp, forall_and]
  have hf := createTableSql_eq hs f
  rw [← hg]
  constructor
  · intro h
    obtain ⟨hn, hc⟩ := (ht ..).mp (h false _ (hf false) _ List.mem_cons_self)
    refine ⟨hn, hc, fun i hm => ?_⟩
    exact ((hi i).mp (h false _ (hf false) _ (List.mem_cons_of_mem _ (List.mem_map_of_mem hm)))).2
  · rintro ⟨hn, hc, hm⟩ ifMissing sqls h sql hsql
    rw [hf] at h
    cases h
    rcases List.mem_cons.mp hsql with rfl | hsql
    · exact (ht ..).mpr ⟨hn, hc⟩
    · obtain ⟨i, him, rfl⟩ := List.mem_map.mp hsql
      exact (hi i).mpr ⟨hn, hm i him⟩

theorem unnamed_refused (h : s.tableName = "") (f : Flavor) :
    (∃ e, s.selectSql f = .error e) ∧ (∃ e, s.countSql = .error e) ∧
      (∃ e, s.deleteSql f = .error e) ∧ ∀ ifPresent, ∃ e, s.dropTableSql f ifPresent = .error e := by
  simp [selectSql_of_unnamed h, countSql, deleteSql, dropTableSql, h]

theorem unmapped_refused (h : s.table = none) (f : Flavor) :
    (∀ values, s.insertSql f values = .error (.of (.unmapped s.tableName))) ∧
      (∀ values, s.updateSql f values = .error (.of (.unmapped s.tableName))) ∧
        ∀ ifMissing, s.createTableSql f ifMissing = .error (.of (.unmapped s.tableName)) := by
  have hm : s.mappedTable = .error (.of (.unmapped s.tableName)) := by
    rw [mappedTable, h]
  simp [insertSql, insertColumns, updateSql, updateColumns, createTableSql, hm, bind, Except.bind]

end Statement

/-- Whatever calls lead to a statement: the inserts that it compiles to are complete exactly if the
last name given is not empty and the last table given has a column to insert, and so are the updates
if it has a column to update. The definitions are complete exactly if the table has a name, a column
and no group without members. Selects, counts, deletes and drops are refused without a name, and
inserts, updates and definitions without a table. -/
theorem statements_complete_iff (calls : List Addendum) (f : Flavor) :
    ((Statement.build calls).InsertsComplete f ↔ ∀ t, Statement.lastTable? calls = some t →
      Statement.lastName calls ≠ "" ∧
        ∃ c ∈ t.columns, c.direction.writes = true ∧ c.autoIncrement = false) ∧
    ((Statement.build calls).UpdatesComplete f ↔ ∀ t, Statement.lastTable? calls = some t →
      Statement.lastName calls ≠ "" ∧ ∃ c ∈ t.columns,
        c.direction.writes = true ∧ c.autoIncrement = false ∧ c.primaryKey = false) ∧
    ((Statement.build calls).CreatesComplete f ↔ ∀ t, Statement.lastTable? calls = some t →
      t.name ≠ "" ∧ t.columns ≠ [] ∧ ∀ g ∈ t.indexes ++ t.uniques, g.members ≠ []) ∧
    (Statement.lastName calls = "" →
      (∃ e, (Statement.build calls).selectSql f = .error e) ∧
        (∃ e, (Statement.build calls).countSql = .error e) ∧
          (∃ e, (Statement.build calls).deleteSql f = .error e) ∧
            ∀ ifPresent, ∃ e, (Statement.build calls).dropTableSql f ifPresent = .error e) ∧
    (Statement.lastTable? calls = none →
      (∀ values, ∃ e, (Statement.build calls).insertSql f values = .error e) ∧
        (∀ values, ∃ e, (Statement.build calls).updateSql f values = .error e) ∧
          ∀ ifMissing, ∃ e, (Statement.build calls).createTableSql f ifMissing = .error e) := by
  obtain ⟨hn, ht⟩ := Statement.build_target calls
  rw [← hn, ← ht]
  have hr := fun h => Statement.unnamed_refused (s := Statement.build calls) h f
  cases hs : (Statement.build calls).table with
  | none =>
    obtain ⟨hi, hu, hc⟩ := Statement.unmapped_refused hs f
    simp only [Statement.InsertsComplete, Statement.UpdatesComplete, Statement.CreatesComplete, hi,
      hu, hc]
    exact ⟨by simp, by simp, by simp, hr, by simp⟩
  | some t =>
    simp only [Option.some.injEq, forall_eq']
    exact ⟨Statement.insertsComplete_iff hs, Statement.updatesComplete_iff hs,
      Statement.createsComplete_iff hs, hr, nofun⟩

/-- A table with nothing but a key that counts its rows is updated in no column, and it is inserted
into without its name, which a delete needs. A table with nothing but an empty group is created. -/
theorem statements_incomplete :
    ∃ (calls : List Addendum) (bare : Table),
      (Statement.build calls).updateSql .mysql [] = .ok ⟨"UPDATE `counter` SET ;", []⟩ ∧
      ¬ (Statement.build calls).UpdatesComplete .mysql ∧
      (Statement.build (calls ++ [.put (.tableName "")])).insertSql .mysql [] =
        .ok ⟨"INSERT INTO `` () VALUES ();", []⟩ ∧
      ¬ (Statement.build (calls ++ [.put (.tableName "")])).InsertsComplete .mysql ∧
      (Statement.build (calls ++ [.put (.tableName "")])).deleteSql .mysql =
        .error (.of .deleteWithoutTable) ∧
      (Statement.build (calls ++ [.put (.table bare)])).createTableSql .mysql false =
        .ok ["CREATE TABLE `` (\n);", "CREATE INDEX `IDX__i` ON `` ();"] ∧
      ¬ (Statement.build (calls ++ [.put (.table bare)])).CreatesComplete .mysql := by
  let t : Table := (Table.empty "counter").run [
    .column { Column.ofType "id" .bigint with primaryKey := true, autoIncrement := true }]
  refine ⟨[.put (.table t)], (Table.empty "").run [.index ⟨"i", false, []⟩],
    by decide +kernel, ?_, by decide +kernel, ?_, by decide +kernel, by decide +kernel, ?_⟩
  · rw [Statement.updatesComplete_iff (t := t) rfl]
    decide
  · rw [Statement.insertsComplete_iff (t := t) rfl]
    decide
  · rw [Statement.createsComplete_iff rfl]
    decide

end RecordSql
