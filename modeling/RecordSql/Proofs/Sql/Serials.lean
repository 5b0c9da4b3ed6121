import RecordSql.Proofs.Flavor.Settled
import RecordSql.Proofs.Schema.History
import RecordSql.Proofs.Sql.Filters
import RecordSql.Sql.Compiled

/-! # Serial columns

The definition of a table lets its serial columns count their rows and be its key, whatever they say
themselves. Changes of rows and conditions on the key go by what the columns say, so that they agree
with the definition exactly if the serial columns say as much.
-/

namespace RecordSql

namespace Statement

variable {f : Flavor} {s : Statement} {t : Table} {c : Column} {d : Draft}

theorem insertColumns_eq (h : s.table = some t) :
    s.insertColumns = .ok (t.writable.filter fun c => !c.autoIncrement) := by
  rw [insertColumns, mappedTable, h]
  rfl

theorem updateColumns_eq (h : s.table = some t) :
    s.updateColumns = .ok (t.writable.filter fun c => !c.autoIncrement && !c.primaryKey) := by
  rw [updateColumns, mappedTable, h]
  rfl

theorem filter_key_eq_ok_iff (h : d.statement.table = some t) (v : Value) (args : List Value) :
    ((Draft.filter f (.key v) args).run.run d).1 = .ok () ↔ t.primaryKey.isSome = true := by
  rw [Draft.run_filter_key, keyName, mappedTable, h]
  cases hk : t.primaryKey <;> simp [bind, Except.bind, hk]

end Statement

namespace Table

variable {t : Table} {f : Flavor}

/-- No column that the definition of the table lets count its rows is written by an insert or an
update. -/
def CountsUnwritten (f : Flavor) (t : Table) : Prop :=
  ∀ s : Statement, s.table = some t → ∃ inserted updated,
    s.insertColumns = .ok inserted ∧ s.updateColumns = .ok updated ∧
      ∀ c ∈ t.columns, (f.translate c).2.autoIncrement = true → c ∉ inserted ∧ c ∉ updated

/-- If the definition of the table declares a column as the key, a condition on the key succeeds. -/
def FindsDeclaredKey (f : Flavor) (t : Table) : Prop :=
  (∃ c ∈ t.columns, Flavor.declaresKey (f.translate c).2 t.primaryKey = true) →
    ∀ d : Statement.Draft, d.statement.table = some t → ∀ v args,
      ((Statement.Draft.filter f (.key v) args).run.run d).1 = .ok ()

theorem countsUnwritten_iff : t.CountsUnwritten f ↔
    ∀ c ∈ t.columns, c.type.isSerial = true → c.direction.writes = true →
      c.autoIncrement = true := by
  constructor
  · intro h c hc hs hw
    obtain ⟨inserted, updated, hi, -, hn⟩ := h (.ofTable t) rfl
    rw [Statement.insertColumns_eq rfl] at hi
    cases hi
    by_contra ha
    refine (hn c hc ?_).1 ?_
    · simp [Flavor.translate, Flavor.settle_eq, hs]
    · simpa [writable, hc, hw] using ha
  · intro h s hs
    refine ⟨_, _, s.insertColumns_eq hs, s.updateColumns_eq hs, fun c hc ha => ?_⟩
    have hw : c.direction.writes = true → c.autoIncrement = true := by
      simp only [Flavor.translate, Flavor.settle_eq, Bool.or_eq_true] at ha
      exact fun hw => ha.elim id fun hs => h c hc hs hw
    constructor
    all_goals
      intro hm
      simp only [writable, List.mem_filter, Bool.and_eq_true, Bool.not_eq_true'] at hm
    · exact Bool.eq_false_iff.mp hm.2 (hw hm.1.2)
    · exact Bool.eq_false_iff.mp hm.2.1 (hw hm.1.2)

theorem findsDeclaredKey_iff (h : t.primaryKey = none → ∀ c ∈ t.columns, c.primaryKey = false) :
    t.FindsDeclaredKey f ↔ (t.primaryKey = none → ∀ c ∈ t.columns, c.type.isSerial = false) := by
  constructor
  · intro hf hk c hc
    by_contra hs
    rw [Bool.not_eq_false] at hs
    have hd : Flavor.declaresKey (f.translate c).2 t.primaryKey = true := by
      simp [Flavor.declaresKey, Flavor.translate, Flavor.settle_eq, hk, hs]
    have hr := hf ⟨c, hc, hd⟩ ⟨.ofTable t, 1⟩ rfl .null []
    rw [Statement.filter_key_eq_ok_iff rfl, hk] at hr
    exact Bool.false_ne_true hr
  · rintro hs ⟨c, hc, hd⟩ d ht v args
    rw [Statement.filter_key_eq_ok_iff ht]
    cases hk : t.primaryKey with
    | none =>
      simp [Flavor.declaresKey, Flavor.translate, Flavor.settle_eq, h hk c hc, hs hk c hc] at hd
    | some key => rfl

end Table

/-- A table that is mapped or built by calls agrees with its definition on the columns that count
their rows exactly if each serial column that is written says that it counts them, and on the key
exactly if a table with a serial column has a primary key. -/
theorem serials_agree_iff {t : Table}
    (h : (∃ name calls, (Table.empty name).run calls = t) ∨
      ∃ (n : Naming) (r : RecordType), r.table n = .ok t) (f : Flavor) :
    (t.CountsUnwritten f ↔ ∀ c ∈ t.columns, c.type.isSerial = true → c.direction.writes = true →
        c.autoIncrement = true) ∧
      (t.FindsDeclaredKey f ↔
        (t.primaryKey = none → ∀ c ∈ t.columns, c.type.isSerial = false)) := by
  obtain ⟨name, as, hh⟩ := Table.exists_hasHistory h
  exact ⟨Table.countsUnwritten_iff,
    Table.findsDeclaredKey_iff fun hk _ => hh.primaryKey_eq_false hk⟩

def countedRecord : RecordType :=
  ⟨"counter", [.mk "seq" .other (some "serial pk autoincr"), .mk "total" .int none]⟩

def countedTable : Table :=
  (Table.empty "counter").run [
    .column { Column.ofType "seq" .serial with
      primaryKey := true, autoIncrement := true, nullable := false },
    .column (Column.ofType "total" .int)]

def uncountedTable : Table :=
  (Table.empty "counter").run [.column (Column.ofType "seq" .serial)]

theorem serials_agree_counted :
    countedRecord.table .same = .ok countedTable ∧
      countedTable.CountsUnwritten .postgres ∧ countedTable.FindsDeclaredKey .postgres := by
  have ht : countedRecord.table .same = .ok countedTable := by decide +kernel
  have h := serials_agree_iff (.inr ⟨.same, countedRecord, ht⟩) .postgres
  exact ⟨ht, h.1.mpr (by decide), h.2.mpr (by decide)⟩

theorem serials_disagree :
    ((Statement.ofTable uncountedTable).createTableSql .mysql false = .ok [
        "CREATE TABLE `counter` (\n`seq` INT PRIMARY KEY AUTO_INCREMENT NOT NULL);"] ∧
      (Statement.ofTable uncountedTable).insertColumns = .ok [Column.ofType "seq" .serial] ∧
      ((Statement.Draft.filter .mysql (.key (.int 1)) []).run.run
        ⟨.ofTable uncountedTable, 1⟩).1 = .error (.of (.missingPrimaryKey "counter"))) ∧
    ¬ uncountedTable.CountsUnwritten .mysql ∧ ¬ uncountedTable.FindsDeclaredKey .mysql := by
  refine ⟨⟨by decide +kernel, by decide +kernel, by decide +kernel⟩, ?_, ?_⟩
  · rw [Table.countsUnwritten_iff]
    decide
  · rw [Table.findsDeclaredKey_iff (by decide)]
    decide

end RecordSql
