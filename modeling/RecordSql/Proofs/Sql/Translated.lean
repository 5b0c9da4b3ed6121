import RecordSql.Proofs.Flavor.Settled
import RecordSql.Proofs.Sql.Appending

/-! # Translated columns

A flavor translates a column once for all: it has nothing to change about a translated column, and
calls it by the same type. The definition of a column depends on the translated column only, so that
a table is created in the same way from its columns and from their translations.
-/

namespace RecordSql

theorem ColumnType.isSerial_iff (t : ColumnType) :
    t.isSerial = true ↔ t = .serial ∨ t = .bigserial := by
  cases t <;> simp [isSerial]

namespace Flavor

variable {f : Flavor} {c d : Column}

theorem snd_translate (f : Flavor) (c : Column) : (f.translate c).2 = f.settle c := rfl

theorem settle_settle (f : Flavor) (c : Column) : f.settle (f.settle c) = f.settle c := by
  have ht : (f.settle c).type = c.type := by rw [settle_eq]
  rw [settle_eq f (f.settle c), ht, settle_eq f c]
  -- each field is set to what it is set to already
  by_cases hz : f = mysql ∧ c.type = .timestampz <;> cases c.type.isSerial <;> simp [hz]

theorem translate_congr (h : f.settle c = f.settle d) : f.translate c = f.translate d := by
  unfold translate
  rw [h]

theorem translate_settle (f : Flavor) (c : Column) : f.translate (f.settle c) = f.translate c :=
  translate_congr (f.settle_settle c)

theorem appendColumn_congr (h : f.translate c = f.translate d) (out : String)
    (key : Option String) : f.appendColumn out c key = f.appendColumn out d key := by
  by_cases hf : f = oracle
  · subst hf
    rw [appendColumn, appendColumn, appendLeadingDefault, appendLeadingDefault, h]
  · rw [appendColumn_of_ne hf, appendColumn_of_ne hf, appendPlainDefinition,
      appendPlainDefinition, h]

theorem appendColumn_settle (f : Flavor) (out : String) (c : Column) (key : Option String) :
    f.appendColumn out (f.settle c) key = f.appendColumn out c key :=
  appendColumn_congr (f.translate_settle c) out key

def settleTable (f : Flavor) (t : Table) : Table :=
  { t with columns := t.columns.map f.settle }

theorem definitions_settleTable (f : Flavor) (t : Table) :
    (f.settleTable t).definitions f = t.definitions f := by
  rw [Table.definitions, settleTable, List.map_map]
  exact List.map_congr_left fun c _ => f.appendColumn_settle "" c t.primaryKey

theorem appendPlainCreate_settleTable (f : Flavor) (out : String) (t : Table) (clause : String)
    (options : TableOptions) :
    f.appendPlainCreate out (f.settleTable t) clause options =
      f.appendPlainCreate out t clause options := by
  rw [appendPlainCreate_eq, appendPlainCreate_eq, tableText, tableText, definitions_settleTable]
  rfl

theorem appendCreateTable_settleTable (f : Flavor) (out : String) (t : Table) (ifMissing : Bool)
    (options : TableOptions) :
    f.appendCreateTable out (f.settleTable t) ifMissing options =
      f.appendCreateTable out t ifMissing options := by
  unfold appendCreateTable
  simp only [appendPlainCreate_settleTable]
  rfl

end Flavor

/-- A translated column is translated to itself, under the same type. A translation sets the flags of
a serial column and, in MySQL, the lengths of a time with a zone, and changes nothing else about a
column; so what is written for a column, and for a table, is written for its translation. -/
theorem translation_idempotent (f : Flavor) (c : Column) :
    f.translate (f.translate c).2 = f.translate c ∧
    (f.translate c).2 = { c with
      autoIncrement := if c.type = .serial ∨ c.type = .bigserial then true else c.autoIncrement
      primaryKey := if c.type = .serial ∨ c.type = .bigserial then true else c.primaryKey
      nullable := if c.type = .serial ∨ c.type = .bigserial then false else c.nullable
      length := if f = .mysql ∧ c.type = .timestampz then 64 else c.length
      secondLength := if f = .mysql ∧ c.type = .timestampz then 0 else c.secondLength } ∧
    (∀ out key, f.appendColumn out (f.translate c).2 key = f.appendColumn out c key) ∧
    ∀ out t ifMissing options,
      f.appendCreateTable out { t with columns := t.columns.map fun c => (f.translate c).2 }
        ifMissing options = f.appendCreateTable out t ifMissing options := by
  simp only [Flavor.snd_translate]
  refine ⟨f.translate_settle c, ?_, fun out key => f.appendColumn_settle out c key,
    f.appendCreateTable_settleTable⟩
  simp only [Flavor.settle_eq, ← ColumnType.isSerial_iff]
  cases c.type.isSerial <;> simp

example : (Flavor.mysql.translate (Flavor.mysql.translate
    { Column.ofType "at" .timestampz with length := 6, secondLength := 2 }).2).1 = "CHAR(64)" := by
  decide +kernel

end RecordSql
