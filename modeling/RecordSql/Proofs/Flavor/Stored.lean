import RecordSql.Proofs.Flavor.Settled
import RecordSql.Proofs.Schema.Tokens
import RecordSql.Proofs.Text.Letters

/-! # Stored types

MySQL keeps each type of the catalog as one of the types that it shares its name with. Such a type
is kept as it is and changes nothing about its column.
-/

namespace RecordSql

namespace ColumnType

def stored : ColumnType → ColumnType
  | bool => tinyint
  | serial => int
  | bigserial => bigint
  | bytea => blob
  | timestampz => char
  | t => t

theorem mysqlName_eq (t : ColumnType) : t.mysqlName = t.stored.name := by
  cases t <;> rfl

theorem stored_stored (t : ColumnType) : t.stored.stored = t.stored := by
  cases t <;> rfl

theorem isSerial_stored (t : ColumnType) : t.stored.isSerial = false := by
  cases t <;> rfl

theorem stored_ne_timestampz (t : ColumnType) : t.stored ≠ timestampz := by
  cases t <;> decide

theorem isAlpha_of_mem_name (t : ColumnType) : ∀ c ∈ t.name.toList, c.isAlpha = true := by
  have h : t.name.toList.all Char.isAlpha = true := by cases t <;> rfl
  exact List.all_eq_true.mp h

theorem toList_name_ne_nil (t : ColumnType) : t.name.toList ≠ [] := by
  cases t <;> decide

theorem lookup?_name (t : ColumnType) : lookup? t.name = some t := by
  cases t <;> decide

theorem lookup?_congr {a b : String} (h : a.toList.map Char.toLower = b.toList.map Char.toLower) :
    lookup? a = lookup? b := by
  unfold lookup? Text.sameLetters
  rw [h]

end ColumnType

namespace Flavor

/-- What MySQL declares a column with: the name of the type that it keeps, and the lengths. -/
theorem translate_mysql (c : Column) :
    mysql.translate c =
      (appendLengths c.type.stored.name (mysql.settle c).length (mysql.settle c).secondLength,
        mysql.settle c) := by
  have ht : (mysql.settle c).type = c.type := by rw [settle_eq]
  have ha : mysql.acceptsLength c.type.stored.name = true := by
    simp only [acceptsLength, Bool.not_eq_true', List.contains_eq_mem, decide_eq_false_iff_not]
    exact fun h => absurd (c.type.stored.isAlpha_of_mem_name _ h) (by decide)
  unfold translate physicalName
  simp only [ht, ColumnType.mysqlName_eq, ha, if_true]

theorem settle_of_stored {c : Column} {t : ColumnType} (h : c.type = t.stored) :
    mysql.settle c = c := by
  have hs : c.type.isSerial = false := h ▸ t.isSerial_stored
  have hz : ¬ (mysql = mysql ∧ c.type = .timestampz) := fun hz =>
    t.stored_ne_timestampz (h.symm.trans hz.2)
  rw [settle_eq, hs, if_neg hz, if_neg hz]
  simp

end Flavor

end RecordSql
