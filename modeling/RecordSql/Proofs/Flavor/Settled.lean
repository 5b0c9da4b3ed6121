import RecordSql.Flavor.PhysicalType

/-! # Settled columns

A flavor settles a column before it declares it. A serial type turns its column into a key that
counts its rows and is never missing; all else about a column stays, apart from the lengths of a
time with a zone in MySQL.
-/

namespace RecordSql.Flavor

theorem settle_eq (f : Flavor) (c : Column) :
    f.settle c = { c with
      autoIncrement := c.autoIncrement || c.type.isSerial
      primaryKey := c.primaryKey || c.type.isSerial
      nullable := c.nullable && !c.type.isSerial
      length := if f = mysql ∧ c.type = .timestampz then 64 else c.length
      secondLength := if f = mysql ∧ c.type = .timestampz then 0 else c.secondLength } := by
  unfold settle
  by_cases hz : f = mysql ∧ c.type = .timestampz
  · obtain ⟨rfl, ht⟩ := hz
    simp [ht, ColumnType.isSerial]
  · by_cases hs : c.type.isSerial = true
    · simp [hs, hz]
    · simp [hs, hz]

end RecordSql.Flavor
