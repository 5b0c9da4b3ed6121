/-! # Runs of letters

A run holds letters at equal steps that have their counterpart in the other case at one distance.
-/

namespace RecordSql.Text.Case

/-- Letters `first`, `first + step`, … up to `last` with their counterpart at distance `shift`. -/
structure Run where
  first : Nat
  last : Nat
  step : Nat
  shift : Int

namespace Run

def holds (r : Run) (c : Char) : Bool :=
  r.first ≤ c.toNat && c.toNat ≤ r.last && (c.toNat - r.first) % r.step = 0

def counterpart (r : Run) (c : Char) : Char :=
  Char.ofNat (c.toNat + r.shift).toNat

end Run

def counterpart? (runs : List Run) (c : Char) : Option Char :=
  (runs.find? (·.holds c)).map (·.counterpart c)

end RecordSql.Text.Case
