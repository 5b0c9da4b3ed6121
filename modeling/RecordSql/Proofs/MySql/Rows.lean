import Mathlib.Data.List.Forall2
import RecordSql.Proofs.MySql.Conversion

/-! # Rows read from the server

A row of the server keeps the order of its cells: label and value at an index belong together, so a
value is looked up by the index of its label. No cell is passed over, which would shift the values
behind it.
-/

namespace RecordSql

namespace Row

variable {r : Row} {name : String} {i : Nat} {v : Value} {halt : Halt}

/-- The first label that is the name in letters of any case stands at an index. -/
structure Finds (r : Row) (name : String) (i : Nat) : Prop where
  here : ∃ label, r.labels[i]? = some label ∧ Text.sameLetters label name = true
  before : ∀ j < i, ∀ label, r.labels[j]? = some label → Text.sameLetters label name = false

theorem findIdx?_labels_eq_some_iff :
    r.labels.findIdx? (fun label => Text.sameLetters label name) = some i ↔ r.Finds name i := by
  rw [List.findIdx?_eq_some_iff_getElem]
  constructor
  · rintro ⟨hi, hs, hb⟩
    refine ⟨⟨_, List.getElem?_eq_getElem hi, hs⟩, fun j hj label hl => ?_⟩
    rw [List.getElem?_eq_getElem (Nat.lt_trans hj hi)] at hl
    obtain rfl := Option.some.inj hl
    exact Bool.eq_false_iff.mpr (hb j hj)
  · rintro ⟨⟨label, hl, hs⟩, hb⟩
    obtain ⟨hi, rfl⟩ := List.getElem?_eq_some_iff.mp hl
    refine ⟨hi, hs, fun j hj => ?_⟩
    exact Bool.eq_false_iff.mp (hb j hj _ (List.getElem?_eq_getElem (Nat.lt_trans hj hi)))

theorem column?_eq_ok_none_iff :
    r.column? name = .ok none ↔ ∀ label ∈ r.labels, Text.sameLetters label name = false := by
  rw [← List.findIdx?_eq_none_iff, column?]
  cases hi : r.labels.findIdx? fun label => Text.sameLetters label name with
  | none => simp
  | some i => cases hv : r.values[i]? <;> simp [hv]

theorem column?_eq_ok_some_iff :
    r.column? name = .ok (some v) ↔ ∃ i, r.Finds name i ∧ r.values[i]? = some v := by
  simp only [← findIdx?_labels_eq_some_iff, column?]
  cases r.labels.findIdx? fun label => Text.sameLetters label name with
  | none => simp
  | some i => cases hv : r.values[i]? <;> simp [hv]

theorem column?_eq_error_iff :
    r.column? name = .error halt ↔
      halt = .missingValue ∧ ∃ i, r.Finds name i ∧ r.values.length ≤ i := by
  simp only [← findIdx?_labels_eq_some_iff, column?]
  cases r.labels.findIdx? fun label => Text.sameLetters label name with
  | none => simp
  | some i =>
    cases hv : r.values[i]? with
    | none => simp [List.getElem?_eq_none_iff.mp hv, eq_comm]
    | some v => simp [(List.getElem?_eq_some_iff.mp hv).1]

theorem Finds.lt_length (h : r.Finds name i) : i < r.labels.length := by
  obtain ⟨label, hl, -⟩ := h.here
  exact (List.getElem?_eq_some_iff.mp hl).1

def Aligned (r : Row) : Prop :=
  r.labels.length = r.values.length

theorem Aligned.column?_ne_error (h : r.Aligned) : r.column? name ≠ .error halt := by
  intro hc
  obtain ⟨-, i, hi, hv⟩ := column?_eq_error_iff.mp hc
  exact absurd (h ▸ hi.lt_length) (Nat.not_lt.mpr hv)

end Row

namespace MySql

namespace Datum

variable {cell : Option Datum} {cells : List (Option Datum)} {v : Value} {values : List Value}

/-- A cell is read as the value that it means, and as null if its value was taken out of it. -/
inductive Reads : Option Datum → Value → Prop
  | present {m : Datum} {v : Value} (h : m.toValue? = some v) : Reads (some m) v
  | taken : Reads none .null

theorem ofCell?_eq_some_iff : ofCell? cell = some v ↔ Reads cell v := by
  constructor
  · intro h
    cases cell with
    | some m => exact .present h
    | none =>
      cases h
      exact .taken
  · rintro (⟨h⟩ | -)
    · exact h
    · rfl

theorem ofCell?_eq_none_iff : ofCell? cell = none ↔ ∃ m, cell = some m ∧ m.toValue? = none := by
  cases cell <;> simp [ofCell?]

theorem mapM_ofCell?_eq_some_iff :
    cells.mapM ofCell? = some values ↔ List.Forall₂ Reads cells values := by
  induction cells generalizing values with
  | nil => simp [List.forall₂_nil_left_iff, eq_comm]
  | cons cell cells ih =>
    simp only [List.mapM_cons, Option.bind_eq_bind, Option.bind_eq_some_iff, Option.pure_def,
      Option.some.injEq, ofCell?_eq_some_iff, ih, List.forall₂_cons_left_iff]
    constructor
    · rintro ⟨v, hv, vs, hvs, rfl⟩
      exact ⟨v, vs, hv, hvs, rfl⟩
    · rintro ⟨v, vs, hv, hvs, rfl⟩
      exact ⟨v, hv, vs, hvs, rfl⟩

theorem mapM_ofCell?_eq_none_iff :
    cells.mapM ofCell? = none ↔ ∃ m, some m ∈ cells ∧ m.toValue? = none := by
  induction cells with
  | nil => simp
  | cons cell cells ih =>
    have hc : (cell :: cells).mapM ofCell? = none ↔
        ofCell? cell = none ∨ cells.mapM ofCell? = none := by
      rw [List.mapM_cons]
      cases ofCell? cell <;> cases cells.mapM ofCell? <;> simp
    rw [hc, ofCell?_eq_none_iff, ih, ← exists_or]
    simp only [List.mem_cons, or_and_right, eq_comm]

end Datum

variable {labels : List (List UInt8)} {cells : List (Option Datum)} {r : Row}

theorem rowOf?_eq_some_iff :
    rowOf? labels cells = some r ↔
      r.labels = labels.map Text.lossy ∧ List.Forall₂ Datum.Reads cells r.values := by
  rw [rowOf?, Option.map_eq_some_iff, ← Datum.mapM_ofCell?_eq_some_iff]
  constructor
  · rintro ⟨values, hv, rfl⟩
    exact ⟨rfl, hv⟩
  · rintro ⟨hl, hv⟩
    exact ⟨r.values, hv, by rw [← hl]⟩

theorem rowOf?_eq_none_iff :
    rowOf? labels cells = none ↔ ∃ m, some m ∈ cells ∧ m.toValue? = none := by
  rw [rowOf?, Option.map_eq_none_iff, Datum.mapM_ofCell?_eq_none_iff]

theorem aligned_iff (h : rowOf? labels cells = some r) :
    r.Aligned ↔ labels.length = cells.length := by
  obtain ⟨hl, hv⟩ := rowOf?_eq_some_iff.mp h
  rw [Row.Aligned, hl, List.length_map, hv.length_eq]

/-- A row of as many labels as cells is read unless a value in it cannot be. The row read from it
has the names of the columns and, at each index, the value of the cell there; a name is looked up
without a halt, and finds the value under its first label or, without such a label, nothing. -/
theorem rows_aligned (h : labels.length = cells.length) :
    (rowOf? labels cells = none ↔ ∃ m, some m ∈ cells ∧ m.toValue? = none) ∧
    ∀ r, rowOf? labels cells = some r →
      (r.labels = labels.map Text.lossy ∧ ∀ names, labels = names.map Text.utf8 → r.labels = names) ∧
      List.Forall₂ Datum.Reads cells r.values ∧ r.labels.length = r.values.length ∧
      ∀ name, (∀ halt, r.column? name ≠ .error halt) ∧
        (r.column? name = .ok none ↔
          ∀ label ∈ r.labels, Text.sameLetters label name = false) ∧
        ∀ v, r.column? name = .ok (some v) ↔ ∃ i, r.Finds name i ∧ r.values[i]? = some v := by
  refine ⟨rowOf?_eq_none_iff, fun r hr => ?_⟩
  obtain ⟨hl, hv⟩ := rowOf?_eq_some_iff.mp hr
  have ha : r.Aligned := (aligned_iff hr).mpr h
  refine ⟨⟨hl, ?_⟩, hv, ha, fun name => ⟨fun halt => ha.column?_ne_error, ?_, fun v => ?_⟩⟩
  · rintro names rfl
    rw [hl, List.map_map]
    exact List.map_id'' Text.lossy_utf8 names
  · exact Row.column?_eq_ok_none_iff
  · exact Row.column?_eq_ok_some_iff

theorem rows_aligned_twice :
    (["n", "N"].map Text.utf8).length = [some (Datum.int 1), none].length ∧
    rowOf? (["n", "N"].map Text.utf8) [none, some (.date 2023 2 29 0 0 0 0)] = none ∧
    ∃ r, rowOf? (["n", "N"].map Text.utf8) [some (.int 1), none] = some r ∧
      r.labels = ["n", "N"] ∧ r.values = [.int 1, .null] ∧
      r.column? "N" = .ok (some (.int 1)) ∧ r.column? "m" = .ok none := by
  have hn : (Datum.date 2023 2 29 0 0 0 0).toValue? = none := by decide
  have hr : rowOf? (["n", "N"].map Text.utf8) [some (.int 1), none] =
      some ⟨["n", "N"], [.int 1, .null]⟩ :=
    rowOf?_eq_some_iff.mpr ⟨by simp [Text.lossy_utf8], .cons (.present rfl) (.cons .taken .nil)⟩
  obtain ⟨⟨-, hl⟩, -, -, hc⟩ := (rows_aligned rfl).2 _ hr
  refine ⟨rfl, (rows_aligned rfl).1.mpr ⟨_, by simp, hn⟩, _, hr, hl _ rfl, rfl, ?_, ?_⟩
  · exact ((hc "N").2.2 _).mpr ⟨0, ⟨⟨"n", rfl, by decide⟩, by simp⟩, rfl⟩
  · exact (hc "m").2.1.mpr (by decide)

end MySql

end RecordSql
