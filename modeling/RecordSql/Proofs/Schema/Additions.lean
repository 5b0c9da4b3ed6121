import Mathlib.Data.List.Nodup
import RecordSql.Schema.Table

/-! # Adding columns

A column is refused exactly if the table has one of its name; otherwise it is put at the end and
joins its groups. Adding columns to an empty table succeeds exactly if their names are different.
-/

namespace RecordSql

namespace Group

variable {name : String} {members : List String} {gs : List Group} {g : Group}

theorem exists_mem_contribute_self (name : String) (members : List String) (gs : List Group) :
    ∃ k ∈ contribute name members gs, k.name = name ∧ ∀ m ∈ members, m ∈ k.members := by
  induction gs with
  | nil => exact ⟨⟨name, members⟩, List.mem_singleton_self _, rfl, fun _ hm => hm⟩
  | cons g gs ih =>
    by_cases hg : g.name = name
    · refine ⟨⟨g.name, g.members ++ members⟩, ?_, hg, fun m hm => List.mem_append_right _ hm⟩
      rw [contribute, if_pos hg]
      exact List.mem_cons_self
    · obtain ⟨k, hk, hn, hm⟩ := ih
      refine ⟨k, ?_, hn, hm⟩
      rw [contribute, if_neg hg]
      exact List.mem_cons_of_mem g hk

theorem exists_mem_contribute_of_mem (name : String) (members : List String) (h : g ∈ gs) :
    ∃ k ∈ contribute name members gs, k.name = g.name ∧ ∀ m ∈ g.members, m ∈ k.members := by
  induction gs with
  | nil => exact absurd h List.not_mem_nil
  | cons k gs ih =>
    by_cases hk : k.name = name
    · rw [contribute, if_pos hk]
      rcases List.mem_cons.mp h with rfl | h
      · exact ⟨_, List.mem_cons_self, rfl, fun m hm => List.mem_append_left _ hm⟩
      · exact ⟨g, List.mem_cons_of_mem _ h, rfl, fun _ hm => hm⟩
    · rw [contribute, if_neg hk]
      rcases List.mem_cons.mp h with rfl | h
      · exact ⟨g, List.mem_cons_self, rfl, fun _ hm => hm⟩
      · obtain ⟨k', hk', hn, hm⟩ := ih h
        exact ⟨k', List.mem_cons_of_mem k hk', hn, hm⟩

end Group

namespace Table

variable {t u : Table} {c : Column} {cs : List Column}

theorem isSome_column?_iff {name : String} :
    (t.column? name).isSome = true ↔ name ∈ t.columnNames := by
  simp [column?, columnNames]

def push (t : Table) (c : Column) : Table :=
  { t with
    columns := t.columns ++ [c]
    primaryKey := t.primaryKey.or (if c.primaryKey then some c.name else none)
    indexes := Group.join c.index c.name t.indexes
    uniques := Group.join c.unique c.name t.uniques }

@[simp] theorem name_push : (t.push c).name = t.name := rfl

@[simp] theorem columns_push : (t.push c).columns = t.columns ++ [c] := rfl

@[simp] theorem columnNames_push : (t.push c).columnNames = t.columnNames ++ [c.name] := by
  simp [columnNames]

theorem addColumn_eq_error_iff {e : Failure} :
    t.addColumn c = .error e ↔
      c.name ∈ t.columnNames ∧ e = .of (.duplicateColumn t.name c.name) := by
  unfold addColumn
  simp only [isSome_column?_iff]
  split
  · next h => simp [h, eq_comm]
  · next h => simp [h]

theorem addColumn_eq_ok_iff : t.addColumn c = .ok u ↔ c.name ∉ t.columnNames ∧ t.push c = u := by
  unfold addColumn
  simp only [isSome_column?_iff]
  split
  · next h => simp [h]
  · next h => simp [h, push]

theorem addColumns_cons_eq_ok_iff :
    t.addColumns (c :: cs) = .ok u ↔ c.name ∉ t.columnNames ∧ (t.push c).addColumns cs = .ok u := by
  rw [addColumns]
  constructor
  · intro h
    cases hc : t.addColumn c with
    | error e =>
      rw [hc] at h
      cases h
    | ok v =>
      obtain ⟨hn, rfl⟩ := addColumn_eq_ok_iff.mp hc
      rw [hc] at h
      exact ⟨hn, h⟩
  · rintro ⟨hn, h⟩
    rw [addColumn_eq_ok_iff.mpr ⟨hn, rfl⟩]
    exact h

/-- Columns are added exactly if their names differ from each other and from those of the table. -/
theorem addColumns_eq_ok_iff (ht : t.columnNames.Nodup) :
    t.addColumns cs = .ok u ↔
      (t.columnNames ++ cs.map (·.name)).Nodup ∧ cs.foldl push t = u := by
  induction cs generalizing t with
  | nil => simp [addColumns, ht]
  | cons c cs ih =>
    rw [addColumns_cons_eq_ok_iff, List.foldl_cons, List.map_cons, List.append_cons]
    by_cases hn : c.name ∈ t.columnNames
    · have hd : ¬ (t.columnNames ++ [c.name] ++ cs.map (·.name)).Nodup := fun hd =>
        List.disjoint_of_nodup_append hd.of_append_left hn List.mem_cons_self
      exact iff_of_false (fun h => h.1 hn) fun h => hd h.1
    · have hp : (t.push c).columnNames.Nodup := by
        rw [columnNames_push, ← List.concat_eq_append]
        exact ht.concat hn
      rw [ih hp, columnNames_push]
      exact and_iff_right hn

theorem addColumns_empty_eq_ok_iff {name : String} :
    (empty name).addColumns cs = .ok u ↔
      (cs.map (·.name)).Nodup ∧ cs.foldl push (empty name) = u := by
  have hn : (empty name).columnNames = [] := rfl
  rw [addColumns_eq_ok_iff (hn ▸ List.nodup_nil), hn, List.nil_append]

theorem name_foldl_push (cs : List Column) (t : Table) : (cs.foldl push t).name = t.name := by
  induction cs generalizing t with
  | nil => rfl
  | cons c cs ih => rw [List.foldl_cons, ih, name_push]

theorem columns_foldl_push (cs : List Column) (t : Table) :
    (cs.foldl push t).columns = t.columns ++ cs := by
  induction cs generalizing t with
  | nil => simp
  | cons c cs ih => rw [List.foldl_cons, ih, columns_push, List.append_assoc, List.singleton_append]

end Table

end RecordSql
