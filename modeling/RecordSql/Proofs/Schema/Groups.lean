import Mathlib.Data.List.Nodup
import RecordSql.Record.Mapping

/-! # Groups of a table

The groups of a mapped table have different names, and each of them has members, which are columns
of the table. Adding a column keeps this, and so does adding all of them.
-/

namespace RecordSql

/-- Groups of different names with members among the given columns. -/
structure Grouped (columns : List String) (gs : List Group) : Prop where
  nodup : (gs.map (·.name)).Nodup
  members_ne_nil : ∀ g ∈ gs, g.members ≠ []
  mem_columns : ∀ g ∈ gs, ∀ c ∈ g.members, c ∈ columns

namespace Group

variable {name : String} {members : List String} {gs hs : List Group}

theorem contribute_of_not_mem (h : name ∉ gs.map (·.name)) :
    contribute name members gs = gs ++ [⟨name, members⟩] := by
  induction gs with
  | nil => rfl
  | cons g gs ih =>
    obtain ⟨hg, hgs⟩ : name ≠ g.name ∧ name ∉ gs.map (·.name) := by simpa using h
    rw [contribute, if_neg (Ne.symm hg), ih hgs, List.cons_append]

theorem map_name_contribute_of_mem (h : name ∈ gs.map (·.name)) :
    (contribute name members gs).map (·.name) = gs.map (·.name) := by
  induction gs with
  | nil => simp at h
  | cons g gs ih =>
    by_cases hg : g.name = name
    · simp [contribute, hg]
    · have hgs : name ∈ gs.map (·.name) := by simpa [Ne.symm hg] using h
      simp [contribute, hg, ih hgs]

theorem nodup_contribute (members : List String) (h : (gs.map (·.name)).Nodup) :
    ((contribute name members gs).map (·.name)).Nodup := by
  by_cases hn : name ∈ gs.map (·.name)
  · rw [map_name_contribute_of_mem hn]
    exact h
  · rw [contribute_of_not_mem hn, List.map_append, List.nodup_append]
    refine ⟨h, by simp, fun a ha b hb he => hn ?_⟩
    obtain rfl : b = name := by simpa using hb
    exact he ▸ ha

theorem mem_contribute {g : Group} (h : g ∈ contribute name members gs) :
    g ∈ gs ∨ g = ⟨name, members⟩ ∨ ∃ k ∈ gs, g = ⟨k.name, k.members ++ members⟩ := by
  induction gs with
  | nil => exact .inr (.inl (by simpa [contribute] using h))
  | cons k gs ih =>
    by_cases hk : k.name = name
    · rw [contribute, if_pos hk, List.mem_cons] at h
      rcases h with rfl | h
      · exact .inr (.inr ⟨k, List.mem_cons_self, rfl⟩)
      · exact .inl (List.mem_cons_of_mem k h)
    · rw [contribute, if_neg hk, List.mem_cons] at h
      rcases h with rfl | h
      · exact .inl List.mem_cons_self
      · rcases ih h with h | h | ⟨k', hk', rfl⟩
        · exact .inl (List.mem_cons_of_mem k h)
        · exact .inr (.inl h)
        · exact .inr (.inr ⟨k', List.mem_cons_of_mem k hk', rfl⟩)

theorem foldl_contribute (h : ((hs ++ gs).map (·.name)).Nodup) :
    gs.foldl (fun hs g => contribute g.name g.members hs) hs = hs ++ gs := by
  induction gs generalizing hs with
  | nil => simp
  | cons g gs ih =>
    have hg : g.name ∉ hs.map (·.name) := fun hm =>
      List.disjoint_of_nodup_append (List.map_append ▸ h) hm List.mem_cons_self
    rw [List.foldl_cons, contribute_of_not_mem hg, ih (by simpa using h), List.append_assoc,
      List.singleton_append]

end Group

namespace Grouped

variable {columns : List String} {name column : String} {members : List String} {gs : List Group}

theorem nil (columns : List String) : Grouped columns [] :=
  ⟨List.nodup_nil, by simp, by simp⟩

theorem mono {more : List String} (h : Grouped columns gs) (hc : ∀ c ∈ columns, c ∈ more) :
    Grouped more gs :=
  ⟨h.nodup, h.members_ne_nil, fun g hg c hm => hc c (h.mem_columns g hg c hm)⟩

theorem contribute (h : Grouped columns gs) (hm : members ≠ [])
    (hc : ∀ c ∈ members, c ∈ columns) : Grouped columns (Group.contribute name members gs) where
  nodup := Group.nodup_contribute members h.nodup
  members_ne_nil g hg := by
    rcases Group.mem_contribute hg with hg | rfl | ⟨k, hk, rfl⟩
    · exact h.members_ne_nil g hg
    · exact hm
    · exact List.append_ne_nil_of_right_ne_nil _ hm
  mem_columns g hg c hcg := by
    rcases Group.mem_contribute hg with hg | rfl | ⟨k, hk, rfl⟩
    · exact h.mem_columns g hg c hcg
    · exact hc c hcg
    · rcases List.mem_append.mp hcg with hk' | hm'
      · exact h.mem_columns k hk c hk'
      · exact hc c hm'

theorem join (h : Grouped columns gs) (g : Grouping) (hc : column ∈ columns) :
    Grouped columns (Group.join g column gs) := by
  unfold Group.join
  split
  · exact h.contribute (List.cons_ne_nil _ _) (by simpa using hc)
  · exact h

end Grouped

namespace Table

def WellGrouped (t : Table) : Prop :=
  Grouped t.columnNames t.indexes ∧ Grouped t.columnNames t.uniques

variable {t u : Table} {c : Column}

theorem WellGrouped.addColumn (ht : t.WellGrouped) (h : t.addColumn c = .ok u) :
    u.WellGrouped := by
  unfold Table.addColumn at h
  split at h
  · cases h
  · cases h
    have hm : ∀ name ∈ t.columnNames, name ∈ (t.columns ++ [c]).map (·.name) := by
      intro name hn
      rw [List.map_append]
      exact List.mem_append_left _ hn
    have hc : c.name ∈ (t.columns ++ [c]).map (·.name) := by simp
    exact ⟨(ht.1.mono hm).join c.index hc, (ht.2.mono hm).join c.unique hc⟩

theorem WellGrouped.addColumns {cs : List Column} (ht : t.WellGrouped)
    (h : t.addColumns cs = .ok u) : u.WellGrouped := by
  induction cs generalizing t with
  | nil =>
    cases h
    exact ht
  | cons c cs ih =>
    rw [Table.addColumns] at h
    cases hc : t.addColumn c with
    | error e => simp [hc, bind, Except.bind] at h
    | ok v =>
      rw [hc] at h
      exact ih (ht.addColumn hc) h

end Table

theorem RecordType.wellGrouped_table {n : Naming} {r : RecordType} {t : Table}
    (h : r.table n = .ok t) : t.WellGrouped := by
  unfold RecordType.table at h
  cases hc : fieldColumns n "" r.fields with
  | error e => simp [hc, bind, Except.bind] at h
  | ok columns =>
    rw [hc] at h
    exact Table.WellGrouped.addColumns ⟨Grouped.nil _, Grouped.nil _⟩ h

end RecordSql
