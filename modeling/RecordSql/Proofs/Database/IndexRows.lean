import RecordSql.Proofs.Database.Indexes
import RecordSql.Proofs.Schema.History

/-! # Rows gathered to indexes

A row of the catalog about an index with a name, other than the primary key, makes an index of one
column by itself. The indexes read from rows are what these make up: one for each group, in the order
in which the groups occur first, with all columns of the group in order and the uniqueness of the
first row.
-/

namespace RecordSql.Catalog

def indexName? (r : Row) : Option String :=
  (r.get 0).written?.filter fun name => name ≠ "" ∧ name ≠ "PRIMARY"

def isUnique (r : Row) : Bool :=
  (r.get 1).written? != some "YES" && (r.get 1).written? != some "1"

def single? (table : String) (r : Row) : Option Index :=
  (indexName? r).map fun name => ⟨groupName table name, isUnique r, [bareName (cell r 2)]⟩

/-- The name of an index of a table is reduced to the group that it is made for, if that group has a
name; any other name stays as it is. -/
inductive Reduces (table : String) : String → String → Prop
  | made {group : String} (h : group ≠ "") (unique : Bool) :
    Reduces table (Flavor.indexName table group unique) group
  | other {name : String}
    (h : ∀ group, group ≠ "" → ∀ unique, name ≠ Flavor.indexName table group unique) :
    Reduces table name name

/-- Indexes gather single ones: they are the groups that these make up, each of them as unique as the
first single index of its group, and have as many columns in all as there are single ones. -/
structure Gathers (singles is : List Index) : Prop where
  groups_eq : is.map Index.group = Group.collect (singles.map Index.group)
  unique_eq : ∀ i ∈ is, (singles.find? (·.name = i.name)).map (·.unique) = some i.unique
  length_eq : (is.map (·.columns.length)).sum = singles.length

variable {table name column : String} {r : Row} {singles is : List Index} {i : Index}

/-! ## Names -/

theorem eq_append_of_dropStart? {start s rest : List Char}
    (h : groupName.dropStart? start s = some rest) : s = start ++ rest := by
  induction start generalizing s with
  | nil => simpa [groupName.dropStart?] using h
  | cons c start ih =>
    cases s with
    | nil => cases h
    | cons d s =>
      rw [groupName.dropStart?] at h
      split at h
      · next hc => rw [hc, ih h, List.cons_append]
      · cases h

theorem groupName_cases (table name : String) :
    (∃ group, group ≠ "" ∧ ∃ unique, name = Flavor.indexName table group unique) ∨
      groupName table name = name := by
  unfold groupName
  dsimp only
  split
  · next group hg =>
    obtain ⟨ho, hne⟩ := Option.filter_eq_some_iff.mp hg
    have hr : ∀ {start : String}, ((groupName.dropStart? start.toList name.toList).bind fun rest =>
        (groupName.dropStart? (table.toList ++ ['_']) rest).map String.ofList) = some group →
        name = start ++ table ++ "_" ++ group := by
      intro start h
      obtain ⟨rest, hs, h⟩ := Option.bind_eq_some_iff.mp h
      obtain ⟨rest', ht, rfl⟩ := Option.map_eq_some_iff.mp h
      rw [← String.toList_inj, eq_append_of_dropStart? hs, eq_append_of_dropStart? ht]
      simp
    refine .inl ⟨group, by simpa using hne, ?_⟩
    rcases Option.or_eq_some_iff.mp ho with h | ⟨-, h⟩
    · exact ⟨false, hr h⟩
    · exact ⟨true, hr h⟩
  · exact .inr rfl

theorem groupName_eq_iff {group : String} :
    groupName table name = group ↔ Reduces table name group := by
  constructor
  · rintro rfl
    by_cases hm : ∃ group, group ≠ "" ∧ ∃ unique, name = Flavor.indexName table group unique
    · obtain ⟨group, hg, unique, rfl⟩ := hm
      rw [groupName_indexName table hg unique]
      exact .made hg unique
    · rw [(groupName_cases table name).resolve_left hm]
      exact .other fun group hg unique he => hm ⟨group, hg, unique, he⟩
  · rintro (⟨h, unique⟩ | h)
    · exact groupName_indexName table h unique
    · refine (groupName_cases table name).resolve_left ?_
      rintro ⟨group, hg, unique, he⟩
      exact h group hg unique he

/-! ## Steps -/

theorem name_single? (h : single? table r = some i) :
    ∃ name, indexName? r = some name ∧
      i = ⟨groupName table name, isUnique r, [bareName (cell r 2)]⟩ := by
  obtain ⟨name, hn, rfl⟩ := Option.map_eq_some_iff.mp h
  exact ⟨name, hn, rfl⟩

theorem addIndexRow_eq (table : String) (is : List Index) (r : Row) :
    addIndexRow table is r = match single? table r with
      | none => is
      | some i => contribute i.name i.unique (bareName (cell r 2)) is := by
  unfold addIndexRow single? indexName?
  cases hr : (r.get 0).written? with
  | none => rfl
  | some name =>
    by_cases hn : name = "" ∨ name = "PRIMARY"
    · have hf : (some name).filter (fun name => decide (name ≠ "" ∧ name ≠ "PRIMARY")) = none := by
        simpa [Option.filter, imp_iff_not_or] using hn
      have hc : (decide (name = "") || decide (name = "PRIMARY")) = true := by simpa using hn
      rw [hf]
      exact if_pos hc
    · have hf : (some name).filter (fun name => decide (name ≠ "" ∧ name ≠ "PRIMARY")) =
          some name := by simpa [Option.filter] using not_or.mp hn
      have hc : ¬ (decide (name = "") || decide (name = "PRIMARY")) = true := by simpa using hn
      rw [hf]
      exact if_neg hc

theorem mem_contribute {unique : Bool} (h : i ∈ contribute name unique column is) :
    (∃ j ∈ is, j.name = i.name ∧ j.unique = i.unique) ∨
      name ∉ is.map (·.name) ∧ i = ⟨name, unique, [column]⟩ := by
  induction is with
  | nil => exact .inr ⟨List.not_mem_nil, by simpa [contribute] using h⟩
  | cons j is ih =>
    rw [contribute] at h
    split at h
    · rcases List.mem_cons.mp h with rfl | h
      · exact .inl ⟨j, List.mem_cons_self, rfl, rfl⟩
      · exact .inl ⟨i, List.mem_cons_of_mem j h, rfl, rfl⟩
    · next hj =>
      rcases List.mem_cons.mp h with rfl | h
      · exact .inl ⟨i, List.mem_cons_self, rfl, rfl⟩
      · rcases ih h with ⟨k, hk, he⟩ | ⟨hn, rfl⟩
        · exact .inl ⟨k, List.mem_cons_of_mem j hk, he⟩
        · exact .inr ⟨by simpa [Ne.symm hj] using hn, rfl⟩

theorem sum_length_contribute (name : String) (unique : Bool) (column : String)
    (is : List Index) :
    ((contribute name unique column is).map (·.columns.length)).sum =
      (is.map (·.columns.length)).sum + 1 := by
  induction is with
  | nil => rfl
  | cons i is ih =>
    rw [contribute]
    split
    · simp only [List.map_cons, List.sum_cons, List.length_append, List.length_singleton]
      omega
    · simp only [List.map_cons, List.sum_cons, ih]
      omega

theorem Gathers.map_name (h : Gathers singles is) :
    is.map (·.name) = (singles.map (·.name)).eraseDups := by
  have hn : ∀ js : List Index, js.map (·.name) = (js.map Index.group).map (·.name) := fun js => by
    rw [List.map_map]
    rfl
  rw [hn, h.groups_eq, Group.map_name_collect, ← hn]

/-- A further single index adds its column to its group. -/
theorem Gathers.contribute (h : Gathers singles is) (hi : i.columns = [column]) :
    Gathers (singles ++ [i]) (contribute i.name i.unique column is) where
  groups_eq := by
    have hg : i.group = ⟨i.name, [column]⟩ := by rw [Index.group, hi]
    rw [map_group_contribute, h.groups_eq, List.map_append, List.map_singleton,
      Group.collect_concat, hg]
  unique_eq j hj := by
    rw [List.find?_append]
    rcases mem_contribute hj with ⟨k, hk, hn, hu⟩ | ⟨hn, rfl⟩
    · have hf := h.unique_eq k hk
      rw [hn, hu] at hf
      obtain ⟨f, hf, hfu⟩ := Option.map_eq_some_iff.mp hf
      rw [hf, Option.some_or, Option.map_some, hfu]
    · have hf : singles.find? (·.name = i.name) = none := by
        rw [List.find?_eq_none]
        intro k hk he
        rw [h.map_name, List.mem_eraseDups] at hn
        exact hn (List.mem_map.mpr ⟨k, hk, by simpa using he⟩)
      simp [hf]
  length_eq := by
    rw [sum_length_contribute, h.length_eq, List.length_append, List.length_singleton]

theorem gathers_readIndexes (table : String) (rows : List Row) :
    Gathers (rows.filterMap (single? table)) (readIndexes table rows) := by
  induction rows using List.reverseRecOn with
  | nil => exact ⟨rfl, by simp [readIndexes], rfl⟩
  | append_singleton rows r ih =>
    have hr : readIndexes table (rows ++ [r]) = addIndexRow table (readIndexes table rows) r := by
      rw [readIndexes, List.foldl_append]
      rfl
    rw [hr, addIndexRow_eq, List.filterMap_append]
    cases hs : single? table r with
    | none => simpa [hs] using ih
    | some i =>
      obtain ⟨name, -, rfl⟩ := name_single? hs
      simpa [hs] using ih.contribute rfl

/-! ## Reading from a server -/

end RecordSql.Catalog
