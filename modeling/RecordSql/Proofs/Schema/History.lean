import Mathlib.Data.List.Induction
import RecordSql.Proofs.Schema.Additions
import RecordSql.Proofs.Schema.Groups

/-! # History of a table

A table is built by adding columns and indexes, some of which are refused. It is determined by those
that were accepted, in order: they give its columns, its primary key, and the groups with their
members.
-/

namespace RecordSql

namespace Group

variable {name : String} {names : List String} {gs : List Group} {g : Group}

theorem eraseDups_concat (names : List String) (name : String) :
    (names ++ [name]).eraseDups =
      if name ∈ names then names.eraseDups else names.eraseDups ++ [name] := by
  rw [List.eraseDups_append]
  split
  · next h => simp [List.removeAll, h]
  · next h => simp [List.removeAll, h, List.eraseDups_cons]

theorem nodup_eraseDups (names : List String) : names.eraseDups.Nodup := by
  induction names using List.reverseRecOn with
  | nil => exact List.nodup_nil
  | append_singleton names name ih =>
    rw [eraseDups_concat]
    split
    · exact ih
    · next h =>
      rw [← List.concat_eq_append]
      exact ih.concat fun hm => h (List.mem_eraseDups.mp hm)

/-- The groups that contributions make up: one of each name, in the order in which the names occur
first, with the members of all contributions of its name in order. -/
def collect (gs : List Group) : List Group :=
  (gs.map (·.name)).eraseDups.map fun name =>
    ⟨name, (gs.filter (·.name = name)).flatMap (·.members)⟩

theorem map_name_collect (gs : List Group) :
    (collect gs).map (·.name) = (gs.map (·.name)).eraseDups := by
  rw [collect, List.map_map]
  exact List.map_id _

theorem contribute_map_of_mem (hd : names.Nodup) (hn : name ∈ names) (f : String → List String)
    (members : List String) :
    contribute name members (names.map fun n => ⟨n, f n⟩) =
      names.map fun n => ⟨n, f n ++ if name = n then members else []⟩ := by
  induction names with
  | nil => exact absurd hn List.not_mem_nil
  | cons n names ih =>
    obtain ⟨hnn, hd⟩ := List.nodup_cons.mp hd
    rw [List.map_cons, List.map_cons, contribute]
    by_cases he : n = name
    · subst he
      rw [if_pos rfl, if_pos rfl]
      congr 1
      refine List.map_congr_left fun k hk => ?_
      have hk : n ≠ k := fun h => hnn (h ▸ hk)
      rw [if_neg hk, List.append_nil]
    · have hm : name ∈ names := (List.mem_cons.mp hn).resolve_left (Ne.symm he)
      rw [if_neg he, if_neg (Ne.symm he), List.append_nil, ih hd hm]

theorem collect_concat (gs : List Group) (g : Group) :
    collect (gs ++ [g]) = contribute g.name g.members (collect gs) := by
  have hf : ∀ name, ((gs ++ [g]).filter (·.name = name)).flatMap (·.members) =
      (gs.filter (·.name = name)).flatMap (·.members) ++
        if g.name = name then g.members else [] := by
    intro name
    rw [List.filter_append, List.flatMap_append]
    split <;> simp [*]
  rw [collect, List.map_append, List.map_singleton, eraseDups_concat]
  simp only [hf]
  split
  · next h =>
    -- the name is there, and its group gets the members
    exact (contribute_map_of_mem (nodup_eraseDups _) (List.mem_eraseDups.mpr h) _ _).symm
  · next h =>
    -- the name is new, so that no contribution in front has members for its group
    have hn : g.name ∉ (collect gs).map (·.name) := by
      rw [map_name_collect, List.mem_eraseDups]
      exact h
    have hg : gs.filter (·.name = g.name) = [] := by
      refine List.filter_eq_nil_iff.mpr fun k hk he => h ?_
      exact List.mem_map.mpr ⟨k, hk, of_decide_eq_true he⟩
    rw [contribute_of_not_mem hn, List.map_append, List.map_singleton, if_pos rfl, hg,
      List.flatMap_nil, List.nil_append, collect]
    congr 1
    refine List.map_congr_left fun name hm => ?_
    have he : g.name ≠ name := fun he => h (he ▸ List.mem_eraseDups.mp hm)
    rw [if_neg he, List.append_nil]

end Group

namespace Column

def grouping (c : Column) (unique : Bool) : Grouping :=
  if unique then c.unique else c.index

/-- A column of a table that an index was added to: the index regroups the columns it names. -/
def regrouped (c : Column) (i : Index) : Column :=
  if c.name ∈ i.columns then
    if i.unique then { c with unique := i.grouping c.name }
    else { c with index := i.grouping c.name }
  else c

@[simp] theorem name_regrouped (c : Column) (i : Index) : (c.regrouped i).name = c.name := by
  unfold regrouped
  split
  · split <;> rfl
  · rfl

theorem primaryKey_regrouped (c : Column) (i : Index) :
    (c.regrouped i).primaryKey = c.primaryKey := by
  unfold regrouped
  split
  · split <;> rfl
  · rfl

theorem group?_regrouped (c : Column) (i : Index) (unique : Bool) :
    ((c.regrouped i).grouping unique).group? c.name =
      if c.name ∈ i.columns ∧ i.unique = unique then some i.name
      else (c.grouping unique).group? c.name := by
  have hi : (i.grouping c.name).group? c.name = some i.name := by
    unfold Index.grouping
    split
    · next h =>
      obtain ⟨-, he⟩ : i.columns.length = 1 ∧ i.name = c.name := by simpa using h
      rw [he]
      rfl
    · rfl
  unfold regrouped
  by_cases hc : c.name ∈ i.columns
  · cases hu : i.unique <;> cases unique <;> simp [hc, grouping, hi]
  · simp [hc]

end Column

/-! ## Calls that add to a table -/

inductive Addition
  | column (c : Column)
  | index (i : Index)

namespace Addition

def columns (as : List Addition) : List Column :=
  as.filterMap fun
    | column c => some c
    | index _ => none

def regroup (c : Column) : Addition → Column
  | column _ => c
  | index i => c.regrouped i

def regrouped : List Addition → List Column
  | [] => []
  | column c :: as => as.foldl regroup c :: regrouped as
  | index _ :: as => regrouped as

/-- What an addition contributes to the indexes or to the uniqueness groups of its table: a column
itself to the group that it names, and an index its columns to its own group. -/
def contribution? (unique : Bool) : Addition → Option Group
  | column c => ((c.grouping unique).group? c.name).map fun name => ⟨name, [c.name]⟩
  | index i => if i.unique = unique then some ⟨i.name, i.columns⟩ else none

def contributions (unique : Bool) (as : List Addition) : List Group :=
  as.filterMap (contribution? unique)

variable {as : List Addition}

theorem regrouped_concat_column (as : List Addition) (c : Column) :
    regrouped (as ++ [column c]) = regrouped as ++ [c] := by
  induction as with
  | nil => rfl
  | cons a as ih => cases a <;> simp [regrouped, regroup, ih]

theorem regrouped_concat_index (as : List Addition) (i : Index) :
    regrouped (as ++ [index i]) = (regrouped as).map (·.regrouped i) := by
  induction as with
  | nil => rfl
  | cons a as ih => cases a <;> simp [regrouped, regroup, ih]

theorem columns_append (as bs : List Addition) : columns (as ++ bs) = columns as ++ columns bs :=
  List.filterMap_append

theorem contributions_append (unique : Bool) (as bs : List Addition) :
    contributions unique (as ++ bs) = contributions unique as ++ contributions unique bs :=
  List.filterMap_append

theorem map_key_regrouped (as : List Addition) :
    (regrouped as).map (fun c => (c.name, c.primaryKey)) =
      (columns as).map fun c => (c.name, c.primaryKey) := by
  induction as using List.reverseRecOn with
  | nil => rfl
  | append_singleton as a ih =>
    rw [columns_append, List.map_append, ← ih]
    cases a with
    | column d =>
      rw [regrouped_concat_column, List.map_append]
      rfl
    | index i =>
      have hi : columns [index i] = [] := rfl
      rw [regrouped_concat_index, List.map_map, hi, List.map_nil, List.append_nil]
      simp [Function.comp_def, Column.primaryKey_regrouped]

theorem exists_of_mem_regrouped {c : Column} (h : c ∈ regrouped as) :
    ∃ d ∈ columns as, c.primaryKey = d.primaryKey := by
  have hm := List.mem_map_of_mem (f := fun c : Column => (c.name, c.primaryKey)) h
  rw [map_key_regrouped] at hm
  obtain ⟨d, hd, he⟩ := List.mem_map.mp hm
  exact ⟨d, hd, (Prod.mk.inj he).2.symm⟩

end Addition

namespace Table

variable {t u : Table} {as : List Addition} {a : Addition} {c : Column} {i : Index} {name : String}

def groups (t : Table) (unique : Bool) : List Group :=
  if unique then t.uniques else t.indexes

def add (t : Table) : Addition → Except Failure Table
  | .column c => t.addColumn c
  | .index i => .ok (t.addIndex i)

def call (t : Table) (a : Addition) : Table :=
  match t.add a with
  | .ok u => u
  | .error _ => t

def run (t : Table) (calls : List Addition) : Table :=
  calls.foldl call t

def accepted (t : Table) : List Addition → List Addition
  | [] => []
  | a :: calls =>
    match t.add a with
    | .ok u => a :: u.accepted calls
    | .error _ => t.accepted calls

/-- Each column of a table is a member of the groups that it names, in the indexes or in the
uniqueness groups. -/
def Joined (t : Table) (unique : Bool) : Prop :=
  ∀ c ∈ t.columns, ∀ group, (c.grouping unique).group? c.name = some group →
    ∃ g ∈ t.groups unique, g.name = group ∧ c.name ∈ g.members

/-- A table is what accepted additions made of the empty table of a name: its columns are theirs and
are found by their different names, the first of them that is a key gives the primary key, the
groups collect what was contributed, and each column is a member of the groups that it names. -/
structure HasHistory (t : Table) (name : String) (as : List Addition) : Prop where
  name_eq : t.name = name
  columns_eq : t.columns = Addition.regrouped as
  columnNames_eq : t.columnNames = (Addition.columns as).map (·.name)
  nodup : t.columnNames.Nodup
  column?_eq : ∀ c ∈ t.columns, t.column? c.name = some c
  primaryKey_eq : t.primaryKey = ((Addition.columns as).find? (·.primaryKey)).map (·.name)
  groups_eq : ∀ unique, t.groups unique = Group.collect (Addition.contributions unique as)
  joined : ∀ unique, t.Joined unique

theorem columns_addIndex (t : Table) (i : Index) :
    (t.addIndex i).columns = t.columns.map (·.regrouped i) := by
  unfold addIndex
  cases hu : i.unique <;> simp [Column.regrouped, hu]

theorem columnNames_addIndex (t : Table) (i : Index) :
    (t.addIndex i).columnNames = t.columnNames := by
  simp [columnNames, columns_addIndex]

theorem groups_addIndex (t : Table) (i : Index) (unique : Bool) :
    (t.addIndex i).groups unique =
      if i.unique = unique then Group.contribute i.name i.columns (t.groups unique)
      else t.groups unique := by
  unfold addIndex groups
  cases i.unique <;> cases unique <;> rfl

theorem groups_push (t : Table) (c : Column) (unique : Bool) :
    (t.push c).groups unique = Group.join (c.grouping unique) c.name (t.groups unique) := by
  cases unique <;> rfl

theorem column?_of_nodup (h : t.columnNames.Nodup) (hc : c ∈ t.columns) :
    t.column? c.name = some c := by
  obtain ⟨d, hd⟩ := Option.isSome_iff_exists.mp
    (isSome_column?_iff.mpr (List.mem_map_of_mem (f := Column.name) hc))
  have hn : d.name = c.name := by simpa using List.find?_some hd
  rw [hd, List.inj_on_of_nodup_map h (List.mem_of_find?_eq_some hd) hc hn]

theorem Joined.push {unique : Bool} (h : t.Joined unique) (c : Column) :
    (t.push c).Joined unique := by
  intro d hd group hg
  rw [groups_push]
  unfold Group.join
  rw [columns_push, List.mem_append, List.mem_singleton] at hd
  rcases hd with hd | rfl
  · obtain ⟨g, hm, hn, hdg⟩ := h d hd group hg
    split
    · next other _ =>
      obtain ⟨k, hk, hkn, hkm⟩ := Group.exists_mem_contribute_of_mem other [c.name] hm
      exact ⟨k, hk, hkn.trans hn, hkm _ hdg⟩
    · exact ⟨g, hm, hn, hdg⟩
  · obtain ⟨k, hk, hkn, hkm⟩ := Group.exists_mem_contribute_self group [d.name] (t.groups unique)
    rw [hg]
    exact ⟨k, hk, hkn, hkm _ (List.mem_singleton_self _)⟩

theorem Joined.addIndex {unique : Bool} (h : t.Joined unique) (i : Index) :
    (t.addIndex i).Joined unique := by
  intro d hd group hg
  rw [columns_addIndex] at hd
  obtain ⟨c, hc, rfl⟩ := List.mem_map.mp hd
  rw [Column.name_regrouped, Column.group?_regrouped] at hg
  rw [Column.name_regrouped, groups_addIndex]
  by_cases hu : i.unique = unique
  · rw [if_pos hu]
    by_cases hm : c.name ∈ i.columns
    · obtain ⟨k, hk, hkn, hkm⟩ :=
        Group.exists_mem_contribute_self i.name i.columns (t.groups unique)
      rw [if_pos ⟨hm, hu⟩, Option.some.injEq] at hg
      exact ⟨k, hk, hkn.trans hg, hkm _ hm⟩
    · rw [if_neg fun hi => hm hi.1] at hg
      obtain ⟨g, hgm, hn, hcg⟩ := h c hc group hg
      obtain ⟨k, hk, hkn, hkm⟩ := Group.exists_mem_contribute_of_mem i.name i.columns hgm
      exact ⟨k, hk, hkn.trans hn, hkm _ hcg⟩
  · rw [if_neg hu]
    rw [if_neg fun hi => hu hi.2] at hg
    exact h c hc group hg

namespace HasHistory

theorem empty (name : String) : HasHistory (Table.empty name) name [] where
  name_eq := rfl
  columns_eq := rfl
  columnNames_eq := rfl
  nodup := List.nodup_nil
  column?_eq := by simp [Table.empty]
  primaryKey_eq := rfl
  groups_eq unique := by cases unique <;> rfl
  joined := by simp [Joined, Table.empty]

theorem push (h : HasHistory t name as) (hc : c.name ∉ t.columnNames) :
    HasHistory (t.push c) name (as ++ [.column c]) := by
  have hd : (t.push c).columnNames.Nodup := by
    rw [columnNames_push, ← List.concat_eq_append]
    exact h.nodup.concat hc
  refine ⟨h.name_eq, ?_, ?_, hd, fun _ => column?_of_nodup hd, ?_, ?_,
    fun unique => (h.joined unique).push c⟩
  · rw [columns_push, Addition.regrouped_concat_column, h.columns_eq]
  · rw [columnNames_push, Addition.columns_append, h.columnNames_eq]
    simp [Addition.columns]
  · rw [Addition.columns_append, List.find?_append, Option.map_or, ← h.primaryKey_eq]
    cases hk : c.primaryKey <;> simp [Table.push, Addition.columns, hk]
  · intro unique
    rw [groups_push, Addition.contributions_append, h.groups_eq]
    unfold Group.join
    cases hg : (c.grouping unique).group? c.name with
    | none => simp [Addition.contributions, Addition.contribution?, hg]
    | some group =>
      simp [Addition.contributions, Addition.contribution?, hg, Group.collect_concat]

theorem addIndex (h : HasHistory t name as) (i : Index) :
    HasHistory (t.addIndex i) name (as ++ [.index i]) := by
  have hd : (t.addIndex i).columnNames.Nodup := by
    rw [columnNames_addIndex]
    exact h.nodup
  refine ⟨?_, ?_, ?_, hd, fun _ => column?_of_nodup hd, ?_, ?_,
    fun unique => (h.joined unique).addIndex i⟩
  · rw [← h.name_eq]
    unfold Table.addIndex
    split <;> rfl
  · rw [columns_addIndex, Addition.regrouped_concat_index, h.columns_eq]
  · rw [columnNames_addIndex, Addition.columns_append, h.columnNames_eq]
    simp [Addition.columns]
  · have hc : Addition.columns [.index i] = [] := rfl
    rw [Addition.columns_append, hc, List.append_nil, ← h.primaryKey_eq]
    unfold Table.addIndex
    split <;> rfl
  · intro unique
    rw [groups_addIndex, Addition.contributions_append, h.groups_eq]
    by_cases hu : i.unique = unique <;>
      simp [Addition.contributions, Addition.contribution?, hu, Group.collect_concat]

/-- An accepted addition extends the history of a table. -/
theorem add (h : HasHistory t name as) (ha : t.add a = .ok u) : HasHistory u name (as ++ [a]) := by
  cases a with
  | column c =>
    obtain ⟨hc, rfl⟩ := addColumn_eq_ok_iff.mp ha
    exact h.push hc
  | index i =>
    cases ha
    exact h.addIndex i

theorem addColumns {cs : List Column} (h : HasHistory t name as) (ha : t.addColumns cs = .ok u) :
    HasHistory u name (as ++ cs.map .column) := by
  induction cs generalizing as t with
  | nil =>
    cases ha
    simpa using h
  | cons c cs ih =>
    obtain ⟨hc, ha⟩ := addColumns_cons_eq_ok_iff.mp ha
    rw [List.map_cons, List.append_cons]
    exact ih (h.push hc) ha

theorem run (h : HasHistory t name as) (calls : List Addition) :
    HasHistory (t.run calls) name (as ++ t.accepted calls) := by
  induction calls generalizing as t with
  | nil => simpa [Table.accepted, Table.run] using h
  | cons a calls ih =>
    rw [Table.run, List.foldl_cons, ← Table.run, Table.call, Table.accepted]
    cases ha : t.add a with
    | error e => exact ih h
    | ok u =>
      rw [List.append_cons]
      exact ih (h.add ha)

theorem primaryKey_eq_false (h : HasHistory t name as) (hk : t.primaryKey = none)
    (hc : c ∈ t.columns) : c.primaryKey = false := by
  rw [h.primaryKey_eq, Option.map_eq_none_iff, List.find?_eq_none] at hk
  rw [h.columns_eq] at hc
  obtain ⟨d, hd, he⟩ := Addition.exists_of_mem_regrouped hc
  rw [he]
  simpa using hk d hd

theorem exists_primaryKey (h : HasHistory t name as) {key : String} (hk : t.primaryKey = some key) :
    ∃ c ∈ t.columns, c.name = key ∧ c.primaryKey = true := by
  rw [h.primaryKey_eq] at hk
  obtain ⟨d, hd, rfl⟩ := Option.map_eq_some_iff.mp hk
  have hm := List.mem_map_of_mem (f := fun c : Column => (c.name, c.primaryKey))
    (List.mem_of_find?_eq_some hd)
  rw [← Addition.map_key_regrouped, ← h.columns_eq] at hm
  obtain ⟨c, hc, he⟩ := List.mem_map.mp hm
  exact ⟨c, hc, (Prod.mk.inj he).1, (Prod.mk.inj he).2.trans (by simpa using List.find?_some hd)⟩

end HasHistory

/-- Calls that add columns and indexes to an empty table leave what the accepted ones made of it. A
column is refused exactly if there is one of its name, which leaves the table as it is, and a
primary key stays the same for all further calls. -/
theorem run_empty_hasHistory (name : String) (calls : List Addition) :
    HasHistory ((empty name).run calls) name ((empty name).accepted calls) ∧
      (∀ c, (∀ e, ((empty name).run calls).add (.column c) = .error e ↔
            (∃ d ∈ ((empty name).run calls).columns, d.name = c.name) ∧
              e = .of (.duplicateColumn name c.name)) ∧
          ((∃ d ∈ ((empty name).run calls).columns, d.name = c.name) →
            (empty name).run (calls ++ [.column c]) = (empty name).run calls)) ∧
      ∀ more key, ((empty name).run calls).primaryKey = some key →
        ((empty name).run (calls ++ more)).primaryKey = some key := by
  have h := (HasHistory.empty name).run calls
  have hm : ∀ c : Column, c.name ∈ ((empty name).run calls).columnNames ↔
      ∃ d ∈ ((empty name).run calls).columns, d.name = c.name := fun c => List.mem_map
  have hr : ∀ more, (empty name).run (calls ++ more) = ((empty name).run calls).run more :=
    fun more => List.foldl_append
  refine ⟨h, fun c => ⟨fun e => ?_, fun hc => ?_⟩, fun more key hk => ?_⟩
  · rw [add, addColumn_eq_error_iff, h.name_eq, hm]
  · have he := addColumn_eq_error_iff.mpr ⟨(hm c).mpr hc, rfl⟩
    rw [hr, run, List.foldl_cons, List.foldl_nil, call, add, he]
  · rw [hr, (h.run more).primaryKey_eq, Addition.columns_append, List.find?_append, Option.map_or,
      ← h.primaryKey_eq, hk, Option.some_or]

example : ((empty "t").run [.column { Column.ofType "a" .int with index := .single },
    .column { Column.ofType "b" .int with index := .named "a" }, .index ⟨"a", false, ["b"]⟩,
    .column (Column.ofType "a" .text)]).indexes = [⟨"a", ["a", "b", "b"]⟩] := by
  decide

end Table

theorem RecordType.exists_hasHistory_table {n : Naming} {r : RecordType} {t : Table}
    (h : r.table n = .ok t) : ∃ as, t.HasHistory (n.toTable r.name) as := by
  unfold RecordType.table at h
  cases hc : fieldColumns n "" r.fields with
  | error e => simp [hc, bind, Except.bind] at h
  | ok columns =>
    rw [hc] at h
    exact ⟨_, (Table.HasHistory.empty _).addColumns h⟩

theorem Table.exists_hasHistory {t : Table}
    (h : (∃ name calls, (Table.empty name).run calls = t) ∨
      ∃ (n : Naming) (r : RecordType), r.table n = .ok t) : ∃ name as, t.HasHistory name as := by
  rcases h with ⟨name, calls, rfl⟩ | ⟨n, r, hr⟩
  · exact ⟨name, _, (HasHistory.empty name).run calls⟩
  · exact ⟨_, RecordType.exists_hasHistory_table hr⟩

end RecordSql
