import RecordSql.Proofs.Record.Places
import RecordSql.Proofs.Schema.Additions

/-! # Flattening records

The table of a record has the columns of its leaves in the order of their declaration. A record
nested in an extended field could as well be written in the place of the field: the table is the
same, apart from the paths of its columns.
-/

namespace RecordSql

/-! ## Paths -/

theorem foldl_fieldPath (path : String) (h : path ≠ "") (fs : List Field) :
    fs.foldl (fun path f => fieldPath path f.name) path =
      ".".intercalate (path :: fs.map Field.name) := by
  induction fs generalizing path with
  | nil => simp
  | cons f fs ih =>
    have hp : fieldPath path f.name = path ++ "." ++ f.name := if_neg h
    have hn : fieldPath path f.name ≠ "" := by
      rw [hp]
      simp [h]
    rw [List.foldl_cons, ih _ hn, List.map_cons, String.intercalate_cons_cons, hp]
    cases fs with
    | nil => simp
    | cons g fs =>
      simp only [List.map_cons, String.intercalate_cons_cons, String.append_assoc]

theorem mem_fieldPlaces_iff {p : Place} {fs : List Field} :
    p ∈ fieldPlaces fs ↔ ∃ f ∈ fs, p ∈ f.places := by
  induction fs with
  | nil => simp [fieldPlaces]
  | cons f fs ih => simp [fieldPlaces, ih]

theorem Place.pathIn_empty {p : Place} {fs : List Field} (h : ∀ f ∈ fs, f.name ≠ "")
    (hp : p ∈ fieldPlaces fs) : p.pathIn "" = p.path := by
  obtain ⟨f, hf, hp⟩ := mem_fieldPlaces_iff.mp hp
  obtain ⟨gs, hg⟩ : ∃ gs, p.outer ++ [p.field] = f :: gs := by
    rw [f.places_eq, List.mem_cons, List.mem_map] at hp
    rcases hp with rfl | ⟨q, -, rfl⟩
    · exact ⟨[], rfl⟩
    · exact ⟨q.outer ++ [q.field], rfl⟩
  have hn : fieldPath "" f.name = f.name := if_pos rfl
  rw [pathIn, path, hg, List.foldl_cons, hn, foldl_fieldPath f.name (h f hf), List.map_cons]

/-! ## Columns without their paths -/

def Column.withoutPath (c : Column) : Column :=
  { c with field := "" }

namespace Table

def withoutPaths (t : Table) : Table :=
  { t with columns := t.columns.map Column.withoutPath }

theorem withoutPaths_push (t : Table) (c : Column) :
    (t.push c).withoutPaths = t.withoutPaths.push c.withoutPath := by
  rw [withoutPaths, columns_push, List.map_append]
  rfl

theorem withoutPaths_foldl_push (t : Table) (cs : List Column) :
    (cs.foldl push t).withoutPaths = (cs.map Column.withoutPath).foldl push t.withoutPaths := by
  induction cs generalizing t with
  | nil => rfl
  | cons c cs ih => rw [List.foldl_cons, ih, withoutPaths_push, List.map_cons, List.foldl_cons]

end Table

theorem name_map_withoutPath (cs : List Column) :
    (cs.map Column.withoutPath).map (·.name) = cs.map (·.name) := by
  rw [List.map_map]
  rfl

theorem withoutPath_leafColumns_congr (n : Naming) (outer outer' : String) (fs : List Field) :
    (leafColumns n outer fs).map Column.withoutPath =
      (leafColumns n outer' fs).map Column.withoutPath := by
  simp [leafColumns, Column.withoutPath]

/-! ## Extended fields in their place -/

/-- Fields turn into others if one of them, at any depth, is an extended record and gives way to the
fields nested in it. -/
inductive Inlines : List Field → List Field → Prop
  | here {name : String} {line : Option String} {fs rest : List Field} :
      (Field.mk name (.composite fs) line).isExtended = true →
        Inlines (.mk name (.composite fs) line :: rest) (fs ++ rest)
  | later {f : Field} {fs gs : List Field} : Inlines fs gs → Inlines (f :: fs) (f :: gs)
  | inside {name : String} {line : Option String} {fs gs rest : List Field} : Inlines fs gs →
      Inlines (.mk name (.composite fs) line :: rest) (.mk name (.composite gs) line :: rest)

namespace Inlines

variable {fs gs : List Field}

theorem allSound_iff (h : Inlines fs gs) : AllSound fs ↔ AllSound gs := by
  induction h with
  | @here name line fs rest he =>
    have hs : (Field.mk name (.composite fs) line).IsSound :=
      ⟨Field.isSome_directives?_of_isExtended he, fun _ => ⟨fs, rfl⟩⟩
    rw [allSound_cons_iff, allSound_append_iff, allSound_singleton_iff]
    simp only [hs, he, true_and, forall_const]
    rfl
  | @later f fs gs _ ih => rw [allSound_cons_iff, allSound_cons_iff f gs, ih]
  | @inside name line fs gs rest _ ih =>
    have hs : (Field.mk name (.composite fs) line).IsSound ↔
        (Field.mk name (.composite gs) line).IsSound :=
      ⟨fun h => ⟨h.wellFormed, fun _ => ⟨gs, rfl⟩⟩, fun h => ⟨h.wellFormed, fun _ => ⟨fs, rfl⟩⟩⟩
    rw [allSound_cons_iff, allSound_cons_iff _ rest, allSound_singleton_iff,
      allSound_singleton_iff, hs]
    exact and_congr_left' (and_congr_right' (imp_congr_right fun _ => ih))

theorem withoutPath_leafColumns (h : Inlines fs gs) (n : Naming) (outer outer' : String) :
    (leafColumns n outer fs).map Column.withoutPath =
      (leafColumns n outer' gs).map Column.withoutPath := by
  -- nested fields move to another path, so that the induction is over all pairs of outer paths
  induction h generalizing outer outer' with
  | @here name line fs rest he =>
    have hx := Field.isExcluded_of_isExtended he
    rw [leafColumns_cons, leafColumns_append, leafColumns_singleton, hx, he, List.map_append,
      List.map_append, withoutPath_leafColumns_congr n outer outer' rest]
    exact congrArg (· ++ _) (withoutPath_leafColumns_congr ..)
  | @later f fs gs _ ih =>
    rw [leafColumns_cons, leafColumns_cons n outer' f gs, List.map_append, List.map_append,
      ih outer outer', withoutPath_leafColumns_congr n outer outer']
  | @inside name line fs gs rest _ ih =>
    rw [leafColumns_cons, leafColumns_cons _ _ _ rest, List.map_append, List.map_append,
      withoutPath_leafColumns_congr n outer outer' rest, leafColumns_singleton,
      leafColumns_singleton]
    congr 1
    have hx : (Field.mk name (.composite fs) line).isExcluded =
        (Field.mk name (.composite gs) line).isExcluded := rfl
    have he : (Field.mk name (.composite fs) line).isExtended =
        (Field.mk name (.composite gs) line).isExtended := rfl
    rw [hx, he, Field.column_congr n name line (k := .composite fs) (l := .composite gs) rfl]
    split
    · rfl
    · split
      · exact ih _ _
      · rfl

end Inlines

/-! ## The table of a record -/

namespace RecordType

variable {n : Naming} {r s : RecordType} {t : Table}

theorem table_eq_ok_iff :
    r.table n = .ok t ↔ AllSound r.fields ∧ ((leafColumns n "" r.fields).map (·.name)).Nodup ∧
      (leafColumns n "" r.fields).foldl Table.push (Table.empty (n.toTable r.name)) = t := by
  have hc := fieldColumns_eq_ok_iff n r.fields ""
  have ht : r.table n = .ok t ↔ ∃ cs, fieldColumns n "" r.fields = .ok cs ∧
      (Table.empty (n.toTable r.name)).addColumns cs = .ok t := by
    unfold table
    cases fieldColumns n "" r.fields <;> simp [bind, Except.bind]
  simp only [ht, hc, Table.addColumns_empty_eq_ok_iff]
  constructor
  · rintro ⟨_, ⟨hs, rfl⟩, hd⟩
    exact ⟨hs, hd⟩
  · rintro ⟨hs, hd⟩
    exact ⟨_, ⟨hs, rfl⟩, hd⟩

theorem exists_table (hn : s.name = r.name) (hs : AllSound r.fields → AllSound s.fields)
    (hc : (leafColumns n "" r.fields).map Column.withoutPath =
      (leafColumns n "" s.fields).map Column.withoutPath) (h : r.table n = .ok t) :
    ∃ u, s.table n = .ok u ∧ u.withoutPaths = t.withoutPaths := by
  obtain ⟨ha, hd, rfl⟩ := table_eq_ok_iff.mp h
  refine ⟨_, table_eq_ok_iff.mpr ⟨hs ha, ?_, rfl⟩, ?_⟩
  · rwa [← name_map_withoutPath, ← hc, name_map_withoutPath]
  · rw [Table.withoutPaths_foldl_push, Table.withoutPaths_foldl_push, hc, hn]

theorem table_inlined (hn : s.name = r.name) (h : Inlines r.fields s.fields) :
    (s.table n).toOption.map Table.withoutPaths = (r.table n).toOption.map Table.withoutPaths := by
  have hc := h.withoutPath_leafColumns n "" ""
  cases hr : r.table n with
  | ok t =>
    obtain ⟨u, hu, ht⟩ := exists_table hn h.allSound_iff.mp hc hr
    rw [hu]
    exact congrArg some ht
  | error e =>
    cases hs : s.table n with
    | error e => rfl
    | ok t =>
      obtain ⟨u, hu, -⟩ := exists_table hn.symm h.allSound_iff.mpr hc.symm hs
      rw [hr] at hu
      cases hu

end RecordType

/-- The table of a record whose fields have names: it exists exactly if all fields that are reached
are sound and their leaves give columns of different names, which then are its columns, each with
its path. -/
theorem table_flattened {r : RecordType} (h : ∀ f ∈ r.fields, f.name ≠ "") (n : Naming) :
    ((∃ t, r.table n = .ok t) ↔ (∀ p ∈ reached r.fields, p.field.IsSound) ∧
        ((leaves r.fields).map fun p => (p.field.column n).name).Nodup) ∧
      (∀ t, r.table n = .ok t → t.name = n.toTable r.name ∧
        t.columns = (leaves r.fields).map fun p => { p.field.column n with field := p.path }) ∧
      ∀ s : RecordType, s.name = r.name → Inlines r.fields s.fields →
        (s.table n).toOption.map Table.withoutPaths =
          (r.table n).toOption.map Table.withoutPaths := by
  have hl : ∀ p ∈ leaves r.fields, p.pathIn "" = p.path := fun p hp =>
    Place.pathIn_empty h (List.mem_of_mem_filter (List.mem_of_mem_filter hp))
  have hc : leafColumns n "" r.fields =
      (leaves r.fields).map fun p => { p.field.column n with field := p.path } :=
    List.map_congr_left fun p hp => by rw [hl p hp]
  have hn : (leafColumns n "" r.fields).map (·.name) =
      (leaves r.fields).map fun p => (p.field.column n).name := by
    rw [leafColumns, List.map_map]
    rfl
  refine ⟨?_, ?_, fun s => RecordType.table_inlined⟩
  · simp only [RecordType.table_eq_ok_iff, hn, exists_and_left, exists_eq', and_true]
    rfl
  · rintro t ht
    obtain ⟨-, -, rfl⟩ := RecordType.table_eq_ok_iff.mp ht
    rw [Table.columns_foldl_push, Table.name_foldl_push, hc]
    exact ⟨rfl, rfl⟩

def nestedRecord : RecordType :=
  ⟨"customer", [.mk "id" .bigInt none,
    .mk "address" (.composite [.mk "street" .text none, .mk "zip" .text (some "index")])
      (some "extends"),
    .mk "token" .text (some "-")]⟩

def flatRecord : RecordType :=
  ⟨"customer", [.mk "id" .bigInt none, .mk "street" .text none, .mk "zip" .text (some "index"),
    .mk "token" .text (some "-")]⟩

def nestedTable : Table :=
  { Table.empty "customer" with
    columns := [
      { Column.ofType "id" .bigint with
        primaryKey := true, autoIncrement := true, nullable := false },
      { Column.ofType "street" .varchar with field := "address.street" },
      { Column.ofType "zip" .varchar with field := "address.zip", index := .single }]
    primaryKey := some "id"
    indexes := [⟨"zip", ["zip"]⟩] }

theorem table_flattened_nested :
    nestedRecord.table .same = .ok nestedTable ∧
      (∀ p ∈ reached nestedRecord.fields, p.field.IsSound) ∧
      nestedTable.columns = ((leaves nestedRecord.fields).map fun p =>
        { p.field.column .same with field := p.path }) ∧
      (flatRecord.table .same).toOption.map Table.withoutPaths = some nestedTable.withoutPaths := by
  have ht : nestedRecord.table .same = .ok nestedTable := by decide +kernel
  obtain ⟨hs, hc, hi⟩ := table_flattened (r := nestedRecord)
    (by simp [nestedRecord, Field.name]) .same
  refine ⟨ht, (hs.mp ⟨_, ht⟩).1, (hc _ ht).2, ?_⟩
  rw [hi flatRecord rfl (.later (.here (by decide +kernel))), ht]
  rfl

def hiddenField : Field :=
  .mk "b" .int (some "not")

def hidingField : Field :=
  .mk "a" (.composite [hiddenField]) none

theorem hidden_not_read :
    (∃ t, (RecordType.mk "record" [hidingField]).table .same = .ok t) ∧
      ∃ p ∈ fieldPlaces [hidingField],
        (∀ f ∈ p.outer, f.isExcluded = false) ∧ p.field.directives? = none := by
  refine ⟨⟨(Table.empty "record").push (Column.ofType "a" .text), by decide +kernel⟩,
    ⟨[hidingField], hiddenField⟩, ?_, by decide, by decide +kernel⟩
  exact List.mem_cons_of_mem _ List.mem_cons_self

end RecordSql
