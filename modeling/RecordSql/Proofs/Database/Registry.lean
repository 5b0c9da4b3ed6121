import Mathlib.Data.Set.Card
import RecordSql.Database.Registry
import RecordSql.Proofs.Database.Exchange

/-! # Registries as finite maps

A registry is a finite map from records to their tables. Mapping a record puts its table in place of
the one there was, and a record that cannot be mapped leaves all tables in place, also where the
registry is worked on in place.
-/

namespace RecordSql

theorem RecordType.exists_run_map (n : Naming) (r : RecordType) (j : Journal) :
    ∃ j', (r.map n).run.run j = (r.table n, j') := by
  rw [RecordType.map]
  cases r.table n with
  | error e => exact ⟨j, rfl⟩
  | ok t => exact ⟨_, rfl⟩

namespace Cabinet

variable {α : Type} {c : Cabinet}

/-- Keep the registry that an answer comes with; a failure comes with none. -/
def keep (c : Cabinet) : Except Failure (α × Registry) × Journal → Except Failure α × Cabinet
  | (.ok (a, tables), j) => (.ok a, ⟨tables, j⟩)
  | (.error e, j) => (.error e, ⟨c.tables, j⟩)

theorem run_withJournal {act : Journal.Act α} {a : Except Failure α} {j : Journal}
    (h : act.run.run c.journal = (a, j)) :
    (withJournal act).run.run c = (a, ⟨c.tables, j⟩) := by
  rw [withJournal, Failure.run_get_bind, h]
  rfl

theorem exists_run_map (n : Naming) (key : String) (record : RecordType) (c : Cabinet) :
    ∃ j, (map n key record).run.run c =
      c.keep ((record.table n).map (c.tables.put key), j) := by
  obtain ⟨j, hm⟩ := record.exists_run_map n c.journal
  refine ⟨j, ?_⟩
  cases ht : record.table n with
  | error e => exact Failure.run_bind_error (run_withJournal (ht ▸ hm)) _
  | ok t => exact Failure.run_bind (run_withJournal (ht ▸ hm)) _

theorem exists_run_getOrMap (n : Naming) (key : String) (record : RecordType) (c : Cabinet) :
    ∃ j, (getOrMap n key record).run.run c =
      c.keep (match c.tables.get? key with
        | some entry => .ok (entry, c.tables)
        | none => (record.table n).map (c.tables.put key), j) := by
  rw [getOrMap, Failure.run_get_bind]
  cases c.tables.get? key with
  | some entry => exact ⟨c.journal, rfl⟩
  | none =>
    obtain ⟨j, hm⟩ := record.exists_run_map n c.journal
    cases ht : record.table n with
    | error e => exact ⟨j, Failure.run_bind_error (run_withJournal (ht ▸ hm)) _⟩
    | ok t => exact ⟨_, Failure.run_bind (run_withJournal (ht ▸ hm)) _⟩

end Cabinet

namespace Registry

variable {α : Type} {r : Registry} {key : String}

/-- What becomes of a registry in place is what its answer comes with. -/
theorem run_work {act : Cabinet.Act α} {j : Journal}
    {x : Except Failure (α × Registry) × Journal}
    (h : act.run.run ⟨r, j⟩ = Cabinet.keep ⟨r, j⟩ x) : (r.work act).run.run j = x := by
  rw [work, Failure.run_get_bind, h]
  rcases x with ⟨e | ⟨a, tables⟩, j'⟩ <;> rfl

theorem exists_run_map (r : Registry) (n : Naming) (key : String) (record : RecordType)
    (j : Journal) :
    ∃ j', (r.map n key record).run.run j = ((record.table n).map (r.put key), j') := by
  obtain ⟨j', h⟩ := Cabinet.exists_run_map n key record ⟨r, j⟩
  exact ⟨j', run_work h⟩

theorem exists_run_getOrMap (r : Registry) (n : Naming) (key : String) (record : RecordType)
    (j : Journal) :
    ∃ j', (r.getOrMap n key record).run.run j =
      (match r.get? key with
        | some entry => .ok (entry, r)
        | none => (record.table n).map (r.put key), j') := by
  obtain ⟨j', h⟩ := Cabinet.exists_run_getOrMap n key record ⟨r, j⟩
  exact ⟨j', run_work h⟩

end Registry

namespace Cabinet

theorem run_map (n : Naming) (key : String) (record : RecordType) (c : Cabinet) :
    (map n key record).run.run c = c.keep ((c.tables.map n key record).run.run c.journal) := by
  obtain ⟨j, h⟩ := exists_run_map n key record c
  rw [Registry.map, Registry.run_work h, h]

theorem run_getOrMap (n : Naming) (key : String) (record : RecordType) (c : Cabinet) :
    (getOrMap n key record).run.run c =
      c.keep ((c.tables.getOrMap n key record).run.run c.journal) := by
  obtain ⟨j, h⟩ := exists_run_getOrMap n key record c
  rw [Registry.getOrMap, Registry.run_work h, h]

end Cabinet

namespace Registry

inductive Use
  | find (key : String)
  | getOrMap (n : Naming) (key : String) (record : RecordType)
  | map (n : Naming) (key : String) (record : RecordType)
  | unmap (key : String)
  | size

inductive Answer
  | found (held? : Option Registered)
  | entry (e : Registered)
  | present (b : Bool)
  | count (n : Nat)

namespace Use

def perform : Use → Cabinet.Act Answer
  | find key => return .found ((← get).tables.get? key)
  | getOrMap n key record => return .entry (← Cabinet.getOrMap n key record)
  | map n key record => return .entry (← Cabinet.map n key record)
  | unmap key => do
    let (present, tables) := (← get).tables.unmap key
    modify fun c => { c with tables := tables }
    return .present present
  | size => return .count (← get).tables.size

def on (u : Use) (c : Cabinet) : Except Failure Answer × Cabinet :=
  u.perform.run.run c

theorem run_entry (act : Cabinet.Act Registered) (c : Cabinet) :
    (return .entry (← act) : Cabinet.Act Answer).run.run c =
      ((act.run.run c).1.map .entry, (act.run.run c).2) := by
  rcases h : act.run.run c with ⟨e | entry, c'⟩
  · exact Failure.run_bind_error h _
  · exact Failure.run_bind h _

end Use

variable {r : Registry} {key : String}

/-! ## A finite map -/

def Distinct (r : Registry) : Prop :=
  (r.entries.map (·.1)).Nodup

theorem lookup_filter (entries : List (String × Registered)) (key k : String) :
    (entries.filter (·.1 != key)).lookup k = if k = key then none else entries.lookup k := by
  induction entries with
  | nil => simp
  | cons e entries ih =>
    by_cases he : e.1 = key
    · rw [List.filter_cons_of_neg (by simpa using he), ih, List.lookup_cons]
      by_cases hk : k = key
      · rw [if_pos hk, if_pos hk]
      · have hb : (k == e.1) = false := by simpa [he] using hk
        rw [hb]
    · rw [List.filter_cons_of_pos (by simpa using he), List.lookup_cons, List.lookup_cons, ih]
      by_cases hk : k = e.1
      · simp [hk, he]
      · have hb : (k == e.1) = false := by simpa using hk
        rw [hb]

theorem get?_put (r : Registry) (key : String) (t : Table) :
    (r.put key t).2.get? = Function.update r.get? key (some (r.put key t).1) := by
  funext k
  rw [get?, put, List.lookup_cons, lookup_filter, Function.update_apply]
  by_cases hk : k = key
  · simp [hk]
  · have hb : (k == key) = false := by simpa using hk
    rw [hb, if_neg hk, if_neg hk]
    rfl

theorem get?_unmap (r : Registry) (key : String) :
    (r.unmap key).2.get? = Function.update r.get? key none := by
  funext k
  rw [Function.update_apply]
  exact lookup_filter r.entries key k

theorem Distinct.filter (h : r.Distinct) (key : String) :
    ((r.entries.filter (·.1 != key)).map (·.1)).Nodup :=
  (List.filter_sublist.map _).nodup h

theorem Distinct.put (h : r.Distinct) (key : String) (t : Table) : (r.put key t).2.Distinct := by
  refine List.nodup_cons.mpr ⟨fun hm => ?_, h.filter key⟩
  obtain ⟨e, he, hk⟩ := List.mem_map.mp hm
  simpa [hk] using (List.mem_filter.mp he).2

theorem Distinct.unmap (h : r.Distinct) (key : String) : (r.unmap key).2.Distinct :=
  h.filter key

theorem isSome_get?_eq (r : Registry) :
    {key | (r.get? key).isSome} = ((r.entries.map (·.1)).toFinset : Set String) := by
  ext key
  rw [Set.mem_ofPred_eq, List.coe_toFinset, Set.mem_ofPred_eq, get?]
  induction r.entries with
  | nil => simp
  | cons e entries ih =>
    rw [List.lookup_cons, List.map_cons, List.mem_cons, ← ih]
    by_cases hk : key = e.1
    · simp [hk]
    · have hb : (key == e.1) = false := by simpa using hk
      rw [hb, or_iff_right hk]

theorem Distinct.size_eq (h : r.Distinct) : r.size = {key | (r.get? key).isSome}.ncard := by
  rw [isSome_get?_eq, Set.ncard_coe_finset, List.toFinset_card_of_nodup h, List.length_map, size]

end Registry

/-- A finite map of tables, and the number of the next one. -/
structure Shelf where
  held? : String → Option Registered
  next : Nat

namespace Shelf

open Registry (Use Answer)

def empty : Shelf := ⟨fun _ => none, 0⟩

def put (m : Shelf) (key : String) : Except Failure Table → Except Failure Answer × Shelf
  | .ok t => (.ok (.entry ⟨m.next, t⟩),
    ⟨Function.update m.held? key (some ⟨m.next, t⟩), m.next + 1⟩)
  | .error e => (.error e, m)

noncomputable def use (m : Shelf) : Use → Except Failure Answer × Shelf
  | .find key => (.ok (.found (m.held? key)), m)
  | .getOrMap n key record =>
    match m.held? key with
    | some entry => (.ok (.entry entry), m)
    | none => m.put key (record.table n)
  | .map n key record => m.put key (record.table n)
  | .unmap key =>
    (.ok (.present (m.held? key).isSome), { m with held? := Function.update m.held? key none })
  | .size => (.ok (.count {key | (m.held? key).isSome}.ncard), m)

noncomputable def run (m : Shelf) (us : List Use) : Shelf :=
  us.foldl (fun m u => (m.use u).2) m

end Shelf

namespace Cabinet

open Registry (Use)

def run (c : Cabinet) (us : List Use) : Cabinet :=
  us.foldl (fun c u => (u.on c).2) c

def shelf (c : Cabinet) : Shelf :=
  ⟨c.tables.get?, c.tables.next⟩

theorem put_shelf {c : Cabinet} (h : c.tables.Distinct) (key : String) (t : Except Failure Table)
    (j : Journal) :
    c.shelf.put key t = ((c.keep (t.map (c.tables.put key), j)).1.map .entry,
      (c.keep (t.map (c.tables.put key), j)).2.shelf) ∧
    (c.keep (t.map (c.tables.put key), j)).2.tables.Distinct := by
  cases t with
  | error e => exact ⟨rfl, h⟩
  | ok t =>
    refine ⟨congrArg (Prod.mk _) ?_, h.put key t⟩
    exact congrArg (Shelf.mk · _) (Registry.get?_put ..).symm

/-- A use of a registry is a use of the finite map that it is. -/
theorem use_shelf {c : Cabinet} (h : c.tables.Distinct) (u : Use) :
    c.shelf.use u = ((u.on c).1, (u.on c).2.shelf) ∧ (u.on c).2.tables.Distinct := by
  cases u with
  | find key => exact ⟨rfl, h⟩
  | getOrMap n key record =>
    obtain ⟨j, hr⟩ := exists_run_getOrMap n key record c
    rw [Use.on, Use.perform, Use.run_entry, hr, Shelf.use, shelf]
    dsimp only
    -- only a record without a table is mapped
    cases c.tables.get? key with
    | some entry => exact ⟨rfl, h⟩
    | none => exact put_shelf h key (record.table n) j
  | map n key record =>
    obtain ⟨j, hr⟩ := exists_run_map n key record c
    rw [Use.on, Use.perform, Use.run_entry, hr]
    exact put_shelf h key (record.table n) j
  | unmap key => exact ⟨by rw [Shelf.use, shelf, ← Registry.get?_unmap]; rfl, h.unmap key⟩
  | size => exact ⟨by rw [Shelf.use, shelf, ← h.size_eq]; rfl, h⟩

theorem distinct_run {c : Cabinet} (h : c.tables.Distinct) (us : List Use) :
    (c.run us).tables.Distinct := by
  induction us generalizing c with
  | nil => exact h
  | cons u us ih => exact ih (use_shelf h u).2

theorem run_shelf {c : Cabinet} (h : c.tables.Distinct) (us : List Use) :
    c.shelf.run us = (c.run us).shelf := by
  induction us generalizing c with
  | nil => rfl
  | cons u us ih =>
    obtain ⟨hu, hd⟩ := use_shelf h u
    rw [Shelf.run, List.foldl_cons, hu]
    exact ih hd

end Cabinet

end RecordSql
