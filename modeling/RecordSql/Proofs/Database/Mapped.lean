import RecordSql.Proofs.Database.Registry
import RecordSql.Proofs.Database.Sessions

/-! # Mapped tables

As long as records keep their fields, a data source holds no table but those of the naming
convention in force: a convention that is set forgets the tables of the one before. So whatever is
done with the table of a record comes out as if the record was mapped anew.
-/

namespace RecordSql

namespace Source

variable {records : String → RecordType} {s s' : Source} {key : String}

/-- Each table that is held is that of its record under the convention in force. -/
def Current (records : String → RecordType) (s : Source) : Prop :=
  ∀ key entry, s.tables.get? key = some entry → (records key).table s.naming = .ok entry.table

theorem Current.empty (records : String → RecordType) (s : Source) :
    Current records { s with tables := .empty } := nofun

theorem Current.withNaming (records : String → RecordType) (s : Source) (n : Naming) :
    Current records (s.withNaming n) := nofun

theorem Current.put (h : Current records s) {t : Table}
    (ht : (records key).table s.naming = .ok t) :
    Current records { s with tables := (s.tables.put key t).2 } := by
  intro k entry hk
  rw [Registry.get?_put, Function.update_apply] at hk
  split at hk
  · next he =>
    cases hk
    rw [he, ht]
    rfl
  · exact h k entry hk

theorem Current.unmap (h : Current records s) (key : String) :
    Current records (s.unmap key).2 := by
  intro k entry hk
  change (s.tables.unmap key).2.get? k = some entry at hk
  rw [Registry.get?_unmap, Function.update_apply] at hk
  split at hk
  · cases hk
  · exact h k entry hk

/-- A source gives the table of a record under the convention in force, or the failure to map it. -/
def Gives (records : String → RecordType) (s : Source) (key : String) (j : Journal)
    (act : Journal.Act (Registered × Source)) : Prop :=
  (∃ e j', act.run.run j = (.error e, j') ∧ (records key).table s.naming = .error e) ∨
  ∃ entry s' j', act.run.run j = (.ok (entry, s'), j') ∧
    (records key).table s.naming = .ok entry.table ∧ Current records s' ∧
      s'.naming = s.naming ∧ s'.flavor = s.flavor

theorem gives_map (h : Current records s) (key : String) (j : Journal) :
    s.Gives records key j (s.map key (records key)) := by
  obtain ⟨j', hr⟩ := s.tables.exists_run_map s.naming key (records key) j
  cases ht : (records key).table s.naming with
  | error e =>
    rw [ht] at hr
    exact .inl ⟨e, j', Failure.run_bind_error hr _, ht⟩
  | ok t =>
    rw [ht] at hr
    exact .inr ⟨_, _, j', Failure.run_bind hr _, ht, h.put ht, rfl, rfl⟩

theorem gives_autoMap (h : Current records s) (key : String) (j : Journal) :
    s.Gives records key j (s.autoMap key (records key)) := by
  obtain ⟨j', hr⟩ := s.tables.exists_run_getOrMap s.naming key (records key) j
  cases hg : s.tables.get? key with
  | some entry =>
    rw [hg] at hr
    exact .inr ⟨_, _, j', Failure.run_bind hr _, h key entry hg, h, rfl, rfl⟩
  | none =>
    rw [hg] at hr
    dsimp only at hr
    cases ht : (records key).table s.naming with
    | error e =>
      rw [ht] at hr
      exact .inl ⟨e, j', Failure.run_bind_error hr _, ht⟩
    | ok t =>
      rw [ht] at hr
      exact .inr ⟨_, _, j', Failure.run_bind hr _, ht, h.put ht, rfl, rfl⟩

end Source

namespace Desk

def withSource {α : Type} (act : Source → Journal.Act (α × Source)) :
    ExceptT Failure (StateM Desk) α := do
  let d ← get
  let (answer, journal) := (act d.source).run.run d.journal
  set { d with journal := journal }
  let (a, source) ← answer
  modify fun d => { d with source := source }
  return a

variable {α : Type} {act : Source → Journal.Act (α × Source)} {d : Desk} {j : Journal}

theorem run_withSource {a : α} {s : Source}
    (h : (act d.source).run.run d.journal = (.ok (a, s), j)) :
    (withSource act).run.run d = (.ok a, { d with source := s, journal := j }) := by
  rw [withSource, Failure.run_get_bind, h]
  rfl

theorem run_withSource_error {e : Failure}
    (h : (act d.source).run.run d.journal = (.error e, j)) :
    (withSource act).run.run d = (.error e, { d with journal := j }) := by
  rw [withSource, Failure.run_get_bind, h]
  rfl

end Desk

inductive Task
  | autoMap (key : String)
  | map (key : String)
  | unmap (key : String)
  | withNaming (n : Naming)
  | forRecord (key : String)
  | createTableSql (key : String) (ifMissing : Bool)
  | dropTableSql (key : String) (ifPresent : Bool)

namespace Task

inductive Answer
  | table (t : Table)
  | present (b : Bool)
  | done
  | statement (s : Statement)
  | script (sqls : List String)

variable {records : String → RecordType} {d : Desk}

def perform (records : String → RecordType) : Task → ExceptT Failure (StateM Desk) Answer
  | autoMap key => return .table (← Desk.withSource (·.autoMap key (records key))).table
  | map key => return .table (← Desk.withSource (·.map key (records key))).table
  | unmap key => do
    let (present, source) := (← get).source.unmap key
    modify fun d => { d with source := source }
    return .present present
  | withNaming n => do
    modify fun d => { d with source := d.source.withNaming n }
    return .done
  | forRecord key => do
    (Operation.forRecord key (records key)).perform
    return .statement (← get).session.current
  | createTableSql key ifMissing => do
    let sqls ← Desk.withSource (·.createTableSql key (records key) ifMissing)
    return .script (← sqls)
  | dropTableSql key ifPresent => do
    let sql ← Desk.withSource (·.dropTableSql key (records key) ifPresent)
    return .script [← sql]

def on (records : String → RecordType) (task : Task) (d : Desk) : Except Failure Answer × Desk :=
  (task.perform records).run.run d

/-- What comes of a task if every record is mapped anew. -/
def fresh (records : String → RecordType) (d : Desk) : Task → Except Failure Answer
  | autoMap key | map key => do return .table (← (records key).table d.source.naming)
  | unmap key => .ok (.present (d.source.tables.get? key).isSome)
  | withNaming _ => .ok .done
  | forRecord key => do
    let t ← (records key).table d.source.naming
    return .statement (d.session.current.put (.table t))
  | createTableSql key ifMissing => do
    let t ← (records key).table d.source.naming
    return .script (← (Statement.ofTable t).createTableSql d.source.flavor ifMissing)
  | dropTableSql key ifPresent => do
    let t ← (records key).table d.source.naming
    return .script [← (Statement.ofTable t).dropTableSql d.source.flavor ifPresent]

def naming (n : Naming) : Task → Naming
  | withNaming n => n
  | _ => n

/-- An answer and a desk as they are if every record is mapped anew under a convention. -/
structure UpToDate (records : String → RecordType) (n : Naming) (answer : Except Failure Answer)
    (r : Except Failure Answer × Desk) : Prop where
  answer : r.1 = answer
  current : r.2.source.Current records
  naming : r.2.source.naming = n

theorem upToDate_given {act : Source → Journal.Act (Registered × Source)} {key : String}
    (h : d.source.Current records) (hg : d.source.Gives records key d.journal (act d.source)) :
    UpToDate records d.source.naming
      (do return .table (← (records key).table d.source.naming))
      ((do return .table (← Desk.withSource act).table :
        ExceptT Failure (StateM Desk) Answer).run.run d) := by
  rcases hg with ⟨e, j, hr, ht⟩ | ⟨entry, s, j, hr, ht, hs, hn, -⟩
  · rw [Failure.run_bind_error (Desk.run_withSource_error hr), ht]
    exact ⟨rfl, h, rfl⟩
  · rw [Failure.run_bind (Desk.run_withSource hr), ht]
    exact ⟨rfl, hs, hn⟩

theorem upToDate_compiled (h : d.source.Current records) (key : String) {α : Type}
    (compile : Flavor → Table → Except Failure α) (give : α → Answer) :
    UpToDate records d.source.naming
      (do
        let t ← (records key).table d.source.naming
        return give (← compile d.source.flavor t))
      ((do
        let a ← Desk.withSource fun s => do
          let (entry, s) ← s.autoMap key (records key)
          return (compile s.flavor entry.table, s)
        return give (← a) : ExceptT Failure (StateM Desk) Answer).run.run d) := by
  rcases Source.gives_autoMap h key d.journal with
    ⟨e, j, hr, ht⟩ | ⟨entry, s, j, hr, ht, hs, hn, hf⟩
  · rw [Failure.run_bind_error (Desk.run_withSource_error (Failure.run_bind_error hr _)), ht]
    exact ⟨rfl, h, rfl⟩
  · rw [Failure.run_bind (Desk.run_withSource (Failure.run_bind hr _)), ht, ← hf]
    change UpToDate records _ (compile s.flavor entry.table >>= (return give ·)) _
    cases compile s.flavor entry.table <;> exact ⟨rfl, hs, hn⟩

theorem upToDate_forRecord (h : d.source.Current records) (key : String) :
    UpToDate records d.source.naming ((forRecord key).fresh records d)
      ((forRecord key).on records d) := by
  rw [on, perform, fresh]
  rcases Source.gives_autoMap h key d.journal with
    ⟨e, j, hr, ht⟩ | ⟨entry, s, j, hr, ht, hs, hn, -⟩
  · have hf : (d.session.forRecord d.source key (records key)).run.run d.journal =
        (.error e, j) := Failure.run_bind_error hr _
    have ho : (Operation.forRecord key (records key)).perform.run.run d =
        (.error e, { d with journal := j }) := by
      rw [Operation.perform, Failure.run_get_bind, hf]
      rfl
    rw [Failure.run_bind_error ho, ht]
    exact ⟨rfl, h, rfl⟩
  · have hf : (d.session.forRecord d.source key (records key)).run.run d.journal =
        (.ok (d.session.put (.table entry.table), s), j) := Failure.run_bind hr _
    have ho : (Operation.forRecord key (records key)).perform.run.run d =
        (.ok (), ⟨d.session.put (.table entry.table), s, j⟩) := by
      rw [Operation.perform, Failure.run_get_bind, hf]
      rfl
    rw [Failure.run_bind ho, ht]
    exact ⟨rfl, hs, hn⟩

/-- A task comes out as if every record was mapped anew, and the tables that are held stay so. -/
theorem upToDate_on (h : d.source.Current records) (task : Task) :
    UpToDate records (task.naming d.source.naming) (task.fresh records d)
      (task.on records d) := by
  cases task with
  | autoMap key => exact upToDate_given h (Source.gives_autoMap h key d.journal)
  | map key => exact upToDate_given h (Source.gives_map h key d.journal)
  | unmap key => exact ⟨rfl, h.unmap key, rfl⟩
  | withNaming n => exact ⟨rfl, Source.Current.withNaming records d.source n, rfl⟩
  | forRecord key => exact upToDate_forRecord h key
  | createTableSql key ifMissing =>
    exact upToDate_compiled h key
      (fun f t => (Statement.ofTable t).createTableSql f ifMissing) .script
  | dropTableSql key ifPresent =>
    exact upToDate_compiled h key
      (fun f t => (Statement.ofTable t).dropTableSql f ifPresent) fun sql => .script [sql]

end Task

namespace Desk

variable {records : String → RecordType} {d : Desk}

def runTasks (records : String → RecordType) (d : Desk) (tasks : List Task) : Desk :=
  tasks.foldl (fun d task => (task.on records d).2) d

theorem current_runTasks (h : d.source.Current records) (tasks : List Task) :
    (d.runTasks records tasks).source.Current records := by
  induction tasks generalizing d with
  | nil => exact h
  | cons task tasks ih => exact ih (task.upToDate_on h).current

theorem naming_runTasks (h : d.source.Current records) (tasks : List Task) :
    (d.runTasks records tasks).source.naming = tasks.foldl Task.naming d.source.naming := by
  induction tasks generalizing d with
  | nil => rfl
  | cons task tasks ih =>
    rw [List.foldl_cons, ← (task.upToDate_on h).naming]
    exact ih (task.upToDate_on h).current

end Desk

/-- A registry is at any time the finite map that its uses make of an empty one, and the next use is
answered by that map. To map a record in place is to put in place what becomes of the registry when
the record is mapped, which is nothing if that fails. A source that starts without tables holds at any time the tables of its records
under the last convention set, and the next task comes out as if every record was mapped anew. -/
theorem registry_maps (us : List Registry.Use) (records : String → RecordType) (session : Session)
    (source : Source) (tasks : List Task) (j : Journal) :
    (let c := (⟨.empty, j⟩ : Cabinet).run us;
      Shelf.empty.run us = c.shelf ∧ {key | (c.shelf.held? key).isSome}.Finite ∧
        ∀ u : Registry.Use, (u.on c).1 = (c.shelf.use u).1) ∧
    (∀ (n : Naming) (key : String) (record : RecordType) (c : Cabinet),
      (Cabinet.getOrMap n key record).run.run c =
          c.keep ((c.tables.getOrMap n key record).run.run c.journal) ∧
        (Cabinet.map n key record).run.run c =
          c.keep ((c.tables.map n key record).run.run c.journal)) ∧
    let d := (⟨session, { source with tables := .empty }, j⟩ : Desk).runTasks records tasks;
    d.source.naming = tasks.foldl Task.naming source.naming ∧ d.source.Current records ∧
      ∀ task : Task, (task.on records d).1 = task.fresh records d := by
  have hd : (⟨.empty, j⟩ : Cabinet).tables.Distinct := List.nodup_nil
  have hc : (⟨session, { source with tables := .empty }, j⟩ : Desk).source.Current records :=
    Source.Current.empty records source
  refine ⟨⟨Cabinet.run_shelf hd us, ?_, fun u => ?_⟩,
    fun n key record c => ⟨c.run_getOrMap n key record, c.run_map n key record⟩,
    Desk.naming_runTasks hc tasks, Desk.current_runTasks hc tasks,
    fun task => (task.upToDate_on (Desk.current_runTasks hc tasks)).answer⟩
  · exact (Registry.isSome_get?_eq _ ▸ Finset.finite_toSet _ :)
  · rw [(Cabinet.use_shelf (Cabinet.distinct_run hd us) u).1]

end RecordSql
