import RecordSql.Proofs.Database.Requests
import RecordSql.Proofs.Sql.Filters

/-! # Sessions at work

A session is worked on by operations, any of which may fail. It starts a statement each time that it
is told to and keeps the statements before; the position of the next parameter is always behind the
parameters of the current statement, and an operation that fails leaves all of this as it was.
-/

namespace RecordSql

inductive Operation
  | newStatement
  | forRecord (key : String) (record : RecordType)
  | put (c : Clause)
  | filter (condition : Condition) (args : List Value)
  | selectSql
  | ask (r : Request) (server : Server)

structure Desk where
  session : Session
  source : Source
  journal : Journal

namespace Operation

def isNew : Operation → Bool
  | newStatement => true
  | _ => false

def perform : Operation → ExceptT Failure (StateM Desk) Unit
  | newStatement => modify fun d => { d with session := d.session.newStatement }
  | forRecord key record => do
    let d ← get
    let (answer, journal) := (d.session.forRecord d.source key record).run.run d.journal
    set { d with journal := journal }
    let (session, source) ← answer
    set { d with session := session, source := source, journal := journal }
  | put c => modify fun d => { d with session := d.session.put c }
  | filter condition args => do
    let d ← get
    let (answer, session) := (Session.refilter d.source.flavor condition args).run.run d.session
    set { d with session := session }
    answer
  | selectSql => do
    let d ← get
    let _ ← d.session.current.selectSql d.source.flavor
    return ()
  | ask r server => do
    let d ← get
    let (answer, link) := r.ask d.session d.source ⟨server, d.journal⟩
    set { d with journal := link.journal }
    answer

def on (op : Operation) (d : Desk) : Except Failure Unit × Desk :=
  op.perform.run.run d

end Operation

def Desk.run (d : Desk) (ops : List Operation) : Desk :=
  ops.foldl (fun d op => (op.on d).2) d

namespace Session

variable {s : Session}

/-- The next parameter is behind those of the current statement. -/
def Counted (s : Session) : Prop :=
  s.next = 1 + s.current.params.length

theorem counted_put (h : s.Counted) (c : Clause) : (s.put c).Counted := by
  cases c <;> exact h

theorem run_refilter (f : Flavor) (condition : Condition) (args : List Value) (s : Session) :
    (∃ e, (refilter f condition args).run.run s = (.error e, s)) ∨
      ∃ written params, (refilter f condition args).run.run s =
        (.ok (), { s with
          current := { s.current with condition := written, params := params }
          next := 1 + params.length }) := by
  rw [refilter, Failure.run_get_bind]
  rcases Statement.Draft.run_filter f condition args ⟨s.current, s.next⟩ with
    ⟨e, next, hr⟩ | ⟨written, params, hr⟩
  · rw [hr]
    exact .inl ⟨e, rfl⟩
  · rw [hr]
    exact .inr ⟨written, params, rfl⟩

/-- What an operation makes of a session: nothing when it fails, and otherwise a session that has
started a statement or one with the same statements before the current one. -/
inductive Moves (s : Session) : Bool → Except Failure Unit → Session → Prop
  | failed (e : Failure) : Moves s false (.error e) s
  | started : Moves s true (.ok ()) s.newStatement
  | changed {t : Session} (he : t.earlier = s.earlier) (hc : s.Counted → t.Counted) :
    Moves s false (.ok ()) t

theorem Moves.eq_of_error {started : Bool} {e : Failure} {t : Session}
    (h : s.Moves started (.error e) t) : t = s := by
  cases h
  rfl

theorem Moves.counted {started : Bool} {r : Except Failure Unit} {t : Session}
    (h : s.Moves started r t) (hs : s.Counted) : t.Counted := by
  cases h with
  | failed e => exact hs
  | started => rfl
  | changed _ hc => exact hc hs

theorem Moves.earlier_eq {started : Bool} {r : Except Failure Unit} {t : Session}
    (h : s.Moves started r t) : t.earlier = if started then s.statements else s.earlier := by
  cases h with
  | failed e => rfl
  | started => rfl
  | changed he _ => exact he

end Session

namespace Operation

variable {op : Operation} {d : Desk}

theorem on_filter (condition : Condition) (args : List Value) (d : Desk) :
    (filter condition args).on d =
      match d.session.filter d.source.flavor condition args with
      | .ok s => (.ok (), { d with session := s })
      | .error e => (.error e, d) := by
  rw [on, perform, Session.filter, Failure.run_get_bind]
  rcases Session.run_refilter d.source.flavor condition args d.session with
    ⟨e, hr⟩ | ⟨written, params, hr⟩
  all_goals
    rw [hr]
    rfl

theorem moves_on (op : Operation) (d : Desk) :
    d.session.Moves op.isNew (op.on d).1 (op.on d).2.session := by
  cases op with
  | newStatement => exact .started
  | put c => exact .changed rfl fun h => Session.counted_put h c
  | forRecord key record =>
    rw [on, perform, Failure.run_get_bind]
    rcases hr : (d.source.autoMap key record).run.run d.journal with ⟨e | ⟨entry, source⟩, journal⟩
    · have hf : (d.session.forRecord d.source key record).run.run d.journal =
          (.error e, journal) := Failure.run_bind_error hr _
      simp only [hf]
      exact .failed e
    · have hf : (d.session.forRecord d.source key record).run.run d.journal =
          (.ok (d.session.put (.table entry.table), source), journal) := Failure.run_bind hr _
      simp only [hf]
      exact .changed rfl fun h => Session.counted_put h _
  | filter condition args =>
    -- the only operation that can fail when it is already at work on the statement
    rw [on_filter, Session.filter]
    rcases Session.run_refilter d.source.flavor condition args d.session with
      ⟨e, hr⟩ | ⟨written, params, hr⟩
    · rw [hr]
      exact .failed e
    · rw [hr]
      exact .changed rfl fun _ => rfl
  | selectSql =>
    rw [on, perform, Failure.run_get_bind]
    cases d.session.current.selectSql d.source.flavor with
    | error e => exact .failed e
    | ok sql => exact .changed rfl id
  | ask r server =>
    rw [on, perform, Failure.run_get_bind]
    rcases r.ask d.session d.source ⟨server, d.journal⟩ with ⟨e | a, link⟩
    · exact .failed e
    · exact .changed rfl id

end Operation

namespace Desk

def started (ops : List Operation) : Nat :=
  ops.countP Operation.isNew

variable {d : Desk} {ops before after : List Operation}

theorem run_cons (d : Desk) (op : Operation) (ops : List Operation) :
    d.run (op :: ops) = (op.on d).2.run ops := rfl

theorem run_append (d : Desk) (before after : List Operation) :
    d.run (before ++ after) = (d.run before).run after :=
  List.foldl_append

theorem counted_run (h : d.session.Counted) : (d.run ops).session.Counted := by
  induction ops generalizing d with
  | nil => exact h
  | cons op ops ih => exact ih ((op.moves_on d).counted h)

theorem length_earlier_run :
    (d.run ops).session.earlier.length = d.session.earlier.length + started ops := by
  induction ops generalizing d with
  | nil => rfl
  | cons op ops ih =>
    rw [run_cons, ih, (op.moves_on d).earlier_eq, started, started, List.countP_cons]
    cases op.isNew with
    | true =>
      rw [if_pos rfl, if_pos rfl, Session.statements, List.length_append, List.length_singleton]
      omega
    | false => rw [if_neg Bool.false_ne_true, if_neg Bool.false_ne_true, Nat.add_zero]

theorem earlier_prefix_run : d.session.earlier <+: (d.run ops).session.earlier := by
  induction ops generalizing d with
  | nil => exact List.prefix_rfl
  | cons op ops ih =>
    refine List.IsPrefix.trans ?_ ih
    rw [(op.moves_on d).earlier_eq]
    split
    · exact List.prefix_append _ _
    · exact List.prefix_rfl

/-- A statement stays as it is when the next one is started. -/
theorem statements_run_append (hd : d.session.earlier = []) (before after : List Operation) :
    (d.run (before ++ .newStatement :: after)).session.statements[started before]? =
      some (d.run before).session.current := by
  have hl : (d.run before).session.earlier.length = started before := by
    rw [length_earlier_run, hd, List.length_nil, Nat.zero_add]
  have hp : (d.run before).session.statements <+:
      (d.run (before ++ .newStatement :: after)).session.earlier := by
    rw [run_append, run_cons]
    exact earlier_prefix_run (d := ((Operation.newStatement).on (d.run before)).2)
  have hs : (d.run before).session.statements[started before]? =
      some (d.run before).session.current := by
    rw [Session.statements, ← hl, List.getElem?_concat_length]
  obtain ⟨rest, hr⟩ := hp.trans (List.prefix_append _ [_])
  obtain ⟨hl, -⟩ := List.getElem?_eq_some_iff.mp hs
  rw [Session.statements, ← hr, List.getElem?_append_left hl, hs]

theorem exists_started {k : Nat} (hk : k < started ops) :
    ∃ before after, ops = before ++ .newStatement :: after ∧ started before = k := by
  induction ops generalizing k with
  | nil => exact absurd hk (Nat.not_lt_zero k)
  | cons op ops ih =>
    cases op with
    | newStatement =>
      cases k with
      | zero => exact ⟨[], ops, rfl, rfl⟩
      | succ k =>
        rw [started, List.countP_cons_of_pos rfl] at hk
        obtain ⟨before, after, rfl, rfl⟩ := ih (Nat.lt_of_succ_lt_succ hk)
        exact ⟨.newStatement :: before, after, rfl, List.countP_cons_of_pos rfl⟩
    | _ =>
      obtain ⟨before, after, rfl, rfl⟩ := ih hk
      exact ⟨_ :: before, after, rfl, rfl⟩

/-- A session has a statement for each that was started besides the one it is made with. Each statement
but the last is what it was when the next one was started, the position of the next parameter is
behind the parameters of the last one, and an operation that fails changes nothing of it. -/
structure Kept (d : Desk) (ops : List Operation) : Prop where
  length_eq : (d.run ops).session.statements.length = 1 + started ops
  earlier : ∀ k < started ops, ∃ before after, ops = before ++ .newStatement :: after ∧
    started before = k ∧ (d.run ops).session.statements[k]? = some (d.run before).session.current
  counted : (d.run ops).session.next = 1 + (d.run ops).session.current.params.length
  failed : ∀ (op : Operation) (e : Failure), (op.on (d.run ops)).1 = .error e →
    (op.on (d.run ops)).2.session = (d.run ops).session

theorem kept_run (source : Source) (journal : Journal) (ops : List Operation) :
    Kept ⟨.empty, source, journal⟩ ops := by
  refine ⟨?_, fun k hk => ?_, counted_run rfl, fun op e he => ?_⟩
  · rw [Session.statements, List.length_append, length_earlier_run, List.length_singleton]
    exact (Nat.add_comm _ _).trans (congrArg _ (Nat.zero_add _))
  · obtain ⟨before, after, rfl, rfl⟩ := exists_started hk
    exact ⟨before, after, rfl, rfl, statements_run_append rfl before after⟩
  · have hm := op.moves_on (run ⟨.empty, source, journal⟩ ops)
    rw [he] at hm
    exact hm.eq_of_error

end Desk

end RecordSql
