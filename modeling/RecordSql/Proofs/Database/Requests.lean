import Mathlib.Data.List.TakeWhile
import RecordSql.Database.Session
import RecordSql.Proofs.Database.Exchange

/-! # Requests of a session

A request is compiled to calls, and the server receives these calls and no others: none of them if
it speaks another dialect, and those up to the first error otherwise. Only the journal comes in
between, which cannot take down a call whose text is cut inside of a character.
-/

namespace RecordSql

def Call.ofSql (sql : String) : Call :=
  ⟨sql, []⟩

inductive Request
  | query (call : Call)
  | exec (call : Call)
  | find
  | count
  | insert (values : List Value)
  | update (values : List Value)
  | delete
  | createTable (ifMissing : Bool)
  | dropTable (ifPresent : Bool)

namespace Request

def compile (r : Request) (s : Session) (f : Flavor) : Except Failure (List Call) :=
  match r with
  | query call | exec call => .ok [call]
  | find => (s.current.selectSql f).map fun sql => [⟨sql, s.current.params⟩]
  | count => s.current.countSql.map fun sql => [⟨sql, s.current.params⟩]
  | insert values => (s.current.insertSql f values).map ([·])
  | update values => (s.current.updateSql f values).map ([·])
  | delete => (s.current.deleteSql f).map ([·])
  | createTable ifMissing => (s.current.createTableSql f ifMissing).map (·.map Call.ofSql)
  | dropTable ifPresent => (s.current.dropTableSql f ifPresent).map fun sql => [Call.ofSql sql]

def perform (r : Request) (s : Session) (source : Source) : Link.Act Unit :=
  match r with
  | query call => do
    let _ ← Session.query source call
    return ()
  | exec call => do
    let _ ← Session.exec source call
    return ()
  | find => do
    let _ ← s.find source
    return ()
  | count => do
    let _ ← s.count source
    return ()
  | insert values => do
    let _ ← s.insert source values
    return ()
  | update values => do
    let _ ← s.update source values
    return ()
  | delete => do
    let _ ← s.delete source
    return ()
  | createTable ifMissing => s.createTable source ifMissing
  | dropTable ifPresent => s.dropTable source ifPresent

def ask (r : Request) (s : Session) (source : Source) (l : Link) : Except Failure Unit × Link :=
  (r.perform s source).run.run l

end Request

/-- Decide whether a journal can take a call down, as far as it is kept. -/
def Journal.takes (j : Journal) (call : Call) : Bool :=
  !j.kept || (Text.shorten? call.sql).isSome

theorem Journal.takes_congr {j k : Journal} (h : j.kept = k.kept) : j.takes = k.takes := by
  funext call
  rw [takes, takes, h]

namespace Session

variable {α β : Type} {source : Source} {call : Call} {act : Link.Act α} {l : Link}

def gated (source : Source) (call : Call) (act : Link.Act α) : Link.Act α := do
  checkDialect source
  source.noteCall call
  act

theorem run_checkDialect (h : l.server.dialect = source.dialect) :
    (checkDialect source).run.run l = (.ok (), l) := by
  have hb : (l.server.dialect != source.dialect) = false := by simp [h]
  rw [checkDialect, Failure.run_get_bind]
  simp only [hb]
  rfl

theorem run_checkDialect_of_ne (h : l.server.dialect ≠ source.dialect) :
    ∃ journal, (checkDialect source).run.run l =
      (.error (.of (.foreignServer source.dialect l.server.dialect)), ⟨l.server, journal⟩) := by
  have hb : (l.server.dialect != source.dialect) = true := by simp [h]
  rw [checkDialect, Failure.run_get_bind]
  simp only [hb]
  exact ⟨_, rfl⟩

theorem run_noteCall (source : Source) (h : l.journal.takes call = true) :
    ∃ journal, journal.kept = l.journal.kept ∧
      (source.noteCall call).run.run l = (.ok (), ⟨l.server, journal⟩) := by
  rw [Source.noteCall, Failure.run_get_bind]
  cases hk : l.journal.kept with
  | false => exact ⟨l.journal, hk, rfl⟩
  | true =>
    rw [Journal.takes, hk, Bool.not_true, Bool.false_or] at h
    obtain ⟨sql, hs⟩ := Option.isSome_iff_exists.mp h
    rw [hs]
    exact ⟨_, (l.journal.kept_note _ _).trans hk, rfl⟩

theorem run_noteCall_of_not (h : l.journal.takes call = false) :
    (source.noteCall call).run.run l = (.error (.halt .splitCharacter), l) := by
  obtain ⟨hk, hs⟩ : l.journal.kept = true ∧ Text.shorten? call.sql = none := by
    simpa [Journal.takes] using h
  rw [Source.noteCall, Failure.run_get_bind, hk, hs]
  rfl

theorem run_gated_of_ne (h : l.server.dialect ≠ source.dialect) (call : Call)
    (act : Link.Act α) :
    ∃ f journal, (gated source call act).run.run l = (.error f, ⟨l.server, journal⟩) := by
  obtain ⟨journal, hr⟩ := run_checkDialect_of_ne h
  exact ⟨_, journal, Failure.run_bind_error hr _⟩

theorem run_gated_of_not (h : l.server.dialect = source.dialect)
    (ht : l.journal.takes call = false) (act : Link.Act α) :
    (gated source call act).run.run l = (.error (.halt .splitCharacter), l) := by
  rw [gated, Failure.run_bind (run_checkDialect h)]
  exact Failure.run_bind_error (run_noteCall_of_not ht) _

theorem run_gated (h : l.server.dialect = source.dialect) (ht : l.journal.takes call = true)
    (act : Link.Act α) :
    ∃ journal, journal.kept = l.journal.kept ∧
      (gated source call act).run.run l = act.run.run ⟨l.server, journal⟩ := by
  obtain ⟨journal, hk, hr⟩ := run_noteCall source ht
  refine ⟨journal, hk, ?_⟩
  rw [gated, Failure.run_bind (run_checkDialect h), Failure.run_bind hr]

theorem conducts_gated (h : l.server.dialect = source.dialect)
    (ht : l.journal.takes call = true)
    (ha : ∀ m : Link, m.server = l.server → ∃ a, m.Conducts act [call.exchange] a) :
    ∃ a, l.Conducts (gated source call act) [call.exchange] a := by
  obtain ⟨journal, hk, hr⟩ := run_gated h ht act
  obtain ⟨a, journal', hk', ha⟩ := ha ⟨l.server, journal⟩ rfl
  exact ⟨a, journal', hk'.trans hk, hr.trans ha⟩

/-- An action sends calls to a server of the dialect up to the first error, as far as the journal
takes them down, and fails without a call on any other server. -/
structure Delivers (source : Source) (act : Link.Act α) (calls : List Call) (l : Link) : Prop where
  refused : l.server.dialect ≠ source.dialect →
    ∃ f journal, act.run.run l = (.error f, ⟨l.server, journal⟩)
  sent : l.server.dialect = source.dialect → (act.run.run l).2.server.calls = l.server.calls ++
    (Exchange.sent (calls.map Call.exchange) l.server.answers).takeWhile l.journal.takes

namespace Delivers

variable {γ : Type} {calls : List Call} {x : Except Failure γ} {toCalls : γ → List Call}

theorem gated (ha : ∀ m : Link, ∃ a, m.Conducts act [call.exchange] a) :
    Delivers source (gated source call act) [call] l := by
  refine ⟨fun h => run_gated_of_ne h call act, fun h => ?_⟩
  rw [List.map_singleton, Exchange.sent_singleton, Call.call_exchange]
  cases ht : l.journal.takes call with
  | false =>
    rw [run_gated_of_not h ht, List.takeWhile_cons_of_neg (by simp [ht]), List.append_nil]
  | true =>
    obtain ⟨a, journal, -, hr⟩ := conducts_gated h ht fun m _ => ha m
    rw [hr, Link.after_singleton, List.takeWhile_cons_of_pos ht]
    rfl

theorem bind (h : Delivers source act calls l) {next : α → Link.Act β}
    (hn : ∀ a m, ∃ result, (next a).run.run m = (result, m)) :
    Delivers source (act >>= next) calls l := by
  constructor
  · intro hd
    obtain ⟨f, journal, hr⟩ := h.refused hd
    exact ⟨f, journal, Failure.run_bind_error hr next⟩
  · intro hd
    rw [← h.sent hd]
    rcases hr : act.run.run l with ⟨f | a, m⟩
    · rw [Failure.run_bind_error hr]
    · obtain ⟨result, hm⟩ := hn a m
      rw [Failure.run_bind hr, hm]

theorem compiled {act : γ → Link.Act α} (h : x.map toCalls = .ok calls)
    (ha : ∀ c, x = .ok c → Delivers source (act c) (toCalls c) l) :
    Delivers source (do act (← x)) calls l := by
  cases x with
  | error f => cases h
  | ok c =>
    cases h
    exact ha c rfl

end Delivers

theorem run_uncompiled {γ : Type} {x : Except Failure γ} {toCalls : γ → List Call}
    {f : Failure} (h : x.map toCalls = .error f) (act : γ → Link.Act α) (l : Link) :
    (do act (← x) : Link.Act α).run.run l = (.error f, l) := by
  cases x with
  | error f => cases h; rfl
  | ok c => cases h

theorem conducts_exec (h : l.server.dialect = source.dialect)
    (ht : l.journal.takes call = true) :
    ∃ a, l.Conducts (exec source call) [call.exchange] a :=
  conducts_gated h ht fun m _ => ⟨_, m.conducts_execute call⟩

theorem conducts_execAll {sqls : List String} (h : l.server.dialect = source.dialect)
    (ht : ∀ call ∈ Exchange.sent ((sqls.map Call.ofSql).map Call.exchange) l.server.answers,
      l.journal.takes call = true) :
    l.Conducts (execAll source sqls) ((sqls.map Call.ofSql).map Call.exchange) () := by
  induction sqls generalizing l with
  | nil => exact .pure l ()
  | cons sql sqls ih =>
    obtain ⟨a, ha⟩ := conducts_exec h (ht (.ofSql sql) List.mem_cons_self)
    rw [List.map_cons, List.map_cons, ← List.singleton_append]
    refine ha.bind fun he journal hk => ?_
    rw [Exchange.ending?_singleton] at he
    rw [List.map_cons, List.map_cons, Exchange.sent_of_none he] at ht
    rw [Link.after_singleton]
    refine ih h fun call hc => ?_
    rw [Journal.takes_congr hk]
    exact ht call (List.mem_cons_of_mem _ hc)

theorem calls_execAll {sqls : List String} (h : l.server.dialect = source.dialect) :
    ((execAll source sqls).run.run l).2.server.calls = l.server.calls ++
      (Exchange.sent ((sqls.map Call.ofSql).map Call.exchange)
        l.server.answers).takeWhile l.journal.takes := by
  induction sqls generalizing l with
  | nil => exact (List.append_nil _).symm
  | cons sql sqls ih =>
    rw [execAll, List.map_cons, List.map_cons]
    -- a call that the journal cannot take down stops the others, as an error in an answer does
    cases ht : l.journal.takes (.ofSql sql) with
    | false =>
      have hr : (exec source (.ofSql sql)).run.run l = (.error (.halt .splitCharacter), l) :=
        run_gated_of_not h ht _
      rw [← Call.ofSql, Failure.run_bind_error hr, Exchange.sent,
        List.takeWhile_cons_of_neg (by simp [ht]), List.append_nil]
    | true =>
      obtain ⟨a, journal, hk, hr⟩ := conducts_exec h ht
      rw [Exchange.ending?_singleton, Link.after_singleton] at hr
      cases he : (Call.ofSql sql).exchange.failure? (l.server.answers.headD []) with
      | some f =>
        rw [he] at hr
        rw [← Call.ofSql, Failure.run_bind_error hr, Exchange.sent_of_some he, Call.call_exchange,
          List.takeWhile_cons_of_pos ht]
        rfl
      | none =>
        rw [he] at hr
        have hl : Server.dialect ⟨l.server.dialect, l.server.answers.tail,
            l.server.calls ++ [.ofSql sql]⟩ = source.dialect := h
        rw [← Call.ofSql, Failure.run_bind hr, Exchange.sent_of_none he, Call.call_exchange,
          List.takeWhile_cons_of_pos ht, ← Journal.takes_congr hk]
        exact (ih (l := ⟨_, journal⟩) hl).trans (List.append_assoc ..)

theorem Delivers.execAll {sqls : List String} (hne : sqls ≠ []) :
    Delivers source (execAll source sqls) (sqls.map Call.ofSql) l := by
  refine ⟨fun h => ?_, calls_execAll⟩
  cases sqls with
  | nil => exact absurd rfl hne
  | cons sql sqls =>
    obtain ⟨f, journal, hr⟩ := run_gated_of_ne h ⟨sql, []⟩ (Link.execute ⟨sql, []⟩)
    exact ⟨f, journal, Failure.run_bind_error hr _⟩

end Session

namespace Request

variable {r : Request} {s : Session} {source : Source} {l : Link} {calls : List Call} {f : Failure}

theorem exists_compile_eq (h : r.compile s source.flavor = .ok calls)
    (hr : ∀ ifMissing, r ≠ createTable ifMissing) : ∃ call, calls = [call] := by
  have hm : ∀ {γ : Type} {x : Except Failure γ} {toCall : γ → Call},
      (x.map fun c => [toCall c]) = .ok calls → ∃ call, calls = [call] := by
    intro γ x toCall hx
    cases x with
    | error f => cases hx
    | ok c => exact ⟨_, (Except.ok.inj hx).symm⟩
  cases r with
  | query call | exec call => exact ⟨call, (Except.ok.inj h).symm⟩
  | createTable ifMissing => exact absurd rfl (hr ifMissing)
  | find | count | insert _ | update _ | delete | dropTable _ => exact hm h

theorem ask_of_error (h : r.compile s source.flavor = .error f) : r.ask s source l = (.error f, l) := by
  cases r with
  | query call | exec call => cases h
  | find | count | insert _ | update _ | delete =>
    exact Failure.run_bind_error (Session.run_uncompiled h _ l) _
  | createTable _ | dropTable _ => exact Session.run_uncompiled h _ l

theorem delivers_perform (h : r.compile s source.flavor = .ok calls) :
    Session.Delivers source (r.perform s source) calls l := by
  have hd : ∀ {α : Type} (a : α) (m : Link),
      ∃ result, (return () : Link.Act Unit).run.run m = (result, m) := fun _ _ => ⟨_, rfl⟩
  have hq : ∀ call, Session.Delivers source (Session.query source call) [call] l :=
    fun call => .gated fun m => ⟨_, m.conducts_fetch call⟩
  have he : ∀ call, Session.Delivers source (Session.exec source call) [call] l :=
    fun call => .gated fun m => ⟨_, m.conducts_execute call⟩
  cases r with
  | query call =>
    cases h
    exact (hq call).bind hd
  | exec call =>
    cases h
    exact (he call).bind hd
  | find => exact (Session.Delivers.compiled h fun sql _ => hq ⟨sql, s.current.params⟩).bind hd
  | count =>
    refine (Session.Delivers.compiled h fun sql _ => ?_).bind hd
    exact (hq ⟨sql, s.current.params⟩).bind fun rows m => ⟨_, rfl⟩
  | insert _ | update _ | delete =>
    exact (Session.Delivers.compiled h fun call _ => he call).bind hd
  | createTable ifMissing =>
    refine Session.Delivers.compiled h fun sqls hs => .execAll ?_
    -- the table itself is always created, so there is a call to check the dialect for
    rintro rfl
    unfold Statement.createTableSql at hs
    cases ht : s.current.mappedTable with
    | error f =>
      rw [ht] at hs
      cases hs
    | ok t =>
      rw [ht] at hs
      cases hs
  | dropTable ifPresent =>
    exact Session.Delivers.compiled h fun sql _ => .execAll (List.cons_ne_nil sql [])

theorem ask_of_refused
    (h : (∀ calls, r.compile s source.flavor ≠ .ok calls) ∨ l.server.dialect ≠ source.dialect) :
    (∃ f, (r.ask s source l).1 = .error f) ∧
      (r.ask s source l).2.server.calls = l.server.calls := by
  cases hc : r.compile s source.flavor with
  | error f =>
    rw [ask_of_error hc]
    exact ⟨⟨f, rfl⟩, rfl⟩
  | ok calls =>
    obtain ⟨f, journal, hr⟩ := (delivers_perform hc).refused (h.resolve_left fun h => h calls hc)
    rw [ask, hr]
    exact ⟨⟨f, rfl⟩, rfl⟩

theorem calls_ask (hc : r.compile s source.flavor = .ok calls)
    (hd : l.server.dialect = source.dialect)
    (ht : ∀ call ∈ Exchange.sent (calls.map Call.exchange) l.server.answers,
      l.journal.takes call = true) :
    (r.ask s source l).2.server.calls =
      l.server.calls ++ Exchange.sent (calls.map Call.exchange) l.server.answers := by
  rw [ask, (delivers_perform hc).sent hd, List.takeWhile_eq_self_iff.mpr ht]

theorem ask_createTable {ifMissing : Bool}
    (hc : (createTable ifMissing).compile s source.flavor = .ok calls)
    (hd : l.server.dialect = source.dialect)
    (ht : ∀ call ∈ Exchange.sent (calls.map Call.exchange) l.server.answers,
      l.journal.takes call = true) :
    ((createTable ifMissing).ask s source l).1 = Failure.result
      (Exchange.ending? (calls.map Call.exchange) l.server.answers) () := by
  cases hs : s.current.createTableSql source.flavor ifMissing with
  | error f =>
    rw [compile, hs] at hc
    cases hc
  | ok sqls =>
    obtain rfl : sqls.map Call.ofSql = calls := by
      rw [compile, hs] at hc
      exact Except.ok.inj hc
    have ha : (createTable ifMissing).ask s source l =
        (Session.execAll source sqls).run.run l := by
      rw [ask, perform, Session.createTable, hs]
      rfl
    obtain ⟨journal, -, hr⟩ := Session.conducts_execAll hd ht
    rw [ha, hr]

/-- A request sends the server what it is compiled to or nothing: nothing if it cannot be compiled or
the server speaks another dialect. The creation of a table ends with the first error. -/
structure Faithful (r : Request) (s : Session) (source : Source) (l : Link) : Prop where
  refused : (∀ calls, r.compile s source.flavor ≠ .ok calls) ∨ l.server.dialect ≠ source.dialect →
    (∃ f, (r.ask s source l).1 = .error f) ∧ (r.ask s source l).2.server.calls = l.server.calls
  single : (∀ ifMissing, r ≠ createTable ifMissing) → ∀ calls,
    r.compile s source.flavor = .ok calls → l.server.dialect = source.dialect →
      ∃ call, calls = [call] ∧ (r.ask s source l).2.server.calls = l.server.calls ++ [call]
  created : ∀ ifMissing, r = createTable ifMissing → ∀ calls,
    r.compile s source.flavor = .ok calls → l.server.dialect = source.dialect →
      (r.ask s source l).1 = Failure.result
          (Exchange.ending? (calls.map Call.exchange) l.server.answers) () ∧
        (r.ask s source l).2.server.calls =
          l.server.calls ++ Exchange.sent (calls.map Call.exchange) l.server.answers

/-- A request sends the server what it is compiled to, or nothing, exactly if the journal can take
down each call that is to be sent. -/
theorem faithful_iff (r : Request) (s : Session) (source : Source) (l : Link) :
    r.Faithful s source l ↔ ∀ calls, r.compile s source.flavor = .ok calls →
      l.server.dialect = source.dialect →
        ∀ call ∈ Exchange.sent (calls.map Call.exchange) l.server.answers,
          l.journal.takes call = true := by
  constructor
  · intro hf calls hc hd
    have hs := (delivers_perform hc).sent hd
    -- what arrives is the part that the journal takes, so this part is the whole
    have ha : (r.ask s source l).2.server.calls =
        l.server.calls ++ Exchange.sent (calls.map Call.exchange) l.server.answers := by
      by_cases hr : ∃ ifMissing, r = createTable ifMissing
      · obtain ⟨ifMissing, hr⟩ := hr
        exact (hf.created ifMissing hr calls hc hd).2
      · obtain ⟨call, rfl, ha⟩ := hf.single (not_exists.mp hr) calls hc hd
        rw [ha, List.map_singleton, Exchange.sent_singleton, Call.call_exchange]
    have hl := List.append_cancel_left (ha.symm.trans hs)
    exact List.takeWhile_eq_self_iff.mp hl.symm
  · intro ht
    refine ⟨ask_of_refused, fun hr calls hc hd => ?_, ?_⟩
    · obtain ⟨call, rfl⟩ := exists_compile_eq hc hr
      refine ⟨call, rfl, ?_⟩
      rw [calls_ask hc hd (ht _ hc hd), List.map_singleton, Exchange.sent_singleton,
        Call.call_exchange]
    · rintro ifMissing rfl calls hc hd
      exact ⟨ask_createTable hc hd (ht _ hc hd), calls_ask hc hd (ht _ hc hd)⟩

end Request

def accentedSession : Session :=
  ⟨[], { Statement.empty with
    tableName := "t"
    condition := String.ofList (List.replicate 238 'é') }, 1⟩

/-- The select of the session, whose first 497 bytes end inside of a letter. -/
def accentedSelect : Call :=
  ⟨"SELECT * FROM t WHERE " ++ accentedSession.current.condition, []⟩

def keptLink : Link :=
  ⟨⟨.mysql, [], []⟩, .empty true⟩

theorem takes_accentedSelect : keptLink.journal.takes accentedSelect = false := by
  have hs : accentedSelect.sql.toList =
      "SELECT * FROM t WHERE ".toList ++ List.replicate 238 'é' :=
    String.toList_append.trans (congrArg _ String.toList_ofList)
  have ht : Text.takeBytes? Text.shortSize accentedSelect.sql.toList = none := by
    rw [hs]
    decide +kernel
  rw [Journal.takes, Text.shorten?, ht]
  rfl

theorem Request.not_faithful_split :
    find.compile accentedSession .mysql = .ok [accentedSelect] ∧
      find.ask accentedSession (.ofDialect .mysql "") keptLink =
        (.error (.halt .splitCharacter), keptLink) ∧
      ¬ find.Faithful accentedSession (.ofDialect .mysql "") keptLink := by
  have hs : accentedSession.current.selectSql (Source.ofDialect .mysql "").flavor =
      .ok accentedSelect.sql := by decide +kernel
  have hc : find.compile accentedSession (Source.ofDialect .mysql "").flavor =
      .ok [accentedSelect] := by
    rw [compile, hs]
    rfl
  have hf : accentedSession.find (.ofDialect .mysql "") =
      Session.query (.ofDialect .mysql "") accentedSelect := by
    rw [Session.find, hs]
    rfl
  have hr : find.ask accentedSession (.ofDialect .mysql "") keptLink =
      (.error (.halt .splitCharacter), keptLink) := by
    refine Failure.run_bind_error ?_ _
    rw [hf]
    exact Session.run_gated_of_not rfl takes_accentedSelect _
  refine ⟨hc, hr, fun h => ?_⟩
  obtain ⟨call, -, hcalls⟩ := h.single (fun _ => by simp) _ hc rfl
  rw [hr] at hcalls
  cases hcalls

end RecordSql
