import RecordSql.Database.Server

/-! # Exchanges with a server

Calls are sent one by one, and each of them takes the next answer in store. The first answer that
gives rise to a failure ends the exchanges: its call is the last one that is sent.
-/

namespace RecordSql

def Failure.result {α : Type} (failure? : Option Failure) (a : α) : Except Failure α :=
  match failure? with
  | some f => .error f
  | none => .ok a

namespace Failure

variable {α : Type} {f : Failure} {a : α}

@[simp] theorem result_none (a : α) : result none a = .ok a := rfl

@[simp] theorem result_some (f : Failure) (a : α) : result (some f) a = .error f := rfl

variable {σ β : Type} {s s' : σ} {act : ExceptT Failure (StateM σ) α}

theorem run_bind (h : act.run.run s = (.ok a, s')) (next : α → ExceptT Failure (StateM σ) β) :
    (act >>= next).run.run s = (next a).run.run s' := by
  change ExceptT.bindCont next (act s).1 (act s).2 = _
  rw [show act s = (.ok a, s') from h]
  rfl

theorem run_bind_error (h : act.run.run s = (.error f, s'))
    (next : α → ExceptT Failure (StateM σ) β) :
    (act >>= next).run.run s = (.error f, s') := by
  change ExceptT.bindCont next (act s).1 (act s).2 = _
  rw [show act s = (.error f, s') from h]
  rfl

theorem run_get_bind (s : σ) (next : σ → ExceptT Failure (StateM σ) β) :
    (get >>= next).run.run s = (next s).run.run s := rfl

end Failure

namespace Item

def row? : Item → Option Row
  | row r => some r
  | _ => none

def affected? : Item → Option Affected
  | affected a => some a
  | _ => none

def error? : Item → Option Failure
  | error f => some f
  | _ => none

theorem rows_eq (items : List Item) :
    rows items = Failure.result (items.findSome? error?) (items.filterMap row?) := by
  induction items with
  | nil => rfl
  | cons i items ih =>
    cases i with
    | row r =>
      rw [rows, ih, List.findSome?_cons, List.filterMap_cons]
      cases items.findSome? error? <;> rfl
    | affected a => exact ih
    | error f => rfl

theorem findSome?_error?_eq_none_iff {items : List Item} :
    items.findSome? error? = none ↔ ∀ f, error f ∉ items := by
  rw [List.findSome?_eq_none_iff]
  constructor
  · intro h f hf
    cases h _ hf
  · intro h i hi
    cases i with
    | row r => rfl
    | affected a => rfl
    | error f => exact absurd hi (h f)

theorem effects_eq (items : List Item) :
    effects items = Failure.result (items.findSome? error?) (items.filterMap affected?) := by
  induction items with
  | nil => rfl
  | cons i items ih =>
    cases i with
    | row r => exact ih
    | affected a =>
      rw [effects, ih, List.findSome?_cons, List.filterMap_cons]
      cases items.findSome? error? <;> rfl
    | error f => rfl

theorem rows_map_row (rows : List Row) : Item.rows (rows.map Item.row) = .ok rows := by
  induction rows with
  | nil => rfl
  | cons r rows ih =>
    rw [List.map_cons, Item.rows, ih]
    rfl

end Item

theorem Journal.kept_note (j : Journal) (level : Level) (text : String) :
    (j.note level text).kept = j.kept := by
  unfold note
  split <;> rfl

/-- A call and the failure that its answer gives rise to. -/
structure Exchange where
  call : Call
  failure? : List Item → Option Failure

def Call.exchange (call : Call) : Exchange :=
  ⟨call, (·.findSome? Item.error?)⟩

@[simp] theorem Call.call_exchange (call : Call) : call.exchange.call = call := rfl

theorem Call.failure?_exchange (call : Call) (items : List Item) :
    call.exchange.failure? items = items.findSome? Item.error? := rfl

namespace Exchange

def sent : List Exchange → List (List Item) → List Call
  | [], _ => []
  | x :: xs, answers =>
    x.call :: if (x.failure? (answers.headD [])).isSome then [] else sent xs answers.tail

def ending? : List Exchange → List (List Item) → Option Failure
  | [], _ => none
  | x :: xs, answers => (x.failure? (answers.headD [])).or (ending? xs answers.tail)

/-- Exchanges end at a place with a failure, which none in front of the place gives rise to. -/
structure EndsAt (xs : List Exchange) (answers : List (List Item)) (i : Nat) (f : Failure) :
    Prop where
  last : ∃ x, xs[i]? = some x ∧ x.failure? (answers.getD i []) = some f
  before : ∀ j < i, ∀ x, xs[j]? = some x → x.failure? (answers.getD j []) = none

variable {x : Exchange} {xs ys : List Exchange} {answers : List (List Item)} {f : Failure} {i : Nat}

theorem getD_tail (answers : List (List Item)) (i : Nat) :
    answers.tail.getD i [] = answers.getD (i + 1) [] := by
  cases answers <;> simp

theorem sent_of_some (h : x.failure? (answers.headD []) = some f) :
    sent (x :: xs) answers = [x.call] := by
  rw [sent, h]
  rfl

theorem sent_of_none (h : x.failure? (answers.headD []) = none) :
    sent (x :: xs) answers = x.call :: sent xs answers.tail := by
  rw [sent, h]
  rfl

@[simp] theorem sent_singleton (x : Exchange) (answers : List (List Item)) :
    sent [x] answers = [x.call] := by
  simp [sent]

@[simp] theorem ending?_singleton (x : Exchange) (answers : List (List Item)) :
    ending? [x] answers = x.failure? (answers.headD []) := by
  simp [ending?]

theorem ending?_append (xs ys : List Exchange) (answers : List (List Item)) :
    ending? (xs ++ ys) answers =
      (ending? xs answers).or (ending? ys (answers.drop xs.length)) := by
  induction xs generalizing answers with
  | nil => simp [ending?]
  | cons x xs ih =>
    rw [List.cons_append, ending?, ih, ending?, Option.or_assoc, List.drop_tail, List.length_cons]

theorem sent_eq_map (h : ending? xs answers = none) : sent xs answers = xs.map (·.call) := by
  induction xs generalizing answers with
  | nil => rfl
  | cons x xs ih =>
    obtain ⟨hx, hxs⟩ := Option.or_eq_none_iff.mp h
    rw [sent_of_none hx, ih hxs, List.map_cons]

theorem sent_append_of_none (h : ending? xs answers = none) (ys : List Exchange) :
    sent (xs ++ ys) answers = sent xs answers ++ sent ys (answers.drop xs.length) := by
  induction xs generalizing answers with
  | nil => rfl
  | cons x xs ih =>
    obtain ⟨hx, hxs⟩ := Option.or_eq_none_iff.mp h
    rw [List.cons_append, sent_of_none hx, sent_of_none hx, ih hxs, List.drop_tail,
      List.length_cons, List.cons_append]

theorem sent_append_of_some (h : ending? xs answers = some f) (ys : List Exchange) :
    sent (xs ++ ys) answers = sent xs answers := by
  induction xs generalizing answers with
  | nil => cases h
  | cons x xs ih =>
    cases hx : x.failure? (answers.headD []) with
    | some g => rw [List.cons_append, sent_of_some hx, sent_of_some hx]
    | none =>
      rw [ending?, hx, Option.none_or] at h
      rw [List.cons_append, sent_of_none hx, sent_of_none hx, ih h]

theorem ending?_eq_none_iff :
    ending? xs answers = none ↔
      ∀ (i : Nat) (x : Exchange), xs[i]? = some x → x.failure? (answers.getD i []) = none := by
  induction xs generalizing answers with
  | nil => simp [ending?]
  | cons x xs ih =>
    rw [ending?, Option.or_eq_none_iff, ih]
    constructor
    · rintro ⟨hx, hxs⟩ i y hy
      cases i with
      | zero =>
        obtain rfl : x = y := by simpa using hy
        rw [← List.headD_eq_getD]
        exact hx
      | succ i =>
        rw [← getD_tail]
        exact hxs i y (by simpa using hy)
    · intro h
      refine ⟨?_, fun i y hy => ?_⟩
      · rw [List.headD_eq_getD]
        exact h 0 x rfl
      · rw [getD_tail]
        exact h (i + 1) y (by simpa using hy)

theorem exists_endsAt (h : ending? xs answers = some f) :
    ∃ i, EndsAt xs answers i f ∧ sent xs answers = (xs.map (·.call)).take (i + 1) := by
  induction xs generalizing answers with
  | nil => cases h
  | cons x xs ih =>
    cases hx : x.failure? (answers.headD []) with
    | some g =>
      rw [ending?, hx, Option.some_or, Option.some.injEq] at h
      subst h
      refine ⟨0, ⟨⟨x, rfl, by rwa [← List.headD_eq_getD]⟩, fun j hj => by omega⟩, ?_⟩
      rw [sent_of_some hx]
      rfl
    | none =>
      rw [ending?, hx, Option.none_or] at h
      obtain ⟨i, ⟨⟨y, hy, hf⟩, hb⟩, hs⟩ := ih h
      refine ⟨i + 1, ⟨⟨y, by simpa using hy, by rwa [← getD_tail]⟩, fun j hj z hz => ?_⟩, ?_⟩
      · cases j with
        | zero =>
          obtain rfl : x = z := by simpa using hz
          rwa [← List.headD_eq_getD]
        | succ j =>
          rw [← getD_tail]
          exact hb j (by omega) z (by simpa using hz)
      · rw [sent_of_none hx, hs]
        rfl

end Exchange

namespace Link

variable {α β : Type} {l m : Link}

theorem run_withJournal {act : Journal.Act α} {answer : Except Failure α} {journal : Journal}
    (h : act.run.run l.journal = (answer, journal)) :
    (withJournal act).run.run l = (answer, ⟨l.server, journal⟩) := by
  rw [withJournal, Failure.run_get_bind]
  simp only [h]
  cases answer <;> rfl

theorem run_fetch (l : Link) (call : Call) :
    (fetch call).run.run l =
      (Item.rows (l.server.answers.headD []), { l with server := (l.server.run call).2 }) :=
  rfl

def after (l : Link) (xs : List Exchange) (journal : Journal) : Link :=
  ⟨{ l.server with
      answers := l.server.answers.drop (Exchange.sent xs l.server.answers).length
      calls := l.server.calls ++ Exchange.sent xs l.server.answers }, journal⟩

theorem after_singleton (l : Link) (x : Exchange) (journal : Journal) :
    l.after [x] journal =
      ⟨⟨l.server.dialect, l.server.answers.tail, l.server.calls ++ [x.call]⟩, journal⟩ := by
  rw [after, Exchange.sent_singleton, List.length_singleton, List.drop_one]

theorem answers_after {xs : List Exchange} (h : Exchange.ending? xs l.server.answers = none)
    (journal : Journal) :
    (l.after xs journal).server.answers = l.server.answers.drop xs.length := by
  rw [after, Exchange.sent_eq_map h, List.length_map]

/-- From a link, an action sends the calls of exchanges, fails as they end, and gives a value if they
do not fail; the journal is kept on if it was kept. -/
def Conducts (act : Act α) (l : Link) (xs : List Exchange) (a : α) : Prop :=
  ∃ journal, journal.kept = l.journal.kept ∧
    act.run.run l = (Failure.result (Exchange.ending? xs l.server.answers) a, l.after xs journal)

namespace Conducts

variable {act : Act α} {next : α → Act β} {xs ys : List Exchange} {a : α} {b : β}

theorem pure (l : Link) (a : α) : Conducts (pure a) l [] a :=
  ⟨l.journal, rfl, by simp [after, Exchange.sent, Exchange.ending?]; rfl⟩

/-- Exchanges of an action are followed by those of the next one, unless they fail. -/
theorem bind (h : Conducts act l xs a)
    (hn : Exchange.ending? xs l.server.answers = none → ∀ journal,
      journal.kept = l.journal.kept → Conducts (next a) (l.after xs journal) ys b) :
    Conducts (act >>= next) l (xs ++ ys) b := by
  obtain ⟨journal, hk, hr⟩ := h
  cases he : Exchange.ending? xs l.server.answers with
  | some f =>
    rw [he, Failure.result_some] at hr
    refine ⟨journal, hk, ?_⟩
    rw [Failure.run_bind_error hr, Exchange.ending?_append, he, Option.some_or, Failure.result_some, after,
      after, Exchange.sent_append_of_some he]
  | none =>
    rw [he, Failure.result_none] at hr
    obtain ⟨journal', hk', hr'⟩ := hn he journal hk
    -- all of `xs` is sent, so `ys` meets the answers behind as many
    have hl : (Exchange.sent xs l.server.answers).length = xs.length := by
      rw [Exchange.sent_eq_map he, List.length_map]
    refine ⟨journal', hk'.trans hk, ?_⟩
    rw [Failure.run_bind hr, hr', Exchange.ending?_append, he, Option.none_or]
    simp only [after, Exchange.sent_append_of_none he, hl, List.drop_drop, List.length_append,
      List.append_assoc]

theorem bind_pure (h : Conducts act l xs a) (g : α → β) :
    Conducts (act >>= fun a => Pure.pure (g a)) l xs (g a) := by
  obtain ⟨journal, hk, hr⟩ := h
  refine ⟨journal, hk, ?_⟩
  cases he : Exchange.ending? xs l.server.answers with
  | some f =>
    rw [he] at hr
    exact Failure.run_bind_error hr _
  | none =>
    rw [he] at hr
    exact Failure.run_bind hr _

/-- A check of the result becomes a part of the exchange. -/
theorem checked {x y : Exchange} {o : Option Failure} (h : Conducts act l [x] a)
    (hn : ∀ m : Link, ∃ journal, journal.kept = m.journal.kept ∧
      (next a).run.run m = (Failure.result o b, ⟨m.server, journal⟩))
    (hc : y.call = x.call)
    (hf : y.failure? (l.server.answers.headD []) =
      (x.failure? (l.server.answers.headD [])).or o) :
    Conducts (act >>= next) l [y] b := by
  obtain ⟨journal, hk, hr⟩ := h
  rw [Exchange.ending?_singleton] at hr
  unfold Conducts
  rw [Exchange.ending?_singleton, hf]
  cases hx : x.failure? (l.server.answers.headD []) with
  | some f =>
    rw [hx] at hr
    refine ⟨journal, hk, ?_⟩
    rw [Failure.run_bind_error hr next, after_singleton, after_singleton, hc]
    rfl
  | none =>
    rw [hx] at hr
    obtain ⟨journal', hk', hr'⟩ := hn (l.after [x] journal)
    refine ⟨journal', hk'.trans hk, ?_⟩
    rw [Failure.run_bind hr, hr', Option.none_or, after_singleton, after_singleton, hc]

end Conducts

theorem conducts_fetch (l : Link) (call : Call) :
    Conducts (fetch call) l [call.exchange]
      ((l.server.answers.headD []).filterMap Item.row?) := by
  refine ⟨l.journal, rfl, ?_⟩
  rw [run_fetch, Item.rows_eq, Exchange.ending?_singleton, after_singleton]
  rfl

theorem conducts_execute (l : Link) (call : Call) :
    Conducts (execute call) l [call.exchange]
      (Affected.zero.extend ((l.server.answers.headD []).filterMap Item.affected?)) := by
  refine ⟨l.journal, rfl, ?_⟩
  have hs : (send call).run.run l =
      (.ok (l.server.answers.headD []), { l with server := (l.server.run call).2 }) := rfl
  rw [execute, Failure.run_bind hs, Item.effects_eq, Exchange.ending?_singleton,
    Call.failure?_exchange, after_singleton]
  cases (l.server.answers.headD []).findSome? Item.error? <;> rfl

end Link

end RecordSql
