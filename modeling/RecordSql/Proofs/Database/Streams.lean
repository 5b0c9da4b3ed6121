import Mathlib.Algebra.Ring.Nat
import RecordSql.Proofs.Database.Logging

/-! # Streams of answers

An answer is a stream of rows, effects and errors. A query collects the rows of it and a change adds
up the effects, each passing over the other; both come to the first error instead if there is one.
-/

namespace RecordSql

/-! ## Effects -/

namespace Affected

def total (items : List Affected) : Affected :=
  ⟨(items.map (·.rows)).sum, (items.filterMap (·.lastId)).getLast?⟩

theorem zero_add (a : Affected) : zero.add a = a := by
  simp [zero, add]

theorem add_zero (a : Affected) : a.add zero = a := by
  simp [zero, add]

theorem add_assoc (a b c : Affected) : (a.add b).add c = a.add (b.add c) := by
  simp [add, Nat.add_assoc, Option.or_assoc]

theorem total_cons (a : Affected) (items : List Affected) :
    total (a :: items) = a.add (total items) := by
  unfold total add
  cases ha : a.lastId with
  | none => simp [ha]
  | some n =>
    rw [List.filterMap_cons_some ha, List.getLast?_cons]
    cases (items.filterMap (·.lastId)).getLast? <;> simp

/-- To add effects one by one is to add their total. -/
theorem extend_eq (a : Affected) (items : List Affected) : a.extend items = a.add (total items) := by
  induction items generalizing a with
  | nil => exact a.add_zero.symm
  | cons b items ih => rw [total_cons, ← add_assoc, ← ih, extend, extend, List.foldl_cons]

example : zero.extend [⟨2, some 7⟩, ⟨0, some 9⟩, ⟨1, none⟩] = ⟨3, some 9⟩ := rfl

end Affected

/-! ## Items -/

namespace Item

variable {α : Type} {items : List Item} {a : α} {e : Failure}

def FirstError (items : List Item) (e : Failure) : Prop :=
  ∃ front back, items = front ++ error e :: back ∧ ∀ f, error f ∉ front

/-- The result of a stream is what is made of all its items, or its first error if there is one. -/
structure ComesTo (items : List Item) (a : α) (result : Except Failure α) : Prop where
  ok_iff : ∀ b, result = .ok b ↔ (∀ e, error e ∉ items) ∧ b = a
  error_iff : ∀ e, result = .error e ↔ FirstError items e

theorem error?_eq_some_iff {i : Item} : i.error? = some e ↔ i = error e := by
  cases i <;> simp [error?]

theorem findSome?_error?_eq_some_iff :
    items.findSome? error? = some e ↔ FirstError items e := by
  rw [List.findSome?_eq_some_iff]
  constructor
  · rintro ⟨front, i, back, rfl, hi, hf⟩
    obtain rfl := error?_eq_some_iff.mp hi
    exact ⟨front, back, rfl, findSome?_error?_eq_none_iff.mp (List.findSome?_eq_none_iff.mpr hf)⟩
  · rintro ⟨front, back, rfl, hf⟩
    exact ⟨front, error e, back, rfl, rfl,
      List.findSome?_eq_none_iff.mp (findSome?_error?_eq_none_iff.mpr hf)⟩

theorem comesTo_result (items : List Item) (a : α) :
    ComesTo items a (Failure.result (items.findSome? error?) a) := by
  refine ⟨fun b => ?_, fun e => ?_⟩
  · rw [← findSome?_error?_eq_none_iff]
    cases items.findSome? error? <;> simp [eq_comm]
  · rw [← findSome?_error?_eq_some_iff]
    cases items.findSome? error? <;> simp

theorem comesTo_rows (items : List Item) : ComesTo items (items.filterMap row?) (rows items) := by
  rw [rows_eq]
  exact comesTo_result items _

theorem comesTo_effects (items : List Item) :
    ComesTo items (Affected.total (items.filterMap affected?))
      ((effects items).map Affected.zero.extend) := by
  have hr : (effects items).map Affected.zero.extend = Failure.result (items.findSome? error?)
      (Affected.total (items.filterMap affected?)) := by
    rw [effects_eq, ← Affected.zero_add (Affected.total _), ← Affected.extend_eq]
    cases items.findSome? error? <;> rfl
  rw [hr]
  exact comesTo_result items _

end Item

/-! ## Sessions -/

def Link.Sends (l : Link) (source : Source) (call : Call) : Prop :=
  l.server.dialect = source.dialect ∧ l.journal.takes call = true

namespace Session

variable {α : Type} {source : Source} {call : Call} {l : Link} {act : Link.Act α}

inductive Asks (source : Source) (call : Call) : Link.Act (List Row) → Prop
  | query : Asks source call (Session.query source call)
  | find {s : Session} (hs : s.current.selectSql source.flavor = .ok call.sql)
      (hp : s.current.params = call.params) : Asks source call (s.find source)

inductive Changes (source : Source) (call : Call) : Link.Act Affected → Prop
  | exec : Changes source call (Session.exec source call)
  | insert {s : Session} {values : List Value}
      (h : s.current.insertSql source.flavor values = .ok call) :
      Changes source call (s.insert source values)
  | update {s : Session} {values : List Value}
      (h : s.current.updateSql source.flavor values = .ok call) :
      Changes source call (s.update source values)
  | delete {s : Session} (h : s.current.deleteSql source.flavor = .ok call) :
      Changes source call (s.delete source)

theorem Asks.eq_query {act : Link.Act (List Row)} (h : Asks source call act) :
    act = Session.query source call := by
  cases h with
  | query => rfl
  | find hs hp =>
    rw [Session.find, hs, hp]
    rfl

theorem Changes.eq_exec {act : Link.Act Affected} (h : Changes source call act) :
    act = Session.exec source call := by
  cases h with
  | exec => rfl
  | insert h =>
    rw [Session.insert, h]
    rfl
  | update h =>
    rw [Session.update, h]
    rfl
  | delete h =>
    rw [Session.delete, h]
    rfl

/-- An action sends its call and comes to what is made of the answer, or fails without a call. -/
structure Consumes (source : Source) (call : Call) (act : Link.Act α) (made : List Item → α)
    (l : Link) : Prop where
  sent : l.Sends source call →
    Item.ComesTo (l.server.answers.headD []) (made (l.server.answers.headD [])) (act.run.run l).1 ∧
      (act.run.run l).2.server = (l.server.run call).2
  unsent : ¬ l.Sends source call →
    (∃ f, (act.run.run l).1 = .error f) ∧ (act.run.run l).2.server = l.server

theorem consumes_gated {made : List Item → α} {read : List Item → Except Failure α}
    (ha : Link.Answers act call read)
    (hr : ∀ items, Item.ComesTo items (made items) (read items)) (l : Link) :
    Consumes source call (gated source call act) made l := by
  constructor
  · rintro ⟨hd, ht⟩
    obtain ⟨journal, -, hg⟩ := run_gated hd ht act
    rw [hg, ha]
    exact ⟨hr _, rfl⟩
  · intro hn
    by_cases hd : l.server.dialect = source.dialect
    · have ht : l.journal.takes call = false := by simpa using fun ht => hn ⟨hd, ht⟩
      rw [run_gated_of_not hd ht]
      exact ⟨⟨_, rfl⟩, rfl⟩
    · obtain ⟨f, journal, hg⟩ := run_gated_of_ne hd call act
      rw [hg]
      exact ⟨⟨f, rfl⟩, rfl⟩

/-- A fetch collects all rows of its answer in order and an execution adds up all its effects, and
each fails with the first error of the answer if there is one. What a session asks for and changes
comes to the same if the call is sent. Effects can be added in parts. -/
theorem streams_consumed (source : Source) (call : Call) (l : Link) :
    Item.ComesTo (l.server.answers.headD []) ((l.server.answers.headD []).filterMap Item.row?)
      ((Link.fetch call).run.run l).1 ∧
    Item.ComesTo (l.server.answers.headD [])
      (Affected.total ((l.server.answers.headD []).filterMap Item.affected?))
      ((Link.execute call).run.run l).1 ∧
    (∀ act, Asks source call act →
      Consumes source call act (fun items => items.filterMap Item.row?) l) ∧
    (∀ act, Changes source call act →
      Consumes source call act (fun items => Affected.total (items.filterMap Item.affected?)) l) ∧
    ∀ (a : Affected) (xs ys : List Affected),
      a.extend [] = a ∧ a.extend (xs ++ ys) = (a.extend xs).extend ys := by
  have hf := Link.answers_fetch call
  have he := Link.answers_execute call
  refine ⟨?_, ?_, fun act h => ?_, fun act h => ?_, fun a xs ys => ⟨rfl, a.extend_append xs ys⟩⟩
  · rw [hf]
    exact Item.comesTo_rows _
  · rw [he]
    exact Item.comesTo_effects _
  · rw [h.eq_query]
    exact consumes_gated hf Item.comesTo_rows l
  · rw [h.eq_exec]
    exact consumes_gated he Item.comesTo_effects l

end Session

end RecordSql
