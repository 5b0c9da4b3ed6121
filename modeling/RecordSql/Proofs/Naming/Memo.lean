import Mathlib.Data.Finset.Card
import Mathlib.Data.Finset.Dedup
import RecordSql.Naming.Memo

/-! # What a memo answers and what it asks

Seen from outside, a memo answers as its convention does, however often and in whatever order it is
asked. It has put each question to the convention once, where the same name in the two directions
makes two questions.
-/

namespace RecordSql.Naming

inductive Question
  | table (name : String)
  | record (name : String)
  deriving DecidableEq

def answer (n : Naming) : Question → String
  | .table name => n.toTable name
  | .record name => n.toRecord name

namespace Memo

variable {n : Naming} {m : Memo} {seen : Finset Question} {p q : Question} {s : String}

def ask (n : Naming) (m : Memo) : Question → String × Memo
  | .table name => m.toTable n name
  | .record name => m.toRecord n name

def kept? (m : Memo) : Question → Option String
  | .table name => m.tables.lookup name
  | .record name => m.records.lookup name

def keep (m : Memo) (answer : String) : Question → Memo
  | .table name => { m with tables := (name, answer) :: m.tables, asked := m.asked + 1 }
  | .record name => { m with records := (name, answer) :: m.records, asked := m.asked + 1 }

/-- What is seen of a memo: the answer to each of its questions, and how many questions have been put
to the convention by then. -/
def observe (n : Naming) (m : Memo) : List Question → List (String × Nat)
  | [] => []
  | q :: qs => ((m.ask n q).1, (m.ask n q).2.asked) :: (m.ask n q).2.observe n qs

/-- A memo remembers the answers to the questions it has seen, each of which it has asked once. -/
structure HasSeen (n : Naming) (m : Memo) (seen : Finset Question) : Prop where
  kept : ∀ q, m.kept? q = if q ∈ seen then some (n.answer q) else none
  asked : m.asked = seen.card

/-! ## One question -/

theorem ask_of_kept (h : m.kept? q = some s) : m.ask n q = (s, m) := by
  cases q with
  | table name =>
    have h : m.tables.lookup name = some s := h
    rw [ask, toTable, fetch, h]
    rfl
  | record name =>
    have h : m.records.lookup name = some s := h
    rw [ask, toRecord, fetch, h]
    rfl

theorem ask_of_new (h : m.kept? q = none) : m.ask n q = (n.answer q, m.keep (n.answer q) q) := by
  cases q with
  | table name =>
    have h : m.tables.lookup name = none := h
    rw [ask, toTable, fetch, h]
    rfl
  | record name =>
    have h : m.records.lookup name = none := h
    rw [ask, toRecord, fetch, h]
    rfl

theorem lookup_cons_ite (names : List (String × String)) (name answer other : String) :
    ((name, answer) :: names).lookup other =
      if other = name then some answer else names.lookup other := by
  rw [List.lookup_cons]
  by_cases h : other = name
  · simp [h]
  · simp [h, beq_eq_false_iff_ne.mpr h]

theorem kept?_keep (m : Memo) (s : String) (p q : Question) :
    (m.keep s q).kept? p = if p = q then some s else m.kept? p := by
  cases p <;> cases q <;> simp [keep, kept?, lookup_cons_ite]

theorem asked_keep (m : Memo) (s : String) (q : Question) : (m.keep s q).asked = m.asked + 1 := by
  cases q <;> rfl

theorem hasSeen_empty (n : Naming) : empty.HasSeen n ∅ where
  kept q := by cases q <;> rfl
  asked := rfl

theorem HasSeen.ask (h : m.HasSeen n seen) (q : Question) :
    (m.ask n q).1 = n.answer q ∧ (m.ask n q).2.HasSeen n (insert q seen) := by
  by_cases hq : q ∈ seen
  · have hk : m.kept? q = some (n.answer q) := by rw [h.kept, if_pos hq]
    rw [ask_of_kept hk, Finset.insert_eq_of_mem hq]
    exact ⟨rfl, h⟩
  · have hk : m.kept? q = none := by rw [h.kept, if_neg hq]
    rw [ask_of_new hk]
    refine ⟨rfl, fun p => ?_, ?_⟩
    · rw [kept?_keep, h.kept]
      by_cases hp : p = q
      · simp [hp]
      · simp [hp]
    · rw [asked_keep, h.asked, Finset.card_insert_of_notMem hq]

/-! ## Any number of questions -/

/-- Once a memo has seen some questions, it asks for the others of those that follow. -/
theorem HasSeen.observe_eq (h : m.HasSeen n seen) (qs : List Question) :
    m.observe n qs =
      qs.mapIdx fun k q => (n.answer q, (seen ∪ (qs.take (k + 1)).toFinset).card) := by
  induction qs generalizing m seen with
  | nil => rfl
  | cons q qs ih =>
    obtain ⟨ha, hs⟩ := h.ask q
    have hu : ∀ k, insert q seen ∪ (qs.take (k + 1)).toFinset =
        seen ∪ ((q :: qs).take (k + 1 + 1)).toFinset := by
      intro k
      rw [List.take_succ_cons, List.toFinset_cons, Finset.insert_union, Finset.union_insert]
    rw [observe, ha, hs.asked, ih hs, List.mapIdx_cons]
    simp only [hu]
    simp

/-- Whatever a memo is asked, each answer is that of its convention, and the convention has been asked
as many questions by then as there are different ones among those put to the memo. -/
theorem observe_empty (n : Naming) (qs : List Question) :
    empty.observe n qs =
      qs.mapIdx fun k q => (n.answer q, (qs.take (k + 1)).toFinset.card) := by
  simpa using (hasSeen_empty n).observe_eq qs

/-- The same text in the two directions is asked for twice, and once in each. -/
example : (empty.observe .snake [.table "Age", .record "Age", .table "Age"]).map (·.2) =
    [1, 2, 2] := by
  decide

end Memo

end RecordSql.Naming
