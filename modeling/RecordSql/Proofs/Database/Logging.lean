import RecordSql.Proofs.Database.Requests
import RecordSql.Proofs.Text.Shortened

/-! # Calls with and without a journal

A query and a change depend on the journal in one place only: a journal that is kept takes down the
text of the call first, and cannot do so if the text is cut inside of a character.
-/

namespace RecordSql

variable {α : Type} {act : Link.Act α} {call : Call} {read : List Item → Except Failure α}

namespace Link

/-- An action cannot tell two links apart: it has the same result on both and leaves the same server
behind. -/
def Agree (act : Act α) (l m : Link) : Prop :=
  (act.run.run l).1 = (act.run.run m).1 ∧ (act.run.run l).2.server = (act.run.run m).2.server

/-- An action sends one call, and its result is read off the answer. -/
def Answers (act : Act α) (call : Call) (read : List Item → Except Failure α) : Prop :=
  ∀ l : Link, act.run.run l =
    (read (l.server.answers.headD []), { l with server := (l.server.run call).2 })

theorem answers_fetch (call : Call) : Answers (fetch call) call Item.rows :=
  fun l => run_fetch l call

theorem answers_execute (call : Call) :
    Answers (execute call) call fun items => (Item.effects items).map Affected.zero.extend := by
  intro l
  have hs : (send call).run.run l =
      (.ok (l.server.answers.headD []), { l with server := (l.server.run call).2 }) := rfl
  have hr : ∀ (m : Link) (effects : Except Failure (List Affected)),
      (do return Affected.zero.extend (← effects) : Act Affected).run.run m =
        (effects.map Affected.zero.extend, m) := by
    intro m effects
    cases effects <;> rfl
  rw [execute, Failure.run_bind hs]
  exact hr _ _

theorem Answers.agree (h : Answers act call read) {l m : Link} (hs : l.server = m.server) :
    Agree act l m := by
  rw [Agree, h l, h m, hs]
  exact ⟨rfl, rfl⟩

end Link

theorem Journal.takes_eq_false_iff {j : Journal} :
    j.takes call = false ↔ j.kept = true ∧ Text.IsSplit call.sql := by
  rw [takes, ← Text.shorten?_eq_none_iff]
  simp

namespace Session

variable {source : Source} {server : Server} {entries entries' : List (Level × String)}

theorem agree_gated_of_ne (h : server.dialect ≠ source.dialect) (act : Link.Act α)
    (j k : Journal) : Link.Agree (gated source call act) ⟨server, j⟩ ⟨server, k⟩ := by
  obtain ⟨j', hj⟩ := run_checkDialect_of_ne (l := ⟨server, j⟩) h
  obtain ⟨k', hk⟩ := run_checkDialect_of_ne (l := ⟨server, k⟩) h
  rw [Link.Agree, gated, Failure.run_bind_error hj, Failure.run_bind_error hk]
  exact ⟨rfl, rfl⟩

theorem agree_gated_of_takes (ha : Link.Answers act call read)
    (h : server.dialect = source.dialect) {j k : Journal} (hj : j.takes call = true)
    (hk : k.takes call = true) : Link.Agree (gated source call act) ⟨server, j⟩ ⟨server, k⟩ := by
  obtain ⟨j', -, hl⟩ := run_gated (l := ⟨server, j⟩) h hj act
  obtain ⟨k', -, hm⟩ := run_gated (l := ⟨server, k⟩) h hk act
  rw [Link.Agree, hl, hm]
  exact ha.agree rfl

theorem not_agree_gated (ha : Link.Answers act call read)
    (h : server.dialect = source.dialect) {j k : Journal} (hj : j.takes call = false)
    (hk : k.takes call = true) : ¬ Link.Agree (gated source call act) ⟨server, j⟩ ⟨server, k⟩ := by
  obtain ⟨k', -, hm⟩ := run_gated (l := ⟨server, k⟩) h hk act
  rw [Link.Agree, run_gated_of_not h hj, hm, ha]
  rintro ⟨-, hs⟩
  have hc : server.calls = server.calls ++ [call] := congrArg Server.calls hs
  simp at hc

theorem agree_gated_iff (ha : Link.Answers act call read) :
    Link.Agree (gated source call act) ⟨server, ⟨true, entries⟩⟩ ⟨server, ⟨false, entries'⟩⟩ ↔
      (server.dialect = source.dialect → ¬ Text.IsSplit call.sql) := by
  have hk : Journal.takes ⟨false, entries'⟩ call = true := rfl
  by_cases hd : server.dialect = source.dialect
  · cases hj : Journal.takes ⟨true, entries⟩ call with
    | false =>
      have hs := (Journal.takes_eq_false_iff.mp hj).2
      exact iff_of_false (not_agree_gated ha hd hj hk) fun h => h hd hs
    | true =>
      refine iff_of_true (agree_gated_of_takes ha hd hj hk) fun _ hs => ?_
      have hf := Journal.takes_eq_false_iff (j := ⟨true, entries⟩).mpr ⟨rfl, hs⟩
      cases hj.symm.trans hf
  · exact iff_of_true (agree_gated_of_ne hd ..) fun h => absurd h hd

/-- A query and a change go the same way with a journal and without one exactly if their text is not
cut inside of a character. Any other text is shortened to its first 497 bytes without the blanks at
their end, with points behind them for a longer text. -/
theorem logging_transparent_iff (source : Source) (call : Call) (server : Server)
    (entries entries' : List (Level × String)) :
    (Link.Agree (query source call) ⟨server, ⟨true, entries⟩⟩ ⟨server, ⟨false, entries'⟩⟩ ↔
      (server.dialect = source.dialect → ¬ Text.IsSplit call.sql)) ∧
    (Link.Agree (exec source call) ⟨server, ⟨true, entries⟩⟩ ⟨server, ⟨false, entries'⟩⟩ ↔
      (server.dialect = source.dialect → ¬ Text.IsSplit call.sql)) ∧
    ∀ s, (Text.shorten? s = none ↔ Text.IsSplit s) ∧
      ∀ short, Text.shorten? s = some short ↔ Text.Shortens s short := by
  refine ⟨?_, ?_, fun s => ⟨Text.shorten?_eq_none_iff, fun short => Text.shorten?_eq_some_iff⟩⟩
  · exact agree_gated_iff (Link.answers_fetch call)
  · exact agree_gated_iff (Link.answers_execute call)

end Session

def unevenCall : Call :=
  ⟨(String.ofList (List.replicate 496 'a')).push 'é', []⟩

theorem isSplit_unevenCall : Text.IsSplit unevenCall.sql := by
  have hn : (String.ofList (List.replicate 496 'a')).utf8ByteSize = 496 := by
    rw [Text.utf8ByteSize_ofList]
    decide +kernel
  refine ⟨String.ofList (List.replicate 496 'a'), "", 'é', String.append_empty.symm, ?_, ?_⟩
  · rw [hn]
    decide
  · rw [String.utf8ByteSize_push, hn]
    decide

theorem Session.logging_not_transparent :
    Text.shorten? unevenCall.sql = none ∧
      ¬ Link.Agree (query (.ofDialect .mysql "") unevenCall) ⟨⟨.mysql, [], []⟩, .empty true⟩
        ⟨⟨.mysql, [], []⟩, .empty false⟩ := by
  refine ⟨Text.shorten?_eq_none_iff.mpr isSplit_unevenCall, ?_⟩
  have hj : (Journal.empty true).takes unevenCall = false :=
    Journal.takes_eq_false_iff.mpr ⟨rfl, isSplit_unevenCall⟩
  exact not_agree_gated (Link.answers_fetch unevenCall) rfl hj rfl

end RecordSql
