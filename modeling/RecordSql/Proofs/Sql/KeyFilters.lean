import RecordSql.Proofs.Sql.Binding
import RecordSql.Proofs.Sql.Filters

/-! # Filters by key

A filter by key compares the key with a marker and puts the value of the key behind the values given
with it. A numbered marker is bound to that value. A plain marker is bound to the first value there
is, which is the one of the key only if no other stands in front. A filter without a key is refused
and leaves the statement alone, but has moved the position of the next parameter.
-/

namespace RecordSql

namespace Flavor

theorem tokens_assign (f : Flavor) (a : String × Nat) :
    f.tokens (f.assign a) = Token.assignment (a.1, f.number? a.2) := by
  have hb : Breaks [] := nofun
  have hs := f.spells_assign a [] hb
  rwa [List.append_nil, lex_nil, List.append_nil] at hs

theorem markers_assign (f : Flavor) (a : String × Nat) :
    f.markers (f.assign a) = [f.number? a.2] := by
  rw [markers, tokens_assign]
  simp [Token.assignment]

/-- A marker for the last of some values is bound to it if it is numbered, and else to the first. -/
theorem bound_last (f : Flavor) (args : List Value) (v : Value) :
    f.bound (args ++ [v]) [f.number? (args.length + 1)] =
      [if f.placeholder.isNumbered then some v else (args ++ [v]).head?] := by
  unfold bound number?
  cases f.placeholder with
  | plain => simp [Placeholder.isNumbered, List.head?_eq_getElem?]
  | numbered mark => simp [Placeholder.isNumbered]

end Flavor

namespace Statement

inductive LacksKey (s : Statement) : Failure → Prop
  | unmapped (ht : s.table = none) : LacksKey s (.of (.unmapped s.tableName))
  | keyless {t : Table} (ht : s.table = some t) (hk : t.primaryKey = none) :
      LacksKey s (.of (.missingPrimaryKey s.tableName))

variable {s : Statement} {e : Failure} {key : String}

theorem keyName_eq_ok_iff :
    s.keyName = .ok key ↔ ∃ t, s.table = some t ∧ t.primaryKey = some key := by
  unfold keyName mappedTable
  cases s.table with
  | none => simp [bind, Except.bind]
  | some t => cases hk : t.primaryKey <;> simp [bind, Except.bind, hk]

theorem keyName_eq_error_iff : s.keyName = .error e ↔ s.LacksKey e := by
  constructor
  · intro h
    unfold keyName mappedTable at h
    cases ht : s.table with
    | none =>
      rw [ht] at h
      cases h
      exact .unmapped ht
    | some t =>
      rw [ht] at h
      cases hk : t.primaryKey with
      | none =>
        have he : .of (.missingPrimaryKey s.tableName) = e := by
          simpa [bind, Except.bind, hk] using h
        exact he ▸ .keyless ht hk
      | some key => simp [bind, Except.bind, hk] at h
  · rintro (ht | ⟨ht, hk⟩)
    · simp [keyName, mappedTable, ht, bind, Except.bind]
    · simp [keyName, mappedTable, ht, hk, bind, Except.bind]

namespace Draft

variable {f : Flavor} {condition : Condition} {args : List Value} {v : Value} {d after : Draft}

theorem run_filter_key_of_keyName (h : d.statement.keyName = .ok key) :
    (filter f (.key v) args).run.run d =
      (.ok (), ⟨{ d.statement with
        condition := f.assign (key, args.length + 1)
        params := args ++ [v] }, args.length + 2⟩) := by
  rw [run_filter_key, h, Nat.add_comm]
  rfl

theorem run_filter_eq_error_iff :
    (filter f condition args).run.run d = (.error e, after) ↔
      (∃ v, condition = .key v) ∧ d.statement.LacksKey e ∧
        ⟨d.statement, args.length + 1⟩ = after := by
  cases condition with
  | text s => exact iff_of_false nofun fun ⟨⟨_, hc⟩, _⟩ => nomatch hc
  | key v =>
    rw [run_filter_key, ← keyName_eq_error_iff, Nat.add_comm]
    cases d.statement.keyName with
    | error e =>
      constructor
      · intro h
        cases h
        exact ⟨⟨v, rfl⟩, rfl, rfl⟩
      · rintro ⟨-, he, rfl⟩
        cases he
        rfl
    | ok key => exact iff_of_false nofun fun ⟨_, hk, _⟩ => nomatch hk

end Draft

end Statement

open Statement

/-- A filter by key on a table with a primary key compares the key with a marker for the last of the
parameters, the value of the key. The marker is bound to that value exactly if it is numbered or no
other value is the first parameter. -/
theorem key_bound_iff {d : Draft} {t : Table} {key : String} (ht : d.statement.table = some t)
    (hk : t.primaryKey = some key) (f : Flavor) (v : Value) (args : List Value) :
    ∃ after, (Draft.filter f (.key v) args).run.run d = (.ok (), after) ∧
      after.statement.params = args ++ [v] ∧
      f.tokens after.statement.condition =
        Token.assignment (key, f.number? after.statement.params.length) ∧
      (f.bound after.statement.params (f.markers after.statement.condition) = [some v] ↔
        f.placeholder.isNumbered = true ∨ args = [] ∨ args.head? = some v) := by
  refine ⟨_, Draft.run_filter_key_of_keyName (keyName_eq_ok_iff.mpr ⟨t, ht, hk⟩), rfl, ?_, ?_⟩
  · rw [f.tokens_assign, List.length_append, List.length_singleton]
  · rw [f.markers_assign, f.bound_last]
    cases f.placeholder.isNumbered with
    | true => simp
    | false => cases args <;> simp

def userTable : Table :=
  { Table.empty "user" with
    columns := [{ Column.ofType "id" .bigint with primaryKey := true, nullable := false }]
    primaryKey := some "id" }

theorem key_bound_numbered :
    ∃ after, (Draft.filter .postgres (.key (.int 7)) [.int 30]).run.run ⟨.ofTable userTable, 1⟩ =
        (.ok (), after) ∧
      after.statement.params = [.int 30, .int 7] ∧
      Flavor.postgres.bound after.statement.params
        (Flavor.postgres.markers after.statement.condition) = [some (.int 7)] := by
  have ht : (⟨.ofTable userTable, 1⟩ : Draft).statement.table = some userTable := rfl
  have hk : userTable.primaryKey = some "id" := rfl
  obtain ⟨after, hr, hp, -, hb⟩ := key_bound_iff ht hk .postgres (.int 7) [.int 30]
  exact ⟨after, hr, hp, hb.mpr (.inl rfl)⟩

theorem key_not_bound :
    ∃ after, (Draft.filter .mysql (.key (.int 7)) [.int 30]).run.run ⟨.ofTable userTable, 1⟩ =
        (.ok (), after) ∧
      after.statement.condition = "`id` = ?" ∧
      Flavor.mysql.bound after.statement.params
        (Flavor.mysql.markers after.statement.condition) = [some (.int 30)] :=
  ⟨_, rfl, by decide +kernel, by decide +kernel⟩

/-- A filter fails exactly if it is one by key without a key, and then leaves the statement as it
was and the position of the next parameter behind as many parameters as were given. So it leaves all
as it was exactly if that position was there before. -/
theorem filter_fails_iff (f : Flavor) (condition : Condition) (args : List Value) (d : Draft)
    (e : Failure) :
    (∀ after, (Draft.filter f condition args).run.run d = (.error e, after) ↔
      (∃ v, condition = .key v) ∧ d.statement.LacksKey e ∧
        after.statement = d.statement ∧ after.next = args.length + 1) ∧
    ((Draft.filter f condition args).run.run d = (.error e, d) ↔
      (∃ v, condition = .key v) ∧ d.statement.LacksKey e ∧ d.next = args.length + 1) := by
  have hf : ∀ after, (Draft.filter f condition args).run.run d = (.error e, after) ↔
      (∃ v, condition = .key v) ∧ d.statement.LacksKey e ∧
        after.statement = d.statement ∧ after.next = args.length + 1 := by
    rintro ⟨s, next⟩
    rw [Draft.run_filter_eq_error_iff, Draft.mk.injEq]
    simp only [eq_comm]
  exact ⟨hf, by rw [hf, and_iff_right rfl]⟩

def logStatement : Statement :=
  { Statement.empty with
    tableName := "log"
    condition := "a = ? or b = ?"
    params := [.int 1, .int 2] }

theorem filter_not_undone :
    (Draft.filter .mysql (.key (.int 7)) []).run.run ⟨logStatement, 3⟩ =
        (.error (.of (.unmapped "log")), ⟨logStatement, 1⟩) ∧
      (⟨logStatement, 1⟩ : Draft) ≠ ⟨logStatement, 3⟩ :=
  ⟨rfl, fun h => by cases h⟩

end RecordSql
