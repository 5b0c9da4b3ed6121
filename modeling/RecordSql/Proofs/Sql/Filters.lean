import RecordSql.Statement

/-! # Filters

A filter takes a condition in words as it stands. A condition on the key needs the name of the key,
and without it the statement stays as it was, although the position of the next parameter has moved.
-/

namespace RecordSql.Statement.Draft

theorem run_filter_key (f : Flavor) (v : Value) (args : List Value) (d : Draft) :
    (filter f (.key v) args).run.run d =
      match d.statement.keyName with
      | .error e => (.error e, { d with next := 1 + args.length })
      | .ok key => (.ok (),
        ⟨{ d.statement with
          condition := f.appendMarker (f.quote key ++ " = ") (1 + args.length)
          params := args ++ [v] }, 1 + args.length + 1⟩) := by
  change ((d.statement.keyName : ExceptT Failure (StateM Draft) String) >>= _).run.run _ = _
  cases d.statement.keyName <;> rfl

/-- A filter that fails has not touched the statement, and one that succeeds counts its parameters. -/
theorem run_filter (f : Flavor) (condition : Condition) (args : List Value) (d : Draft) :
    (∃ e next, (filter f condition args).run.run d = (.error e, ⟨d.statement, next⟩)) ∨
      ∃ written params, (filter f condition args).run.run d =
        (.ok (), ⟨{ d.statement with condition := written, params := params },
          1 + params.length⟩) := by
  cases condition with
  | text written => exact .inr ⟨written, args, rfl⟩
  | key v =>
    rw [run_filter_key]
    cases d.statement.keyName with
    | error e => exact .inl ⟨e, _, rfl⟩
    | ok key =>
      refine .inr ⟨f.appendMarker (f.quote key ++ " = ") (1 + args.length), args ++ [v], ?_⟩
      rw [List.length_append, List.length_singleton, Nat.add_assoc]

end RecordSql.Statement.Draft
