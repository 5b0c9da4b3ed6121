import RecordSql.Proofs.Sql.Spelling
import RecordSql.Sql.Compiled

/-! # Binding of parameters

A database binds plain markers in the order of the text and numbered markers by their numbers. The
markers of a compiled insert or update are bound to the values of their columns, and those of the
condition to the values that they are bound to in the condition alone.
-/

namespace RecordSql

namespace Flavor

def markers (f : Flavor) (s : String) : List (Option Nat) :=
  Token.markers (f.tokens s)

/-- The values that markers are bound to, as far as there are parameters for them. -/
def bound (f : Flavor) (params : List Value) (markers : List (Option Nat)) : List (Option Value) :=
  match f.placeholder with
  | .plain => (List.range markers.length).map (params[·]?)
  | .numbered _ =>
    markers.map fun number => number.bind fun n => if n = 0 then none else params[n - 1]?

end Flavor

def Call.bindings (f : Flavor) (call : Call) : List (Option Value) :=
  f.bound call.params (f.markers call.sql)

/-- The condition has as many plain markers as there are parameters, or its numbered markers are
numbers of parameters. -/
def Statement.WellBound (f : Flavor) (s : Statement) : Prop :=
  match f.placeholder with
  | .plain => (f.markers s.condition).length = s.params.length
  | .numbered _ =>
    ∀ number ∈ f.markers s.condition, ∃ n, number = some n ∧ 0 < n ∧ n ≤ s.params.length

namespace Flavor

variable {f : Flavor} {s : Statement}

theorem markers_conditionText (f : Flavor) (condition : String) :
    f.markers (conditionText condition) = f.markers condition := by
  have hw : " WHERE ".toList.all isPlain = true := by decide
  unfold markers conditionText appendCondition tokens
  split
  · next h => subst h; cases f <;> decide +kernel
  · simp only [String.empty_append, String.toList_append, List.append_assoc]
    rw [lex_symbols hw, lex_append_end]
    split <;> simp

theorem bound_values (f : Flavor) (values : List Value) :
    f.bound values ((List.range' 1 values.length).map f.number?) = values.map some := by
  unfold bound
  split
  · apply List.ext_getElem <;> simp
  · next mark hm => apply List.ext_getElem <;> simp [number?, hm, Placeholder.isNumbered]

/-- Plain markers in front take the first parameters. -/
theorem bound_plain_append (hf : f.placeholder = .plain) {values : List Value}
    {ns : List (Option Nat)} (hl : ns.length = values.length) (params : List Value)
    (ms : List (Option Nat)) :
    f.bound (values ++ params) (ns ++ ms) = values.map some ++ f.bound params ms := by
  simp only [bound, hf, List.length_append, List.range_add, List.map_append, List.map_map, hl]
  congr 1
  · apply List.ext_getElem
    · simp
    · intro i hi _
      have hi : i < values.length := by simpa using hi
      simp [List.getElem?_append_left hi]
  · refine List.map_congr_left fun j _ => ?_
    simp [List.getElem?_append_right]

/-- Markers numbered behind the parameters of a condition take the values behind them. -/
theorem bound_numbered_append {mark : Char} (hf : f.placeholder = .numbered mark)
    {params : List Value} {ms : List (Option Nat)}
    (h : ∀ number ∈ ms, ∃ n, number = some n ∧ 0 < n ∧ n ≤ params.length) (values : List Value) :
    f.bound (params ++ values)
        ((List.range' (params.length + 1) values.length).map f.number? ++ ms) =
      values.map some ++ f.bound params ms := by
  simp only [bound, hf, List.map_append]
  congr 1
  · apply List.ext_getElem
    · simp
    · intro i hi _
      have hi : i < values.length := by simpa using hi
      simp [number?, hf, Placeholder.isNumbered, hi]
  · refine List.map_congr_left fun number hn => ?_
    obtain ⟨n, rfl, h₀, hl⟩ := h number hn
    simp [Nat.ne_of_gt h₀, List.getElem?_append_left (show n - 1 < params.length by omega)]

end Flavor

namespace Statement

variable {f : Flavor} {s : Statement} {values : List Value} {call : Call}

theorem insertSql_eq_ok_iff :
    s.insertSql f values = .ok call ↔ ∃ columns, s.insertColumns = .ok columns ∧
      columns.length = values.length ∧
      ⟨f.appendInsert "" s.tableName (columns.map (·.name)) 1, values⟩ = call := by
  unfold insertSql
  cases s.insertColumns with
  | error e => simp [bind, Except.bind]
  | ok columns =>
    by_cases hl : columns.length = values.length <;>
      simp [bind, Except.bind, pure, Except.pure, checkArity, hl]

theorem updateSql_eq_ok_iff :
    s.updateSql f values = .ok call ↔ ∃ columns, s.updateColumns = .ok columns ∧
      columns.length = values.length ∧
      (if f.placeholder.isNumbered then
        ⟨f.appendUpdate "" s.tableName (columns.map (·.name)) (s.params.length + 1) s.condition,
          s.params ++ values⟩
      else
        ⟨f.appendUpdate "" s.tableName (columns.map (·.name)) 1 s.condition,
          values ++ s.params⟩) = call := by
  unfold updateSql
  cases s.updateColumns with
  | error e => simp [bind, Except.bind]
  | ok columns =>
    by_cases hl : columns.length = values.length
    · cases hf : f.placeholder.isNumbered <;>
        simp [bind, Except.bind, pure, Except.pure, checkArity, hl]
    · simp [bind, Except.bind, checkArity, hl]

theorem deleteSql_eq_ok_iff :
    s.deleteSql f = .ok call ↔
      s.tableName ≠ "" ∧ ⟨f.appendDelete "" s.tableName s.condition, s.params⟩ = call := by
  unfold deleteSql
  split <;> simp [*]

theorem WellBound.isSome_of_mem (h : s.WellBound f) :
    ∀ v ∈ f.bound s.params (f.markers s.condition), v.isSome = true := by
  unfold WellBound at h
  unfold Flavor.bound
  split at h
  · simp [h]
  · intro v hv
    obtain ⟨number, hn, rfl⟩ := List.mem_map.mp hv
    obtain ⟨n, rfl, h₀, hl⟩ := h number hn
    simp [Nat.ne_of_gt h₀]
    omega

theorem insertSql_bindings (h : s.insertSql f values = .ok call) :
    ∃ columns markers, s.insertColumns = .ok columns ∧
      f.tokens call.sql = Token.insert s.tableName (columns.map (·.name)) markers ∧
      markers.length = columns.length ∧ markers.length = call.params.length ∧
      call.bindings f = values.map some := by
  obtain ⟨columns, hc, hl, rfl⟩ := insertSql_eq_ok_iff.mp h
  have ht := f.tokens_appendInsert s.tableName (columns.map (·.name)) 1
  refine ⟨columns, _, hc, ht, by simp, by simpa using hl, ?_⟩
  rw [Call.bindings, Flavor.markers, ht, Token.markers_insert, List.length_map, hl]
  exact f.bound_values values

theorem markers_appendUpdate (f : Flavor) (table : String) (columns : List String) (first : Nat)
    (condition : String) :
    f.markers (f.appendUpdate "" table columns first condition) =
      (List.range' first columns.length).map f.number? ++ f.markers condition := by
  rw [Flavor.markers, f.tokens_appendUpdate, Token.markers_append, Token.markers_update,
    ← Flavor.markers, f.markers_conditionText, List.map_snd_zip (by simp)]

theorem updateSql_bindings (hw : s.WellBound f) (h : s.updateSql f values = .ok call) :
    ∃ columns markers, s.updateColumns = .ok columns ∧
      f.tokens call.sql = Token.update s.tableName ((columns.map (·.name)).zip markers) ++
        f.tokens (Flavor.conditionText s.condition) ∧
      markers.length = columns.length ∧ markers.length = values.length ∧
      call.bindings f = values.map some ++ f.bound s.params (f.markers s.condition) := by
  obtain ⟨columns, hc, hl, rfl⟩ := updateSql_eq_ok_iff.mp h
  have hn : (columns.map (·.name)).length = values.length := by simpa using hl
  cases hf : f.placeholder with
  | plain =>
    refine ⟨columns, _, hc, f.tokens_appendUpdate .., by simp, by simpa using hl, ?_⟩
    rw [Call.bindings, if_neg (by simp [Placeholder.isNumbered]), markers_appendUpdate]
    exact Flavor.bound_plain_append hf (by simpa using hn) _ _
  | numbered mark =>
    refine ⟨columns, _, hc, f.tokens_appendUpdate .., by simp, by simpa using hl, ?_⟩
    have hb : ∀ number ∈ f.markers s.condition,
        ∃ n, number = some n ∧ 0 < n ∧ n ≤ s.params.length := by
      simpa [WellBound, hf] using hw
    rw [Call.bindings, if_pos (by simp [Placeholder.isNumbered]), markers_appendUpdate, hn]
    exact Flavor.bound_numbered_append hf hb values

theorem deleteSql_bindings (h : s.deleteSql f = .ok call) :
    f.tokens call.sql = Token.delete s.tableName ++
        f.tokens (Flavor.conditionText s.condition) ∧
      call.bindings f = f.bound s.params (f.markers s.condition) := by
  obtain ⟨-, rfl⟩ := deleteSql_eq_ok_iff.mp h
  have ht := f.tokens_appendDelete s.tableName s.condition
  refine ⟨ht, ?_⟩
  rw [Call.bindings, Flavor.markers, ht, Token.markers_append, Token.markers_delete,
    List.nil_append, ← Flavor.markers, f.markers_conditionText]

end Statement

/-- Compiled changes bind the values of columns to their columns and leave the condition bound to
its own parameters. -/
theorem changes_bound {f : Flavor} {s : Statement} (h : s.WellBound f) (values : List Value)
    (call : Call) :
    (s.insertSql f values = .ok call →
      ∃ columns markers, s.insertColumns = .ok columns ∧
        f.tokens call.sql = Token.insert s.tableName (columns.map (·.name)) markers ∧
        markers.length = columns.length ∧ markers.length = call.params.length ∧
        call.bindings f = values.map some) ∧
    (s.updateSql f values = .ok call →
      ∃ columns markers, s.updateColumns = .ok columns ∧
        f.tokens call.sql = Token.update s.tableName ((columns.map (·.name)).zip markers) ++
          f.tokens (Flavor.conditionText s.condition) ∧
        markers.length = columns.length ∧ markers.length = values.length ∧
        call.bindings f = values.map some ++ f.bound s.params (f.markers s.condition)) ∧
    (s.deleteSql f = .ok call →
      f.tokens call.sql = Token.delete s.tableName ++
          f.tokens (Flavor.conditionText s.condition) ∧
        call.bindings f = f.bound s.params (f.markers s.condition)) ∧
    ∀ v ∈ f.bound s.params (f.markers s.condition), v.isSome = true :=
  ⟨Statement.insertSql_bindings, Statement.updateSql_bindings h, Statement.deleteSql_bindings,
    h.isSome_of_mem⟩

def markedStatement : Statement :=
  { Statement.ofTable { Table.empty "t:1" with
      columns := [Column.ofType "a\" = :2" .int, Column.ofType ":3" .text] } with
    condition := "\":9\" > :2 or b = ':1;' and c < :1"
    params := [.int 7, .text "x"] }

theorem changes_bound_marked :
    ∃ call, markedStatement.updateSql .oracle [.null, .text "y"] = .ok call ∧
      call.bindings .oracle = [some .null, some (.text "y"), some (.text "x"), some (.int 7)] := by
  have hm : Flavor.oracle.markers markedStatement.condition = [some 2, some 1] := by
    decide +kernel
  have hw : markedStatement.WellBound .oracle := by
    intro number hn
    simp only [hm, List.mem_cons, List.not_mem_nil, or_false] at hn
    rcases hn with rfl | rfl
    · exact ⟨2, rfl, by decide, by decide⟩
    · exact ⟨1, rfl, by decide, by decide⟩
  obtain ⟨-, -, -, -, -, -, hb⟩ := (changes_bound hw [.null, .text "y"] _).2.1 rfl
  exact ⟨_, rfl, by rw [hb, hm]; rfl⟩

end RecordSql
