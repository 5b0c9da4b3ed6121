import RecordSql.Proofs.Sql.Appending

/-! # Refused selects

A select is refused if it has no table, if it skips rows without a limit, or if its rows have to be
numbered and either are grouped or have no order. No other select is refused, and to skip no rows is
the same as not to ask for it.
-/

namespace RecordSql

namespace Statement

def Skips (s : Statement) : Prop :=
  ∃ n, s.offset = some n ∧ 0 < n

def Groups (s : Statement) : Prop :=
  s.groupBy ≠ "" ∨ s.having ≠ ""

/-- Whether a statement gives its rows an order, if only by the primary key of its table. -/
def Orders (s : Statement) : Prop :=
  s.order ≠ "" ∨ ∃ t key, s.table = some t ∧ t.primaryKey = some key

variable {s : Statement}

theorem filter_offset_eq_none_iff : s.offset.filter (0 < ·) = none ↔ ¬ s.Skips := by
  simp [Option.filter_eq_none_iff, Skips]

end Statement

namespace Flavor

/-- Whether a flavor numbers the rows of a statement to cut them to a page. -/
def NumbersRows (f : Flavor) (s : Statement) : Prop :=
  f = oracle ∨ f = mssql ∧ s.Skips

inductive Refuses (f : Flavor) (s : Statement) : Failure → Prop
  | unnamed (ht : s.tableName = "") : Refuses f s (.of .selectWithoutTable)
  | offsetAlone (ht : s.tableName ≠ "") (hl : s.limit = none) (hs : s.Skips) :
      Refuses f s (.pagination .offsetAlone)
  | grouped (ht : s.tableName ≠ "") (hl : s.limit ≠ none) (hn : f.NumbersRows s)
      (hg : s.Groups) : Refuses f s (.pagination (.grouped f.dialect))
  | unordered (ht : s.tableName ≠ "") (hl : s.limit ≠ none) (hn : f.NumbersRows s)
      (hg : ¬ s.Groups) (ho : ¬ s.Orders) : Refuses f s (.pagination (.unordered s.tableName))

variable {f : Flavor} {s : Statement} {e : Failure} {limit offset : Nat}

theorem numberingOrder_eq_error_iff :
    numberingOrder s = .error e ↔ ¬ s.Orders ∧ e = .pagination (.unordered s.tableName) := by
  have hk : s.table.bind (·.primaryKey) = none ↔
      ¬ ∃ t key, s.table = some t ∧ t.primaryKey = some key := by
    cases s.table <;> simp [Option.eq_none_iff_forall_ne_some]
  unfold numberingOrder Statement.Orders
  rw [not_or, ← hk]
  by_cases ho : s.order = ""
  · cases s.table.bind (·.primaryKey) <;> simp [ho, eq_comm]
  · simp [ho]

theorem written_writeNumberedSelect_eq_error_iff :
    written (f.writeNumberedSelect s limit offset) = .error e ↔
      s.Groups ∧ e = .pagination (.grouped f.dialect) ∨
        ¬ s.Groups ∧ ¬ s.Orders ∧ e = .pagination (.unordered s.tableName) := by
  have hb : (s.groupBy != "" || s.having != "") = true ↔ s.Groups := by
    simp [Statement.Groups]
  rw [written_writeNumberedSelect]
  by_cases hg : s.Groups
  · rw [if_pos (hb.mpr hg)]
    simp [hg, eq_comm]
  · rw [if_neg (mt hb.mp hg), ← numberingOrder_eq_error_iff]
    cases numberingOrder s <;> simp [hg, Except.map]

theorem refuses_iff_of_unnamed (ht : s.tableName = "") :
    f.Refuses s e ↔ e = .of .selectWithoutTable := by
  constructor
  · rintro (- | ⟨h, -⟩ | ⟨h, -⟩ | ⟨h, -⟩)
    · rfl
    all_goals exact absurd ht h
  · rintro rfl
    exact .unnamed ht

theorem refuses_iff_of_limit_eq_none (ht : s.tableName ≠ "") (hl : s.limit = none) :
    f.Refuses s e ↔ s.Skips ∧ e = .pagination .offsetAlone := by
  constructor
  · rintro (h | ⟨-, -, hs⟩ | ⟨-, h, -⟩ | ⟨-, h, -⟩)
    · exact absurd h ht
    · exact ⟨hs, rfl⟩
    all_goals exact absurd hl h
  · rintro ⟨hs, rfl⟩
    exact .offsetAlone ht hl hs

theorem refuses_iff_of_limit_ne_none (ht : s.tableName ≠ "") (hl : s.limit ≠ none) :
    f.Refuses s e ↔ f.NumbersRows s ∧
      (s.Groups ∧ e = .pagination (.grouped f.dialect) ∨
        ¬ s.Groups ∧ ¬ s.Orders ∧ e = .pagination (.unordered s.tableName)) := by
  constructor
  · rintro (h | ⟨-, h, -⟩ | ⟨-, -, hn, hg⟩ | ⟨-, -, hn, hg, ho⟩)
    · exact absurd h ht
    · exact absurd h hl
    · exact ⟨hn, .inl ⟨hg, rfl⟩⟩
    · exact ⟨hn, .inr ⟨hg, ho, rfl⟩⟩
  · rintro ⟨hn, ⟨hg, rfl⟩ | ⟨hg, ho, rfl⟩⟩
    · exact .grouped ht hl hn hg
    · exact .unordered ht hl hn hg ho

theorem selectSql_eq_numbered_or_ok (ht : s.tableName ≠ "") (hl : s.limit = some limit) :
    f.NumbersRows s ∧ s.selectSql f =
        written (f.writeNumberedSelect s limit ((s.offset.filter (0 < ·)).getD 0)) ∨
      ¬ f.NumbersRows s ∧ ∃ sql, s.selectSql f = .ok sql := by
  have hn : f.NumbersRows s ↔ f = oracle ∨ f = mssql ∧ s.offset.filter (0 < ·) ≠ none := by
    rw [NumbersRows, ne_eq, s.filter_offset_eq_none_iff, not_not]
  rw [s.selectSql_of_limit_eq_some ht hl, hn]
  cases s.offset.filter (0 < ·) <;> cases f <;> simp [pagination]

theorem selectSql_eq_error_iff : s.selectSql f = .error e ↔ f.Refuses s e := by
  by_cases ht : s.tableName = ""
  · rw [refuses_iff_of_unnamed ht, s.selectSql_of_unnamed ht, Except.error.injEq, eq_comm]
  cases hl : s.limit with
  | none =>
    rw [refuses_iff_of_limit_eq_none ht hl, s.selectSql_of_limit_eq_none ht hl]
    by_cases hs : s.Skips
    · have ho := mt s.filter_offset_eq_none_iff.mp (not_not.mpr hs)
      simp [Option.isSome_iff_ne_none.mpr ho, hs, eq_comm]
    · simp [s.filter_offset_eq_none_iff.mpr hs, hs]
  | some limit =>
    rw [refuses_iff_of_limit_ne_none ht (by simp [hl])]
    rcases selectSql_eq_numbered_or_ok ht hl with ⟨hn, he⟩ | ⟨hn, sql, he⟩
    · rw [he, written_writeNumberedSelect_eq_error_iff, and_iff_right hn]
    · simp [he, hn]

theorem run_writeSelect_eq_error_iff (f : Flavor) (s : Statement) (out : String) (e : Failure) :
    ((f.writeSelect s).run.run out).1 = .error e ↔ f.Refuses s e := by
  rw [← selectSql_eq_error_iff, f.emits_writeSelect s]
  cases s.selectSql f <;> simp

end Flavor

/-- A select fails exactly if it is refused: without a table, if it skips rows without a limit, or
if its rows have to be numbered and are grouped or have no order; the last two failures are about
pagination. To skip no rows is the same as not to ask for it. -/
theorem select_fails_iff (f : Flavor) (s : Statement) (out : String) :
    ((∃ e, ((f.writeSelect s).run.run out).1 = .error e) ↔
      s.tableName = "" ∨ s.limit = none ∧ s.Skips ∨
        s.limit ≠ none ∧ f.NumbersRows s ∧ (s.Groups ∨ ¬ s.Orders)) ∧
    (∀ e, ((f.writeSelect s).run.run out).1 = .error e ↔ f.Refuses s e) ∧
    (∀ e, f.Refuses s e → s.tableName ≠ "" → ∃ fault, e = .of (.unsupportedPagination fault)) ∧
    f.writeSelect { s with offset := some 0 } = f.writeSelect { s with offset := none } := by
  refine ⟨?_, f.run_writeSelect_eq_error_iff s out, ?_, rfl⟩
  · simp only [Flavor.run_writeSelect_eq_error_iff]
    constructor
    · rintro ⟨e, ht | ⟨-, hl, hs⟩ | ⟨-, hl, hn, hg⟩ | ⟨-, hl, hn, -, ho⟩⟩
      · exact .inl ht
      · exact .inr (.inl ⟨hl, hs⟩)
      · exact .inr (.inr ⟨hl, hn, .inl hg⟩)
      · exact .inr (.inr ⟨hl, hn, .inr ho⟩)
    · intro h
      by_cases ht : s.tableName = ""
      · exact ⟨_, .unnamed ht⟩
      rcases h.resolve_left ht with ⟨hl, hs⟩ | ⟨hl, hn, h⟩
      · exact ⟨_, .offsetAlone ht hl hs⟩
      · by_cases hg : s.Groups
        · exact ⟨_, .grouped ht hl hn hg⟩
        · exact ⟨_, .unordered ht hl hn hg (h.resolve_left hg)⟩
  · rintro e (ht | _ | _ | _) hne
    · exact absurd ht hne
    all_goals exact ⟨_, rfl⟩

end RecordSql
