import RecordSql.Database.Catalog
import RecordSql.Proofs.Database.Exchange
import RecordSql.Proofs.MySql.Conversion
import RecordSql.Proofs.Number.Digits
import RecordSql.Proofs.Text.Letters

/-! # Cells that say the same

A driver can give a text as characters or as their bytes, and a number as one of two kinds of number
or as a text of its digits. Reading the catalog does not see the difference: from answers whose cells
say the same, it makes the same calls and comes to the same result.
-/

namespace RecordSql

/-! ## Values -/

namespace Value

/-- What a cell says, as a text: characters and their bytes say the text, and a number its numeral. -/
inductive Says : Value → String → Prop
  | text (s : String) : Says (.text s) s
  | blob (s : String) : Says (.blob (Text.utf8 s)) s
  | int (n : Int64) : Says (.int n) (toString n.toInt)
  | uint (n : UInt64) : Says (.uint n) (Nat.repr n.toNat)

def Alike (v w : Value) : Prop :=
  v = w ∨ ∃ s, v.Says s ∧ w.Says s

variable {v w : Value} {s word : String}

theorem Alike.refl (v : Value) : v.Alike v :=
  .inl rfl

theorem Says.written?_eq (h : v.Says s) : v.written? = some s := by
  cases h with
  | text => rfl
  | blob => rw [written?, Text.lossy_utf8]
  | int => rfl
  | uint => rfl

theorem readUInt64?_negative (n : Nat) :
    Number.readUInt64? (Text.trim ("-" ++ Nat.repr n)) = none := by
  have hd : ∀ c ∈ '-' :: (Nat.repr n).toList, Text.isBlank c = false := by
    intro c hc
    refine Text.isBlank_of_visible ?_
    rcases List.mem_cons.mp hc with rfl | hc
    · decide
    · have hn := Number.toNat_of_isDigit (Number.isDigit_of_mem_repr hc)
      omega
  have ht : "-" ++ Nat.repr n = String.ofList ('-' :: (Nat.repr n).toList) := by
    simp [← String.toList_inj]
  rw [ht, Text.trim_of_noBlank hd]
  by_contra hne
  obtain ⟨m, hm⟩ := Option.ne_none_iff_exists'.mp hne
  have hn := Number.readUInt64?_eq_some_iff.mp hm
  rw [String.toList_ofList] at hn
  exact absurd (hn.toNat_of_mem List.mem_cons_self) (by decide)

theorem Says.count?_eq (h : v.Says s) : v.count? = Number.readUInt64? (Text.trim s) := by
  have hr : ∀ n : UInt64, Number.readUInt64? (Text.trim (Nat.repr n.toNat)) = some n := by
    intro n
    have hn := Number.numeral_repr n.toNat
    rw [Number.trim_of_numeral hn]
    exact Number.readUInt64?_eq_some_iff.mpr hn
  cases h with
  | text => simp only [count?, string?, Option.bind_some]
  | blob => simp only [count?, string?, Text.ofUtf8?_utf8, Option.bind_some]
  | int n =>
    rw [count?]
    split
    · next hn =>
      have hk : (n.toUInt64.toNat : Int) = n.toInt := by
        rw [Int64.toNat_toUInt64_of_le (Int64.le_iff_toInt_le.mpr hn)]
        exact Int.toNat_of_nonneg hn
      have hs : toString n.toInt = Nat.repr n.toUInt64.toNat := by
        rw [← hk]
        rfl
      rw [hs, hr]
    · next hn =>
      obtain ⟨k, hk⟩ := Int.eq_negSucc_of_lt_zero (Int.not_le.mp hn)
      rw [hk]
      exact (readUInt64?_negative (k + 1)).symm
  | uint n => exact (hr n).symm

theorem any_isAlpha_numeral (n : Int) : (toString n).toList.any Char.isAlpha = false := by
  have hd : ∀ k, (Nat.repr k).toList.any Char.isAlpha = false := by
    intro k
    rw [List.any_eq_false]
    intro c hc ha
    have hn := Number.toNat_of_isDigit (Number.isDigit_of_mem_repr hc)
    have hl := Text.toNat_of_isAlpha ha
    omega
  cases n with
  | ofNat k => exact hd k
  | negSucc k =>
    have ht : toString (Int.negSucc k) = "-" ++ Nat.repr (k + 1) := rfl
    rw [ht, String.toList_append, List.any_append, hd, Bool.or_false]
    decide

theorem Says.string?_eq_iff (h : v.Says s) (hw : word.toList.any Char.isAlpha = true) :
    v.string? = some word ↔ s = word := by
  have hn : ∀ n : Int, toString n ≠ word := by
    rintro n rfl
    rw [any_isAlpha_numeral] at hw
    cases hw
  cases h with
  | text => exact Option.some_inj
  | blob => rw [string?, Text.ofUtf8?_utf8, Option.some_inj]
  | int n => exact iff_of_false (fun h => nomatch h) (hn n.toInt)
  | uint n => exact iff_of_false (fun h => nomatch h) (hn n.toNat)

theorem Alike.written?_eq (h : v.Alike w) : v.written? = w.written? := by
  rcases h with rfl | ⟨s, hv, hw⟩
  · rfl
  · rw [hv.written?_eq, hw.written?_eq]

theorem Alike.count?_eq (h : v.Alike w) : v.count? = w.count? := by
  rcases h with rfl | ⟨s, hv, hw⟩
  · rfl
  · rw [hv.count?_eq, hw.count?_eq]

theorem Alike.string?_eq_iff (h : v.Alike w) (hw : word.toList.any Char.isAlpha = true) :
    v.string? = some word ↔ w.string? = some word := by
  rcases h with rfl | ⟨s, hv, hs⟩
  · rfl
  · rw [hv.string?_eq_iff hw, hs.string?_eq_iff hw]

end Value

/-! ## Rows -/

def Row.Alike (r r' : Row) : Prop :=
  List.Forall₂ Value.Alike r.values r'.values

theorem Row.Alike.get {r r' : Row} (h : r.Alike r') (i : Nat) : (r.get i).Alike (r'.get i) := by
  unfold Row.Alike at h
  unfold Row.get
  generalize r.values = vs, r'.values = ws at h
  induction h generalizing i with
  | nil => exact .refl .null
  | cons hv _ ih =>
    cases i with
    | zero => exact hv
    | succ i => exact ih i

namespace Catalog

variable {r r' : Row} {rows rows' : List Row}

theorem cell_congr (h : r.Alike r') (i : Nat) : cell r i = cell r' i := by
  rw [cell, cell, (h.get i).written?_eq]

theorem readColumn_congr (h : r.Alike r') : readColumn r = readColumn r' := by
  have hn : (r.get 1).string? = some "YES" ↔ (r'.get 1).string? = some "YES" :=
    (h.get 1).string?_eq_iff (by decide)
  have hk : (r.get 4).string? = some "PRI" ↔ (r'.get 4).string? = some "PRI" :=
    (h.get 4).string?_eq_iff (by decide)
  have ha : (r.get 5).string? = some "auto_increment" ↔
      (r'.get 5).string? = some "auto_increment" :=
    (h.get 5).string?_eq_iff (by decide)
  simp only [readColumn, cell_congr h, (h.get 2).written?_eq, hn, hk, ha]

theorem columnOf_congr (h : r.Alike r') : columnOf r = columnOf r' := by
  unfold columnOf
  rw [readColumn_congr h, cell_congr h]

theorem columnsOf_congr (h : List.Forall₂ Row.Alike rows rows') :
    columnsOf rows = columnsOf rows' := by
  induction h with
  | nil => rfl
  | cons hr _ ih => rw [columnsOf, columnsOf, columnOf_congr hr, ih]

theorem addIndexRow_congr (h : r.Alike r') (table : String) (indexes : List Index) :
    addIndexRow table indexes r = addIndexRow table indexes r' := by
  rw [addIndexRow, addIndexRow, (h.get 0).written?_eq, (h.get 1).written?_eq, cell_congr h]

theorem readIndexes_congr (h : List.Forall₂ Row.Alike rows rows') (table : String) :
    readIndexes table rows = readIndexes table rows' := by
  unfold readIndexes
  generalize ([] : List Index) = indexes
  induction h generalizing indexes with
  | nil => rfl
  | cons hr _ ih => rw [List.foldl_cons, List.foldl_cons, addIndexRow_congr hr, ih]

theorem tableOf_congr (h : r.Alike r') (database : String) :
    tableOf database r = tableOf database r' := by
  rw [tableOf, tableOf, (h.get 0).written?_eq, (h.get 1).written?_eq, (h.get 2).count?_eq,
    (h.get 3).count?_eq]

theorem tablesOf_congr (h : List.Forall₂ Row.Alike rows rows') (database : String) :
    tablesOf database rows = tablesOf database rows' := by
  induction h with
  | nil => rfl
  | cons hr _ ih => rw [tablesOf, tablesOf, tableOf_congr hr, ih]

end Catalog

/-! ## Links -/

inductive Item.Alike : Item → Item → Prop
  | row {r r' : Row} (h : r.Alike r') : Alike (.row r) (.row r')
  | affected (a : Affected) : Alike (.affected a) (.affected a)
  | error (f : Failure) : Alike (.error f) (.error f)

theorem Item.rows_alike {items items' : List Item} (h : List.Forall₂ Item.Alike items items') :
    (∃ f, rows items = .error f ∧ rows items' = .error f) ∨
      ∃ rs rs', rows items = .ok rs ∧ rows items' = .ok rs' ∧ List.Forall₂ Row.Alike rs rs' := by
  induction h with
  | nil => exact .inr ⟨[], [], rfl, rfl, .nil⟩
  | cons hi _ ih =>
    cases hi with
    | affected a => exact ih
    | error f => exact .inl ⟨f, rfl, rfl⟩
    | @row r r' hr =>
      rcases ih with ⟨f, he, he'⟩ | ⟨rs, rs', ho, ho', hrs⟩
      · refine .inl ⟨f, ?_, ?_⟩
        · rw [rows, he]
          rfl
        · rw [rows, he']
          rfl
      · refine .inr ⟨r :: rs, r' :: rs', ?_, ?_, .cons hr hrs⟩
        · rw [rows, ho]
          rfl
        · rw [rows, ho']
          rfl

structure Server.Alike (a b : Server) : Prop where
  dialect : a.dialect = b.dialect
  answers : List.Forall₂ (List.Forall₂ Item.Alike) a.answers b.answers
  calls : a.calls = b.calls

theorem Server.Alike.run {a b : Server} (h : a.Alike b) (call : Call) :
    List.Forall₂ Item.Alike (a.run call).1 (b.run call).1 ∧
      (a.run call).2.Alike (b.run call).2 := by
  obtain ⟨hd, ha, hc⟩ := h
  obtain ⟨dialect, answers, calls⟩ := a
  obtain ⟨dialect', answers', calls'⟩ := b
  cases ha with
  | nil => exact ⟨.nil, hd, .nil, congrArg (· ++ [call]) hc⟩
  | cons hi hs => exact ⟨hi, hd, hs, congrArg (· ++ [call]) hc⟩

namespace Link

variable {α β : Type}

structure Alike (l m : Link) : Prop where
  server : l.server.Alike m.server
  journal : l.journal = m.journal

/-- An action is blind to how cells are typed: from links that are alike it has the same result and
leaves links that are alike. -/
def Blind (act : Act α) : Prop :=
  ∀ l m, Alike l m → (act.run.run l).1 = (act.run.run m).1 ∧
    Alike (act.run.run l).2 (act.run.run m).2

theorem blind_pure (a : α) : Blind (pure a : Act α) :=
  fun _ _ h => ⟨rfl, h⟩

theorem blind_throw (f : Failure) : Blind (throw f : Act α) :=
  fun _ _ h => ⟨rfl, h⟩

theorem blind_ofExcept (e : Except Failure α) : Blind (e : Act α) := by
  cases e with
  | error f => exact blind_throw f
  | ok a => exact blind_pure a

theorem Blind.bind {act : Act α} {next : α → Act β} (h : Blind act) (hn : ∀ a, Blind (next a)) :
    Blind (act >>= next) := by
  intro l m hl
  obtain ⟨hr, hs⟩ := h l m hl
  rcases hal : act.run.run l with ⟨e | a, l'⟩ <;> rcases ham : act.run.run m with ⟨e' | a', m'⟩ <;>
    rw [hal, ham] at hr hs
  · cases hr
    rw [Failure.run_bind_error hal, Failure.run_bind_error ham]
    exact ⟨rfl, hs⟩
  · cases hr
  · cases hr
  · cases hr
    rw [Failure.run_bind hal, Failure.run_bind ham]
    exact hn a l' m' hs

theorem blind_note (level : Level) (text : String) : Blind (note level text) :=
  fun _ _ h => ⟨rfl, h.server, congrArg (·.note level text) h.journal⟩

theorem blind_withJournal (act : Journal.Act α) : Blind (withJournal act) := by
  intro l m h
  obtain ⟨server, journal⟩ := l
  obtain ⟨server', journal'⟩ := m
  obtain rfl : journal = journal' := h.journal
  have hj : act.run.run journal = ((act.run.run journal).1, (act.run.run journal).2) := rfl
  rw [run_withJournal hj, run_withJournal hj]
  exact ⟨rfl, h.server, rfl⟩

theorem blind_fetch_bind {call : Call} {next : List Row → Act β} (hn : ∀ rows, Blind (next rows))
    (hc : ∀ rows rows', List.Forall₂ Row.Alike rows rows' → next rows = next rows') :
    Blind (fetch call >>= next) := by
  intro l m h
  obtain ⟨ha, hs⟩ := h.server.run call
  have hl : Alike ⟨(l.server.run call).2, l.journal⟩ ⟨(m.server.run call).2, m.journal⟩ :=
    ⟨hs, h.journal⟩
  rcases Item.rows_alike ha with ⟨f, he, he'⟩ | ⟨rs, rs', ho, ho', hrs⟩
  · have hf : (fetch call).run.run l = (.error f, ⟨(l.server.run call).2, l.journal⟩) :=
      (run_fetch l call).trans (congrArg (·, _) he)
    have hf' : (fetch call).run.run m = (.error f, ⟨(m.server.run call).2, m.journal⟩) :=
      (run_fetch m call).trans (congrArg (·, _) he')
    rw [Failure.run_bind_error hf, Failure.run_bind_error hf']
    exact ⟨rfl, hl⟩
  · have hf : (fetch call).run.run l = (.ok rs, ⟨(l.server.run call).2, l.journal⟩) :=
      (run_fetch l call).trans (congrArg (·, _) ho)
    have hf' : (fetch call).run.run m = (.ok rs', ⟨(m.server.run call).2, m.journal⟩) :=
      (run_fetch m call).trans (congrArg (·, _) ho')
    rw [Failure.run_bind hf, Failure.run_bind hf', ← hc rs rs' hrs]
    exact hn rs _ _ hl

end Link

/-! ## Reading the catalog -/

namespace Catalog

open Link (Blind)

theorem blind_queries : Blind queries := by
  intro l m h
  rw [queries, Failure.run_get_bind, Failure.run_get_bind]
  dsimp only
  rw [← h.server.dialect]
  cases l.server.dialect.flavor.catalogQueries? with
  | some q => exact Link.blind_pure q l m h
  | none => exact ((Link.blind_note _ _).bind fun _ => Link.blind_throw _) l m h

theorem blind_columns (database table : String) : Blind (columns database table) :=
  blind_queries.bind fun _ =>
    Link.blind_fetch_bind (fun rows => Link.blind_withJournal (columnsOf rows))
      fun _ _ h => congrArg Link.withJournal (columnsOf_congr h)

theorem blind_indexes (database table : String) : Blind (indexes database table) :=
  blind_queries.bind fun _ =>
    Link.blind_fetch_bind (fun rows => Link.blind_pure (readIndexes table rows))
      fun _ _ h => congrArg pure (readIndexes_congr h table)

theorem blind_tableOf (database : String) (r : Row) : Blind (tableOf database r) := by
  unfold tableOf
  split
  · exact Link.blind_pure none
  · next name _ =>
    refine (blind_columns database name).bind fun cs => ?_
    refine (Link.blind_ofExcept _).bind fun t => ?_
    refine (blind_indexes database name).bind fun is => ?_
    exact (Link.blind_note _ _).bind fun _ => Link.blind_pure _

theorem blind_tablesOf (database : String) (rows : List Row) : Blind (tablesOf database rows) := by
  induction rows with
  | nil => exact Link.blind_pure []
  | cons r rows ih =>
    refine (blind_tableOf database r).bind fun t => ?_
    exact ih.bind fun ts => Link.blind_pure _

theorem blind_tables (database : String) : Blind (tables database) :=
  blind_queries.bind fun _ =>
    Link.blind_fetch_bind (blind_tablesOf database) fun _ _ h => tablesOf_congr h database

end Catalog

/-- From two servers, an action has the same result, makes the same calls and takes down the same. -/
def Server.Agree {α : Type} (a b : Server) (act : Link.Act α) : Prop :=
  ∀ j : Journal, (act.run.run ⟨a, j⟩).1 = (act.run.run ⟨b, j⟩).1 ∧
    (act.run.run ⟨a, j⟩).2.server.calls = (act.run.run ⟨b, j⟩).2.server.calls ∧
    (act.run.run ⟨a, j⟩).2.journal = (act.run.run ⟨b, j⟩).2.journal

theorem Link.Blind.agree {α : Type} {act : Link.Act α} (h : Link.Blind act) {a b : Server}
    (hs : a.Alike b) : a.Agree b act := by
  intro j
  obtain ⟨hr, hl⟩ := h ⟨a, j⟩ ⟨b, j⟩ ⟨hs, rfl⟩
  exact ⟨hr, hl.server.calls, hl.journal⟩

/-- Servers whose answers differ at most in how cells are typed that say the same are read back to
the same tables, columns and indexes, or to the same failure, by the same calls. -/
theorem catalog_agrees {a b : Server} (h : a.Alike b) (database table : String) :
    a.Agree b (Catalog.tables database) ∧ a.Agree b (Catalog.columns database table) ∧
      a.Agree b (Catalog.indexes database table) :=
  ⟨(Catalog.blind_tables database).agree h, (Catalog.blind_columns database table).agree h,
    (Catalog.blind_indexes database table).agree h⟩

def sizedServer (text : String → Value) (number : UInt64 → Value) : Server :=
  ⟨.mysql, [
    [.row ⟨["TABLE_NAME"], [text "city", text "InnoDB", number 12, .null]⟩],
    [.row ⟨[], [text "id", text "NO", .null, text "int(11)", text "PRI", text "auto_increment"]⟩,
      .row ⟨[], [text "size", text "YES", number 5, text "bigint", text "", text ""]⟩],
    [.row ⟨[], [text "UQE_city_size", number 0, text "size"]⟩]], []⟩

def sizedTable : Table :=
  { Table.empty "city" with
    columns := [
      { Column.ofType "id" .int with
        length := 11, nullable := false, primaryKey := true, autoIncrement := true },
      { Column.ofType "size" .bigint with default := some "5", unique := .single }]
    primaryKey := some "id"
    uniques := [⟨"size", ["size"]⟩]
    storeEngine := some "InnoDB"
    rowEstimate := some 12 }

theorem catalog_agrees_sized :
    (sizedServer .text .uint).Alike
        (sizedServer (fun s => .blob (Text.utf8 s)) fun n => .text (Nat.repr n.toNat)) ∧
      ((Catalog.tables "db").run.run ⟨sizedServer .text .uint, .empty true⟩).1 =
        .ok [sizedTable] ∧
      ((Catalog.tables "db").run.run ⟨sizedServer (fun s => .blob (Text.utf8 s))
        fun n => .text (Nat.repr n.toNat), .empty true⟩).1 = .ok [sizedTable] := by
  have ht : ∀ s, (Value.text s).Alike (.blob (Text.utf8 s)) :=
    fun s => .inr ⟨s, .text s, .blob s⟩
  have hn : ∀ n, (Value.uint n).Alike (.text (Nat.repr n.toNat)) :=
    fun n => .inr ⟨_, .uint n, .text _⟩
  have hs : (sizedServer .text .uint).Alike
      (sizedServer (fun s => .blob (Text.utf8 s)) fun n => .text (Nat.repr n.toNat)) := by
    refine ⟨rfl, .cons ?tables (.cons ?columns (.cons ?indexes .nil)), rfl⟩
    case tables =>
      exact .cons (.row (.cons (ht _) (.cons (ht _) (.cons (hn _) (.cons (.refl _) .nil))))) .nil
    case columns =>
      have hid := List.Forall₂.cons (ht "id") (.cons (ht "NO") (.cons (.refl .null)
        (.cons (ht "int(11)") (.cons (ht "PRI") (.cons (ht "auto_increment") .nil)))))
      have hsize := List.Forall₂.cons (ht "size") (.cons (ht "YES") (.cons (hn 5)
        (.cons (ht "bigint") (.cons (ht "") (.cons (ht "") .nil)))))
      exact .cons (.row hid) (.cons (.row hsize) .nil)
    case indexes => exact .cons (.row (.cons (ht _) (.cons (hn _) (.cons (ht _) .nil)))) .nil
  have hr : ((Catalog.tables "db").run.run ⟨sizedServer .text .uint, .empty true⟩).1 =
      .ok [sizedTable] := by decide +kernel
  exact ⟨hs, hr, ((catalog_agrees hs "db" "city").1 (.empty true)).1.symm.trans hr⟩

end RecordSql
