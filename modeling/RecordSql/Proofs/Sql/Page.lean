import Mathlib.Data.List.DropRight
import RecordSql.Proofs.Sql.Spelling
import RecordSql.Sql.Compiled

/-! # Pages of rows

The text of a select that is cut to a page is read as the page that it asks for. A `LIMIT` clause
with an offset skips rows, whereas a numbered select takes the offset and the limit for the numbers
of its first and its last row; so the dialects ask for the same rows only where both are without
rows, or where no row is skipped.
-/

namespace RecordSql

inductive Page
  | first (limit : Nat)
  | skip (offset limit : Nat)
  | between (low high : Nat)
  deriving DecidableEq

namespace Page

variable {α : Type}

/-- The rows on a page; numbers of rows start from 1. -/
def rows : Page → List α → List α
  | first limit, rs => rs.take limit
  | skip offset limit, rs => (rs.drop offset).take limit
  | between low high, rs =>
    ((rs.zipIdx 1).filter fun r => low ≤ r.2 && r.2 ≤ high).map (·.1)

theorem filter_zipIdx (rs : List α) (low high start : Nat) :
    ((rs.zipIdx start).filter fun r => low ≤ r.2 && r.2 ≤ high).map (·.1) =
      (rs.take (high + 1 - start)).drop (low - start) := by
  induction rs generalizing start with
  | nil => simp
  | cons r rs ih =>
    rw [List.zipIdx_cons, List.filter_cons]
    by_cases hh : start ≤ high
    · have ht : high + 1 - start = high + 1 - (start + 1) + 1 := by omega
      rw [ht, List.take_succ_cons]
      by_cases hl : low ≤ start
      · have hd : low - start = 0 ∧ low - (start + 1) = 0 := by omega
        simp [hl, hh, ih, hd]
      · have hd : low - start = low - (start + 1) + 1 := by omega
        simp [hl, ih, hd]
    · have ht : high + 1 - start = 0 ∧ high + 1 - (start + 1) = 0 := by omega
      simp [hh, ih, ht]

theorem rows_between (rs : List α) (low high : Nat) :
    (between low high).rows rs = (rs.take high).drop (low - 1) :=
  filter_zipIdx rs low high 1

theorem rows_between_zero (rs : List α) (limit : Nat) :
    (between 0 limit).rows rs = (first limit).rows rs := by
  rw [rows_between, rows, Nat.zero_sub, List.drop_zero]

/-- Skipping rows and numbering them never gives the same rows, but both may give none. -/
theorem rows_skip_eq_between_iff (rs : List α) (limit : Nat) {offset : Nat} (h : 0 < offset) :
    (skip offset limit).rows rs.zipIdx = (between offset limit).rows rs.zipIdx ↔
      limit = 0 ∨ rs.length < offset ∨ rs.length = offset ∧ limit < offset := by
  rw [rows_between]
  constructor
  · intro he
    by_contra hc
    have hs := congrArg List.head? he
    have hl := congrArg List.length he
    simp only [rows, List.length_take, List.length_drop, List.length_zipIdx] at hl
    rw [rows, List.head?_take, List.head?_drop, List.head?_drop, List.getElem?_take,
      List.getElem?_zipIdx, List.getElem?_zipIdx] at hs
    have ho : offset < rs.length := by omega
    have hp : offset - 1 < limit ∧ offset - 1 < rs.length := by omega
    rw [if_neg (by omega), if_pos hp.1, List.getElem?_eq_getElem ho,
      List.getElem?_eq_getElem hp.2] at hs
    simp at hs
    omega
  · intro hc
    have hn : ((skip offset limit).rows rs.zipIdx).length = 0 := by
      simp only [rows, List.length_take, List.length_drop, List.length_zipIdx]
      omega
    have hb : ((rs.zipIdx.take limit).drop (offset - 1)).length = 0 := by
      simp only [List.length_take, List.length_drop, List.length_zipIdx]
      omega
    rw [List.length_eq_zero_iff.mp hn, List.length_eq_zero_iff.mp hb]

end Page

/-! ## Reading a page -/

def readEnd? (word s : String) : Option (String × Nat) := do
  let number ← Number.readDigits? (s.toList.rtakeWhile Char.isDigit)
  let front ← (s.toList.rdropWhile Char.isDigit).dropSuffix? word.toList
  return (String.ofList front, number)

def readTop? (s : String) : Option Page := do
  let s ← s.toList.dropPrefix? "SELECT TOP ".toList
  return .first (← Number.readDigits? (s.takeWhile Char.isDigit))

namespace Flavor

def readLimit? (f : Flavor) (s : String) : Option Page :=
  match readEnd? " LIMIT " s with
  | some (_, limit) => some (.first limit)
  | none =>
    match f with
    | postgres => do
      let (s, offset) ← readEnd? " OFFSET " s
      let (_, limit) ← readEnd? " LIMIT " s
      return .skip offset limit
    | _ => do
      let (s, limit) ← readEnd? ", " s
      let (_, offset) ← readEnd? " LIMIT " s
      return .skip offset limit

def readBetween? (f : Flavor) (s : String) : Option Page := do
  let (s, high) ← readEnd? " and " s
  let (_, low) ← readEnd? (" where " ++ f.rowNumberAlias ++ " between ") s
  return .between low high

/-- The page that a select asks for. -/
def readPage? (f : Flavor) (sql : String) : Option Page :=
  match f.pagination with
  | .limitOffset => f.readLimit? sql
  | .top => readTop? sql <|> f.readBetween? sql
  | .rowNumber => f.readBetween? sql

end Flavor

section

variable {word other : String}

theorem getLast?_append_word (hw : word.toList.getLast?.any (!·.isDigit) = true)
    (front : List Char) : ∀ c ∈ (front ++ word.toList).getLast?, c.isDigit = false := by
  obtain ⟨d, hd, hn⟩ := (Option.any_eq_true ..).mp hw
  intro c hc
  obtain rfl : d = c := by simpa [List.getLast?_append, hd] using hc
  simpa using hn

theorem readEnd?_append (ho : other.toList.getLast?.any (!·.isDigit) = true) (front : String)
    (n : Nat) :
    readEnd? word (front ++ other ++ Nat.repr n) =
      ((front.toList ++ other.toList).dropSuffix? word.toList).map (String.ofList ·, n) := by
  have hd : ∀ c ∈ (Nat.repr n).toList.reverse, c.isDigit = true :=
    fun c hc => Number.isDigit_of_mem_repr (List.mem_reverse.mp hc)
  have hh : ∀ c ∈ (front.toList ++ other.toList).reverse.head?, c.isDigit = false := by
    rw [List.head?_reverse]
    exact getLast?_append_word ho front.toList
  have ht : (front ++ other ++ Nat.repr n).toList.rtakeWhile Char.isDigit =
      (Nat.repr n).toList := by
    rw [String.toList_append, String.toList_append, List.rtakeWhile, List.reverse_append,
      Number.takeWhile_isDigit_append hh, List.takeWhile_eq_self_iff.mpr hd, List.reverse_reverse]
  have hr : (front ++ other ++ Nat.repr n).toList.rdropWhile Char.isDigit =
      front.toList ++ other.toList := by
    rw [String.toList_append, String.toList_append, List.rdropWhile, List.reverse_append,
      Number.dropWhile_isDigit_append hh, List.dropWhile_eq_nil_iff.mpr hd, List.nil_append,
      List.reverse_reverse]
  rw [readEnd?, ht, hr, Number.readDigits?_repr]
  cases (front.toList ++ other.toList).dropSuffix? word.toList <;> rfl

theorem readEnd?_word (hw : word.toList.getLast?.any (!·.isDigit) = true) (front : String)
    (n : Nat) : readEnd? word (front ++ word ++ Nat.repr n) = some (front, n) := by
  have hs : (front.toList ++ word.toList).dropSuffix? word.toList = some front.toList :=
    List.dropSuffix?_eq_some_iff.mpr ⟨_, rfl, BEq.rfl⟩
  rw [readEnd?_append hw, hs, Option.map_some, String.ofList_toList]

theorem readEnd?_other (ho : other.toList.getLast?.any (!·.isDigit) = true)
    (h : ¬ word.toList <:+ other.toList ∧ ¬ other.toList <:+ word.toList) (front : String)
    (n : Nat) : readEnd? word (front ++ other ++ Nat.repr n) = none := by
  rw [readEnd?_append ho, Option.map_eq_none_iff]
  by_contra hs
  obtain ⟨p, hp⟩ := Option.ne_none_iff_exists'.mp hs
  obtain ⟨t, he, ht⟩ := List.dropSuffix?_eq_some_iff.mp hp
  obtain rfl : t = word.toList := eq_of_beq ht
  rcases List.suffix_or_suffix_of_suffix ⟨p, he.symm⟩
    (List.suffix_append front.toList other.toList) with hc | hc
  · exact h.1 hc
  · exact h.2 hc

end

variable {f : Flavor} {s : Statement} {limit : Nat}

def Statement.numberedList (s : Statement) : String :=
  if s.columnList = "*" then s.tableName ++ ".*" else s.columnList

namespace Flavor

theorem readLimit?_appendLimit (f : Flavor) (out : String) (limit : Nat) (offset : Option Nat) :
    f.readLimit? (f.appendLimit out limit offset) =
      some (offset.elim (.first limit) (.skip · limit)) := by
  have hl : ∀ out n, readEnd? " LIMIT " (out ++ " LIMIT " ++ Nat.repr n) = some (out, n) :=
    readEnd?_word (by decide)
  have ho : ∀ out n, readEnd? " OFFSET " (out ++ " OFFSET " ++ Nat.repr n) = some (out, n) :=
    readEnd?_word (by decide)
  have hc : ∀ out n, readEnd? ", " (out ++ ", " ++ Nat.repr n) = some (out, n) :=
    readEnd?_word (by decide)
  have hlo : ∀ out n, readEnd? " LIMIT " (out ++ " OFFSET " ++ Nat.repr n) = none :=
    readEnd?_other (by decide) (by decide)
  have hlc : ∀ out n, readEnd? " LIMIT " (out ++ ", " ++ Nat.repr n) = none :=
    readEnd?_other (by decide) (by decide)
  cases offset with
  | none => cases f <;> simp [readLimit?, appendLimit, hl]
  | some offset => cases f <;> simp [readLimit?, appendLimit, hl, ho, hc, hlo, hlc]

theorem readBetween?_append (f : Flavor) (out : String) (low high : Nat) :
    f.readBetween? (out ++ " where " ++ f.rowNumberAlias ++ " between " ++ Nat.repr low ++
      " and " ++ Nat.repr high) = some (.between low high) := by
  have ha : ∀ out n, readEnd? " and " (out ++ " and " ++ Nat.repr n) = some (out, n) :=
    readEnd?_word (by decide)
  have hb : ∀ out n, readEnd? (" where " ++ f.rowNumberAlias ++ " between ")
      (out ++ (" where " ++ f.rowNumberAlias ++ " between ") ++ Nat.repr n) = some (out, n) :=
    readEnd?_word (by cases f <;> decide)
  have hout : out ++ " where " ++ f.rowNumberAlias ++ " between " =
      out ++ (" where " ++ f.rowNumberAlias ++ " between ") := by
    simp only [String.append_assoc]
  simp [readBetween?, hout, ha, hb]

theorem readTop?_append (top : Nat) (rest : String) :
    readTop? ("SELECT " ++ ("TOP " ++ Nat.repr top ++ " ") ++ rest) = some (.first top) := by
  have hb : ∀ c ∈ (" " ++ rest).toList.head?, c.isDigit = false := by simp
  have hs : ("SELECT " ++ ("TOP " ++ Nat.repr top ++ " ") ++ rest).toList =
      "SELECT TOP ".toList ++ ((Nat.repr top).toList ++ (" " ++ rest).toList) := by simp
  rw [readTop?, hs, List.dropPrefix?_append_of_beq _ BEq.rfl]
  simp only [Option.bind_eq_bind, Option.bind_some, Number.takeWhile_repr_append hb,
    Number.readDigits?_repr]
  rfl

theorem appendClause_eq (out word clause : String) :
    appendClause out word clause = out ++ appendClause "" word clause := by
  unfold appendClause
  split <;> simp [String.append_assoc]

theorem appendSource_eq (out : String) (s : Statement) :
    appendSource out s = out ++ appendSource "" s := by
  unfold appendSource
  rw [appendClause_eq, appendCondition_eq, appendCondition_eq (appendClause "" _ _),
    String.append_assoc]

def selectEnd (s : Statement) : String :=
  appendSource "" s ++ (appendClause "" " GROUP BY " s.groupBy ++
    (appendClause "" " HAVING " s.having ++ appendClause "" " ORDER BY " s.order))

theorem appendSelectEnd_eq (out : String) (s : Statement) :
    appendClause (appendClause (appendClause (appendSource out s) " GROUP BY " s.groupBy)
      " HAVING " s.having) " ORDER BY " s.order = out ++ selectEnd s := by
  rw [appendClause_eq _ " ORDER BY ", appendClause_eq _ " HAVING ",
    appendClause_eq _ " GROUP BY ", appendSource_eq]
  simp only [selectEnd, String.append_assoc]

theorem readTop?_appendPlainSelect (s : Statement) (top : Nat) :
    readTop? (appendPlainSelect "" s (some top)) = some (.first top) := by
  simp only [appendPlainSelect, String.empty_append, appendSelectEnd_eq]
  simpa only [String.append_assoc] using readTop?_append top _

def numberFilter (f : Flavor) (limit offset : Nat) : String :=
  ")" ++ f.subqueryAlias ++ " where " ++ f.rowNumberAlias ++ " between " ++ Nat.repr offset ++
    " and " ++ Nat.repr limit

def numberedHead (f : Flavor) (s : Statement) (order : String) : String :=
  "select " ++ s.columnList ++ " from (select ROW_NUMBER() OVER(order by " ++ order ++ " )as " ++
    f.rowNumberAlias ++ "," ++ s.numberedList ++ " from " ++ s.tableName

def numberedSelect (f : Flavor) (s : Statement) (limit offset : Nat) (order : String) : String :=
  f.numberedHead s order ++ (appendSource "" s ++ f.numberFilter limit offset)

/-- Writing in place puts a text behind whatever is there, or fails and leaves that as it is. -/
def Emits (write : ExceptT Failure (StateM String) Unit) (x : Except Failure String) : Prop :=
  ∀ out, write.run.run out =
    match x with
    | .ok sql => (.ok (), out ++ sql)
    | .error e => (.error e, out)

theorem Emits.written_eq {write : ExceptT Failure (StateM String) Unit}
    {x : Except Failure String} (h : Emits write x) : written write = x := by
  rw [written, h]
  cases x with
  | ok sql => exact congrArg Except.ok String.empty_append
  | error e => rfl

theorem emits_modify {append : String → String} (h : ∀ out, append out = out ++ append "") :
    Emits (modify append) (.ok (append "")) :=
  fun out => congrArg (Prod.mk (Except.ok ())) (h out)

theorem emits_writeNumberedSelect (f : Flavor) (s : Statement) (limit offset : Nat) :
    Emits (f.writeNumberedSelect s limit offset)
      (if s.groupBy != "" || s.having != "" then .error (.pagination (.grouped f.dialect))
        else (numberingOrder s).map (f.numberedSelect s limit offset)) := by
  intro out
  unfold writeNumberedSelect
  cases s.groupBy != "" || s.having != "" with
  | true => rfl
  | false =>
    cases numberingOrder s with
    | error e => rfl
    | ok order =>
      refine congrArg (Prod.mk (Except.ok ())) ?_
      dsimp only
      rw [appendSource_eq]
      unfold numberedSelect numberedHead numberFilter Statement.numberedList
      simp only [String.append_assoc]

theorem written_writeNumberedSelect (f : Flavor) (s : Statement) (limit offset : Nat) :
    written (f.writeNumberedSelect s limit offset) =
      if s.groupBy != "" || s.having != "" then .error (.pagination (.grouped f.dialect))
      else (numberingOrder s).map (f.numberedSelect s limit offset) :=
  (f.emits_writeNumberedSelect s limit offset).written_eq

theorem written_writeNumberedSelect_eq_ok {offset : Nat} {sql : String}
    (h : written (f.writeNumberedSelect s limit offset) = .ok sql) :
    ∃ order, numberingOrder s = .ok order ∧ sql = f.numberedSelect s limit offset order := by
  rw [written_writeNumberedSelect] at h
  split at h
  · cases h
  · cases ho : numberingOrder s with
    | error e =>
      rw [ho] at h
      cases h
    | ok order =>
      rw [ho] at h
      cases h
      exact ⟨order, rfl, rfl⟩

theorem appendPlainSelect_eq (out : String) (s : Statement) (top : Option Nat) :
    appendPlainSelect out s top = out ++ appendPlainSelect "" s top := by
  simp only [appendPlainSelect, appendSelectEnd_eq, String.append_assoc, String.empty_append]

theorem appendLimit_eq (f : Flavor) (out : String) (n : Nat) (offset : Option Nat) :
    f.appendLimit out n offset = out ++ f.appendLimit "" n offset := by
  cases offset with
  | none => simp [appendLimit, String.append_assoc]
  | some offset => cases f <;> simp [appendLimit, String.append_assoc]

theorem readTop?_numberedSelect (f : Flavor) (s : Statement) (limit offset : Nat)
    (order : String) : readTop? (f.numberedSelect s limit offset order) = none := by
  unfold numberedSelect numberedHead
  simp [readTop?, List.dropPrefix?]

def page (f : Flavor) (limit offset : Nat) : Page :=
  match f.pagination with
  | .limitOffset => if offset = 0 then .first limit else .skip offset limit
  | .top => if offset = 0 then .first limit else .between offset limit
  | .rowNumber => .between offset limit

theorem filter_offset (offset : Option Nat) :
    offset.filter (0 < ·) = if offset.getD 0 = 0 then none else some (offset.getD 0) := by
  cases offset with
  | none => rfl
  | some offset => cases offset <;> simp

theorem readBetween?_numberedSelect (f : Flavor) (s : Statement) (limit offset : Nat)
    (order : String) :
    f.readBetween? (f.numberedSelect s limit offset order) = some (.between offset limit) := by
  have h := f.readBetween?_append
    (f.numberedHead s order ++ (appendSource "" s ++ (")" ++ f.subqueryAlias))) offset limit
  unfold numberedSelect numberFilter
  simpa only [String.append_assoc] using h

end Flavor

namespace Statement

theorem selectSql_of_unnamed (ht : s.tableName = "") :
    s.selectSql f = .error (.of .selectWithoutTable) := by
  rw [selectSql, Flavor.written, Flavor.writeSelect, if_pos ht]
  rfl

theorem selectSql_of_limit_eq_none (ht : s.tableName ≠ "") (hl : s.limit = none) :
    s.selectSql f = if (s.offset.filter (0 < ·)).isSome then .error (.pagination .offsetAlone)
      else .ok (Flavor.appendPlainSelect "" s none) := by
  rw [selectSql, Flavor.written, Flavor.writeSelect, if_neg ht, hl]
  cases s.offset.filter (0 < ·) <;> rfl

theorem selectSql_of_limit_eq_some (ht : s.tableName ≠ "") (hl : s.limit = some limit) :
    s.selectSql f =
      match f.pagination, s.offset.filter (0 < ·) with
      | .limitOffset, offset => .ok (f.appendLimit (Flavor.appendPlainSelect "" s none) limit offset)
      | .top, none => .ok (Flavor.appendPlainSelect "" s (some limit))
      | _, offset => Flavor.written (f.writeNumberedSelect s limit (offset.getD 0)) := by
  rw [selectSql, Flavor.written, Flavor.writeSelect, if_neg ht, hl]
  cases f.pagination <;> cases s.offset.filter (0 < ·) <;> rfl

variable {α : Type}

/-- The rows that the select of a statement gives out of all rows that match it in order. -/
def selectedRows (s : Statement) (f : Flavor) (rows : List α) : Option (List α) :=
  match s.selectSql f with
  | .ok sql => (f.readPage? sql).map (·.rows rows)
  | .error _ => none

theorem readPage?_selectSql (f : Flavor) (ht : s.tableName ≠ "") (ho : s.order ≠ "")
    (hg : s.groupBy = "") (hh : s.having = "") (hl : s.limit = some limit) :
    ∃ sql, s.selectSql f = .ok sql ∧
      f.readPage? sql = some (f.page limit (s.offset.getD 0)) := by
  have hn : ∀ offset, Flavor.written (f.writeNumberedSelect s limit offset) =
      .ok (f.numberedSelect s limit offset s.order) := by
    intro offset
    have ho' : Flavor.numberingOrder s = .ok s.order := by simp [Flavor.numberingOrder, ho]
    rw [Flavor.written_writeNumberedSelect, hg, hh, ho']
    rfl
  rw [selectSql_of_limit_eq_some ht hl, Flavor.filter_offset, Flavor.page]
  unfold Flavor.readPage?
  cases hf : f.pagination with
  | limitOffset =>
    refine ⟨_, rfl, ?_⟩
    simp only [Flavor.readLimit?_appendLimit]
    split <;> rfl
  | top =>
    by_cases hz : s.offset.getD 0 = 0
    · simp only [hz, if_true]
      exact ⟨_, rfl, by rw [Flavor.readTop?_appendPlainSelect]; rfl⟩
    · simp only [hz, if_false]
      refine ⟨_, hn _, ?_⟩
      rw [Flavor.readTop?_numberedSelect, Flavor.readBetween?_numberedSelect]
      rfl
  | rowNumber =>
    refine ⟨_, ?_, f.readBetween?_numberedSelect s limit (s.offset.getD 0) s.order⟩
    rw [← hn]
    by_cases hz : s.offset.getD 0 = 0 <;> simp [hz]

theorem selectedRows_eq (f : Flavor) (ht : s.tableName ≠ "") (ho : s.order ≠ "")
    (hg : s.groupBy = "") (hh : s.having = "") (hl : s.limit = some limit) (rows : List α) :
    s.selectedRows f rows = some ((f.page limit (s.offset.getD 0)).rows rows) := by
  obtain ⟨sql, hs, hp⟩ := readPage?_selectSql f ht ho hg hh hl
  rw [selectedRows, hs]
  exact congrArg (Option.map _) hp

end Statement

theorem Flavor.rows_page_zero (f : Flavor) {α : Type} (rows : List α) :
    (f.page limit 0).rows rows = (Page.first limit).rows rows := by
  cases f <;> simp [Flavor.page, Flavor.pagination, Page.rows_between_zero]

theorem Flavor.page_of_pos (f : Flavor) (limit : Nat) {offset : Nat} (h : 0 < offset) :
    f.page limit offset = .skip offset limit ∨ f.page limit offset = .between offset limit := by
  cases f <;> simp [Flavor.page, Flavor.pagination, Nat.ne_of_gt h]

/-- All dialects select rows. They select the same ones, told apart by their places, exactly if no
row is to be skipped or none is on any page. -/
theorem selectedRows_eq_iff {s : Statement} {limit : Nat} (ht : s.tableName ≠ "")
    (ho : s.order ≠ "") (hg : s.groupBy = "") (hh : s.having = "") (hl : s.limit = some limit)
    {α : Type} (rows : List α) :
    (∀ d : Dialect, ∃ page, s.selectedRows d.flavor rows.zipIdx = some page) ∧
    ((∀ d e : Dialect,
        s.selectedRows d.flavor rows.zipIdx = s.selectedRows e.flavor rows.zipIdx) ↔
      s.offset.getD 0 = 0 ∨ limit = 0 ∨ rows.length < s.offset.getD 0 ∨
        rows.length = s.offset.getD 0 ∧ limit < s.offset.getD 0) := by
  have hs : ∀ d : Dialect, s.selectedRows d.flavor rows.zipIdx =
      some ((d.flavor.page limit (s.offset.getD 0)).rows rows.zipIdx) :=
    fun d => Statement.selectedRows_eq d.flavor ht ho hg hh hl rows.zipIdx
  refine ⟨fun d => ⟨_, hs d⟩, ?_⟩
  simp only [hs, Option.some.injEq]
  generalize s.offset.getD 0 = offset
  rcases Nat.eq_zero_or_pos offset with rfl | hp
  · simp [Flavor.rows_page_zero]
  · have hi := Page.rows_skip_eq_between_iff rows limit hp
    constructor
    · intro he
      -- one dialect skips the rows in front, where another one counts from them
      have hm : Flavor.mysql.page limit offset = .skip offset limit := if_neg (Nat.ne_of_gt hp)
      exact Or.inr (hi.mp (hm ▸ he .mysql .oracle))
    · intro hc d e
      have he := hi.mpr (hc.resolve_left (Nat.ne_of_gt hp))
      rcases d.flavor.page_of_pos limit hp with hd | hd <;>
        rcases e.flavor.page_of_pos limit hp with hf | hf <;> simp [hd, hf, he]

def pagedStatement (offset : Nat) : Statement :=
  { Statement.empty with
    tableName := "student"
    order := "name"
    limit := some 10
    offset := some offset }

theorem selectedRows_eq_paged :
    (pagedStatement 20).selectedRows .mysql ["x", "y"].zipIdx =
      (pagedStatement 20).selectedRows .mssql ["x", "y"].zipIdx :=
  (selectedRows_eq_iff (s := pagedStatement 20) (by decide) (by decide) rfl rfl rfl
    ["x", "y"]).2.mpr (by decide) .mysql .mssql

theorem selectedRows_ne_paged :
    (pagedStatement 5).selectedRows .mysql (List.range 20) =
        some [5, 6, 7, 8, 9, 10, 11, 12, 13, 14] ∧
      (pagedStatement 5).selectedRows .oracle (List.range 20) = some [4, 5, 6, 7, 8, 9] ∧
      (pagedStatement 5).selectedRows .mysql (List.range 20) ≠
        (pagedStatement 5).selectedRows .oracle (List.range 20) := by
  have hs : ∀ f, (pagedStatement 5).selectedRows f (List.range 20) =
      some ((f.page 10 5).rows (List.range 20)) := fun f =>
    Statement.selectedRows_eq f (by decide) (by decide) rfl rfl rfl _
  rw [hs, hs]
  decide

end RecordSql
