import RecordSql.Proofs.Database.Exchange
import RecordSql.Proofs.Sql.Directions
import RecordSql.Proofs.Sql.Keys

/-! # Writing at the end

Whatever is written goes to the end of what is there, and is the same as in an empty text; only the
new line in front of a definition depends on whether there is a text. A select that fails leaves
what is there as it is.
-/

namespace RecordSql

inductive Definition
  | createTable (t : Table) (ifMissing : Bool) (options : TableOptions)
  | createIndex (table group : String) (columns : List String) (unique : Bool)
  | dropTable (table : String) (ifPresent : Bool)

/-- What can be written: a definition, another statement, or a part of one. -/
inductive Piece
  | definition (d : Definition)
  | column (c : Column) (key : Option String)
  | select (s : Statement)
  | limit (limit : Nat) (offset : Option Nat)
  | count (s : Statement)
  | insert (table : String) (columns : List String) (first : Nat)
  | update (table : String) (columns : List String) (first : Nat) (condition : String)
  | delete (table condition : String)

variable {f : Flavor}

def Definition.append (f : Flavor) (out : String) : Definition → String
  | createTable t ifMissing options => f.appendCreateTable out t ifMissing options
  | createIndex table group columns unique => f.appendCreateIndex out table group columns unique
  | dropTable table ifPresent => f.appendDropTable out table ifPresent

namespace Piece

def write (f : Flavor) : Piece → ExceptT Failure (StateM String) Unit
  | definition d => modify (d.append f ·)
  | column c key => modify (f.appendColumn · c key)
  | select s => f.writeSelect s
  | .limit n offset => modify (f.appendLimit · n offset)
  | count s => modify (Flavor.appendCount · s)
  | insert table columns first => modify (f.appendInsert · table columns first)
  | update table columns first condition => modify (f.appendUpdate · table columns first condition)
  | delete table condition => modify (f.appendDelete · table condition)

def separator : Piece → String
  | definition _ => "\n"
  | _ => ""

end Piece

/-! ## Definitions -/

theorem startLine_eq (out : String) : startLine out = out ++ if out = "" then "" else "\n" := by
  unfold startLine
  split
  · next h => rw [h]; rfl
  · rw [String.push_eq_append]; rfl

theorem startLine_append {s : String} (h : s ≠ "") (out : String) :
    startLine (out ++ s) = out ++ startLine s := by
  have hs : out ++ s ≠ "" := fun he => h (String.append_eq_empty_iff.mp he).2
  rw [startLine_eq, startLine_eq, if_neg h, if_neg hs, String.append_assoc]

namespace Flavor

def tableText (f : Flavor) (t : Table) (options : TableOptions) : String :=
  f.quote t.name ++ " (\n" ++ ",\n".intercalate (t.definitions f) ++ ")" ++
    (match options.storeEngine with
      | some engine => if f.supportsEngine then " ENGINE=" ++ engine else ""
      | none => "") ++
    (match options.charset with
      | some charset => if f.supportsCharset then " DEFAULT CHARSET=" ++ charset else ""
      | none => "")

theorem appendPlainCreate_eq (f : Flavor) (out : String) (t : Table) (clause : String)
    (options : TableOptions) :
    f.appendPlainCreate out t clause options =
      startLine out ++ ("CREATE TABLE " ++ clause ++ f.tableText t options ++ ";") := by
  obtain ⟨engine, charset⟩ := options
  unfold appendPlainCreate
  cases engine <;> cases charset <;>
    simp only [Table.appendDefinitions_eq, appendIdentifier, tableText, String.append_assoc]

theorem appendGuarded_eq (out statement code : String) :
    appendGuarded out statement code = startLine out ++ appendGuarded "" statement code := by
  simp only [appendGuarded, String.append_assoc]
  rfl

theorem appendTestedCreate_eq (out : String) (t : Table) (options : TableOptions) :
    mssql.appendCreateTable out t true options =
      startLine out ++ ("IF OBJECT_ID(" ++ Text.literal t.name ++ ", 'U') IS NULL" ++ "\n" ++
        mssql.appendPlainCreate "" t "" options) := by
  have hg : "IF OBJECT_ID(" ++ Text.literal t.name ++ ", 'U') IS NULL" ≠ "" := by simp
  have ha : startLine out ++ "IF OBJECT_ID(" ++ Text.literal t.name ++ ", 'U') IS NULL" =
      startLine out ++ ("IF OBJECT_ID(" ++ Text.literal t.name ++ ", 'U') IS NULL") := by
    simp [String.append_assoc]
  rw [appendCreateTable, if_pos rfl]
  rw [appendPlainCreate_eq, appendPlainCreate_eq mssql "", ha, startLine_append hg,
    startLine_eq (_ ++ _), if_neg hg, String.append_assoc]
  rfl

theorem appendCreateTable_eq (f : Flavor) (out : String) (t : Table) (ifMissing : Bool)
    (options : TableOptions) :
    f.appendCreateTable out t ifMissing options =
      startLine out ++ f.appendCreateTable "" t ifMissing options := by
  have hp : ∀ clause, f.appendPlainCreate out t clause options =
      startLine out ++ f.appendPlainCreate "" t clause options := by
    intro clause
    rw [appendPlainCreate_eq, appendPlainCreate_eq f ""]
    rfl
  cases ifMissing with
  | false => exact hp ""
  | true =>
    cases f with
    | mssql =>
      rw [appendTestedCreate_eq, appendTestedCreate_eq ""]
      rfl
    | oracle => exact appendGuarded_eq ..
    | _ => exact hp "IF NOT EXISTS "

theorem appendCreateIndex_eq (f : Flavor) (out table group : String) (columns : List String)
    (unique : Bool) :
    f.appendCreateIndex out table group columns unique =
      startLine out ++ f.appendCreateIndex "" table group columns unique := by
  simp only [appendCreateIndex, appendIdentifiers_eq, appendIdentifier, String.append_assoc]
  rfl

theorem appendDropTable_eq (f : Flavor) (out table : String) (ifPresent : Bool) :
    f.appendDropTable out table ifPresent =
      startLine out ++ f.appendDropTable "" table ifPresent := by
  cases f with
  | oracle =>
    cases ifPresent with
    | false =>
      simp only [appendDropTable, Bool.false_eq_true, if_false, String.append_assoc]
      rfl
    | true => exact appendGuarded_eq ..
  | _ =>
    simp only [appendDropTable, appendIdentifier, String.append_assoc]
    rfl

end Flavor

namespace Definition

theorem append_eq (d : Definition) (f : Flavor) (out : String) :
    d.append f out = startLine out ++ d.append f "" := by
  cases d with
  | createTable t ifMissing options => exact f.appendCreateTable_eq out t ifMissing options
  | createIndex table group columns unique =>
    exact f.appendCreateIndex_eq out table group columns unique
  | dropTable table ifPresent => exact f.appendDropTable_eq out table ifPresent

theorem append_ne_empty (d : Definition) (f : Flavor) : d.append f "" ≠ "" := by
  cases d with
  | createTable t ifMissing options =>
    have hp : ∀ clause, f.appendPlainCreate "" t clause options ≠ "" := by
      intro clause
      rw [Flavor.appendPlainCreate_eq]
      simp
    cases ifMissing with
    | false => exact hp ""
    | true =>
      cases f with
      | mssql =>
        rw [append, Flavor.appendTestedCreate_eq]
        simp
      | oracle => simp [append, Flavor.appendCreateTable, Flavor.appendGuarded]
      | _ => exact hp "IF NOT EXISTS "
  | createIndex table group columns unique =>
    simp [append, Flavor.appendCreateIndex, Flavor.appendIdentifiers_eq]
  | dropTable table ifPresent =>
    cases f <;> cases ifPresent <;> simp [append, Flavor.appendDropTable, Flavor.appendGuarded]

end Definition

/-! ## Selects and changes -/

namespace Flavor

theorem emits_appendPlainSelect (s : Statement) (top : Option Nat) :
    Emits (modify (appendPlainSelect · s top)) (.ok (appendPlainSelect "" s top)) :=
  emits_modify (appendPlainSelect_eq · s top)

/-- A select in place is the select in an empty text, behind what is there. -/
theorem emits_writeSelect (f : Flavor) (s : Statement) : Emits (f.writeSelect s) (s.selectSql f) := by
  have hn : ∀ limit offset, Emits (f.writeNumberedSelect s limit offset)
      (written (f.writeNumberedSelect s limit offset)) := by
    intro limit offset
    rw [written_writeNumberedSelect]
    exact f.emits_writeNumberedSelect s limit offset
  by_cases ht : s.tableName = ""
  · rw [s.selectSql_of_unnamed ht, writeSelect, if_pos ht]
    exact fun _ => rfl
  cases hl : s.limit with
  | none =>
    rw [s.selectSql_of_limit_eq_none ht hl, writeSelect, if_neg ht, hl]
    cases s.offset.filter (0 < ·) with
    | none => exact emits_appendPlainSelect s none
    | some offset => exact fun _ => rfl
  | some limit =>
    rw [s.selectSql_of_limit_eq_some ht hl, writeSelect, if_neg ht, hl]
    cases f.pagination with
    | limitOffset =>
      intro out
      refine congrArg (Prod.mk (Except.ok ())) ?_
      dsimp only
      rw [appendLimit_eq, appendLimit_eq f (appendPlainSelect "" _ _), appendPlainSelect_eq,
        String.append_assoc]
    | top =>
      cases s.offset.filter (0 < ·) with
      | none => exact emits_appendPlainSelect s (some limit)
      | some offset => exact hn limit offset
    | rowNumber => exact hn limit _

theorem appendCount_eq (out : String) (s : Statement) :
    appendCount out s = out ++ appendCount "" s := by
  rw [appendCount, appendCount, appendSource_eq, appendSource_eq (_ ++ s.tableName)]
  simp only [String.append_assoc, String.empty_append]

theorem appendInsert_eq (f : Flavor) (out table : String) (columns : List String) (first : Nat) :
    f.appendInsert out table columns first = out ++ f.appendInsert "" table columns first := by
  simp only [appendInsert, appendIdentifiers_eq, appendMarkers_eq, appendIdentifier,
    String.append_assoc, String.empty_append]

theorem appendUpdate_eq (f : Flavor) (out table : String) (columns : List String) (first : Nat)
    (condition : String) :
    f.appendUpdate out table columns first condition =
      out ++ f.appendUpdate "" table columns first condition := by
  simp only [appendUpdate, appendAssignments_eq, appendIdentifier, appendCondition_end,
    String.append_assoc, String.empty_append]

theorem appendDelete_eq (f : Flavor) (out table condition : String) :
    f.appendDelete out table condition = out ++ f.appendDelete "" table condition := by
  simp only [appendDelete, appendIdentifier, appendCondition_end, String.append_assoc,
    String.empty_append]

theorem selectSql_ne_empty {s : Statement} {sql : String} (h : s.selectSql f = .ok sql) : sql ≠ "" := by
  cases Statement.lists_selectSql h <;> simp

end Flavor

/-! ## Pieces -/

namespace Piece

def text (f : Flavor) (p : Piece) : String :=
  ((p.write f).run.run "").2

def failure? (f : Flavor) (p : Piece) : Option Failure :=
  match ((p.write f).run.run "").1 with
  | .ok () => none
  | .error e => some e

def front (p : Piece) (out : String) : String :=
  if out = "" then "" else out ++ p.separator

theorem front_eq_of_separator_eq (p : Piece) (h : p.separator = "") (out : String) :
    p.front out = out := by
  unfold front
  split
  · next ho => exact ho.symm
  · rw [h, String.append_empty]

/-- All pieces but definitions emit a text. -/
theorem exists_emits (f : Flavor) {p : Piece} (h : ∀ d, p ≠ definition d) :
    p.separator = "" ∧ ∃ x, Flavor.Emits (p.write f) x := by
  cases p with
  | definition d => exact absurd rfl (h d)
  | column c key => exact ⟨rfl, _, Flavor.emits_modify (f.appendColumn_eq · c key)⟩
  | select s => exact ⟨rfl, _, f.emits_writeSelect s⟩
  | limit n offset => exact ⟨rfl, _, Flavor.emits_modify (f.appendLimit_eq · n offset)⟩
  | count s => exact ⟨rfl, _, Flavor.emits_modify (Flavor.appendCount_eq · s)⟩
  | insert table columns first =>
    exact ⟨rfl, _, Flavor.emits_modify (f.appendInsert_eq · table columns first)⟩
  | update table columns first condition =>
    exact ⟨rfl, _, Flavor.emits_modify (f.appendUpdate_eq · table columns first condition)⟩
  | delete table condition =>
    exact ⟨rfl, _, Flavor.emits_modify (f.appendDelete_eq · table condition)⟩

theorem run_write (f : Flavor) (p : Piece) (out : String) :
    (p.write f).run.run out = (Failure.result (p.failure? f) (),
      if p.failure? f = none then p.front out ++ p.text f else out) := by
  -- a definition starts a line, and any other piece goes on in the line
  by_cases h : ∀ d, p ≠ definition d
  · obtain ⟨hs, x, hx⟩ := exists_emits f h
    rw [front_eq_of_separator_eq p hs, failure?, text, hx out, hx ""]
    cases x with
    | ok sql => simp
    | error e => rfl
  · obtain ⟨d, rfl⟩ := not_forall_not.mp h
    have hd : (definition d).front out = startLine out := by
      rw [startLine_eq, front]
      split
      · next ho => rw [ho]; rfl
      · rfl
    rw [hd]
    exact congrArg (Prod.mk (Except.ok ())) (d.append_eq f out)

theorem text_ne_empty {p : Piece} (h : p.failure? f = none) : p.text f ≠ "" := by
  cases p with
  | definition d => exact d.append_ne_empty f
  | select s =>
    simp only [failure?, text, write, f.emits_writeSelect s ""] at h ⊢
    cases hs : s.selectSql f with
    | ok sql => simpa using Flavor.selectSql_ne_empty hs
    | error e =>
      rw [hs] at h
      cases h
  | column c key => exact f.appendColumn_ne_empty c key
  | limit n offset =>
    change f.appendLimit "" n offset ≠ ""
    cases offset with
    | none => simp [Flavor.appendLimit]
    | some offset => cases f <;> simp [Flavor.appendLimit]
  | count s =>
    change Flavor.appendCount "" s ≠ ""
    rw [Flavor.appendCount, Flavor.appendSource_eq]
    simp
  | insert table columns first =>
    change f.appendInsert "" table columns first ≠ ""
    simp [Flavor.appendInsert]
  | update table columns first condition =>
    change f.appendUpdate "" table columns first condition ≠ ""
    simp [Flavor.appendUpdate]
  | delete table condition =>
    change f.appendDelete "" table condition ≠ ""
    simp [Flavor.appendDelete]

def joined (f : Flavor) (out : String) : List Piece → String
  | [] => out
  | p :: ps => p.front out ++ p.text f ++ String.join (ps.map fun p => p.separator ++ p.text f)

theorem joined_of_ne {out : String} (h : out ≠ "") (f : Flavor) (ps : List Piece) :
    joined f out ps = out ++ String.join (ps.map fun p => p.separator ++ p.text f) := by
  cases ps with
  | nil => simp [joined]
  | cons p ps =>
    rw [joined, front, if_neg h, List.map_cons, String.join_cons]
    simp only [String.append_assoc]

/-- Pieces are written up to the first one that cannot be. -/
theorem run_writeAll (f : Flavor) (ps : List Piece) (out : String) :
    (forM ps (write f)).run.run out = (Failure.result (ps.findSome? (failure? f)) (),
      joined f out (ps.takeWhile fun p => (p.failure? f).isNone)) := by
  induction ps generalizing out with
  | nil => rfl
  | cons p ps ih =>
    have hr := p.run_write f out
    cases hp : p.failure? f with
    | some e =>
      rw [hp] at hr
      rw [List.forM_cons, Failure.run_bind_error hr]
      simp [hp, joined]
    | none =>
      have hne : p.front out ++ p.text f ≠ "" := fun he =>
        text_ne_empty hp (String.append_eq_empty_iff.mp he).2
      rw [hp, if_pos rfl] at hr
      rw [List.forM_cons, Failure.run_bind hr, ih, joined_of_ne hne]
      simp [hp, joined]

theorem joined_definitions (f : Flavor) (ds : List Definition) :
    joined f "" (ds.map definition) = "\n".intercalate (ds.map (Definition.append f "")) := by
  have hj : ∀ ts : List String, ∀ t,
      "\n".intercalate (t :: ts) = t ++ String.join (ts.map ("\n" ++ ·)) := by
    intro ts
    induction ts with
    | nil => simp
    | cons u ts ih =>
      intro t
      rw [String.intercalate_cons_cons, ih, List.map_cons, String.join_cons]
      simp only [String.append_assoc]
  cases ds with
  | nil => rfl
  | cons d ds =>
    rw [List.map_cons, List.map_cons, hj, joined, List.map_map, List.map_map]
    rfl

theorem failure?_eq_none_or (f : Flavor) (p : Piece) :
    p.failure? f = none ∨ ∃ s, p = select s := by
  cases p with
  | select s => exact .inr ⟨s, rfl⟩
  | _ => exact .inl rfl

theorem run_writeDefinitions (f : Flavor) (ds : List Definition) :
    (forM (ds.map definition) (write f)).run.run "" =
      (.ok (), "\n".intercalate (ds.map (Definition.append f ""))) := by
  have hd : ∀ p ∈ ds.map definition, p.failure? f = none := by
    intro p hp
    obtain ⟨d, -, rfl⟩ := List.mem_map.mp hp
    rfl
  have ht : ((ds.map definition).takeWhile fun p => (p.failure? f).isNone) = ds.map definition :=
    List.takeWhile_eq_self_iff.mpr fun p hp => Option.isNone_iff_eq_none.mpr (hd p hp)
  rw [run_writeAll, List.findSome?_eq_none_iff.mpr hd, ht, joined_definitions]
  rfl

end Piece

/-- A piece goes to the end of a text and is the same as in an empty text, with a new line in front
of a definition; a select that cannot be written leaves the text as it is, and no other piece fails.
So pieces are written as they are separately, up to the first one that fails, and definitions stand
on lines of their own. -/
theorem writes_at_end (f : Flavor) :
    (∀ (p : Piece) (out : String), (p.write f).run.run out = (Failure.result (p.failure? f) (),
      if p.failure? f = none then p.front out ++ p.text f else out)) ∧
    (∀ p : Piece, p.failure? f = none ∨ ∃ s, p = .select s) ∧
    (∀ (ps : List Piece) (out : String), (forM ps (Piece.write f)).run.run out =
      (Failure.result (ps.findSome? (Piece.failure? f)) (),
        Piece.joined f out (ps.takeWhile fun p => (p.failure? f).isNone))) ∧
    ∀ ds : List Definition, (forM (ds.map Piece.definition) (Piece.write f)).run.run "" =
      (.ok (), "\n".intercalate (ds.map (Definition.append f ""))) :=
  ⟨Piece.run_write f, Piece.failure?_eq_none_or f, Piece.run_writeAll f,
    Piece.run_writeDefinitions f⟩

end RecordSql
