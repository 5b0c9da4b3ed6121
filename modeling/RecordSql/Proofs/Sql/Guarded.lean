import RecordSql.Proofs.Sql.Appending

/-! # Guarded definitions

A guarded statement runs the plain one of the same table. It is the plain statement with two words
more, or the plain statement on the line behind a test for the table, or a block that holds the
plain statement as a literal. The literal ends where the block goes on, whatever quotes and
semicolons the table holds.
-/

namespace RecordSql

namespace Text

/-- Read a literal at the start of a text, and give back the text behind it. -/
def readLiteral? (s : String) : Option (String × String) :=
  match s.toList with
  | '\'' :: s => (readEnclosed? '\'' s).map fun r => (String.ofList r.1, String.ofList r.2)
  | _ => none

theorem readLiteral?_append {rest : String} (h : rest.toList.head? ≠ some '\'') (s : String) :
    readLiteral? (literal s ++ rest) = some (s, rest) := by
  have hl : (literal s ++ rest).toList =
      '\'' :: ((double '\'' s).toList ++ '\'' :: rest.toList) := by
    simp [literal, toList_enclose]
  simp only [readLiteral?, hl, readEnclosed?_double s h, Option.map_some, String.ofList_toList]

end Text

namespace Flavor

/-- A guarded statement is the block that runs a plain statement, less the semicolon at its end, and
ignores the error of the given code. -/
def IsBlock (code plain guarded : String) : Prop :=
  ∃ statement rest, plain = statement ++ ";" ∧ guarded = "BEGIN EXECUTE IMMEDIATE " ++ rest ∧
    Text.readLiteral? rest = some (statement,
      "; EXCEPTION WHEN OTHERS THEN IF SQLCODE != " ++ code ++ " THEN RAISE; END IF; END;")

def Guards (f : Flavor) (table plain guarded : String) : Prop :=
  match f with
  | mssql => ∃ rest, guarded = "IF OBJECT_ID(" ++ rest ∧
    Text.readLiteral? rest = some (table, ", 'U') IS NULL\n" ++ plain)
  | oracle => IsBlock "-955" plain guarded
  | _ => ∃ rest, plain = "CREATE TABLE " ++ rest ∧ guarded = "CREATE TABLE IF NOT EXISTS " ++ rest

theorem isBlock_appendGuarded {statement : String} (hs : ∀ c ∈ statement.toList.getLast?, c ≠ ';')
    (stop : String) (he : Text.dropEnd (· = ';') stop.toList = []) (code : String) :
    IsBlock code (statement ++ ";") (appendGuarded "" (statement ++ stop) code) := by
  have ht : Text.trimEndOf (· = ';') (statement ++ stop) = statement := by
    have hd := Text.dropEnd_append (p := (· = ';')) (fun c hc => by simpa using hs c hc) stop.toList
    rw [Text.trimEndOf, String.toList_append, hd, he, List.append_nil, String.ofList_toList]
  refine ⟨statement, _, rfl, ?_, Text.readLiteral?_append ?_ statement⟩
  · simp only [appendGuarded, ht, startLine, if_true, String.append_assoc, String.empty_append]
  · simp

theorem guards_appendCreateTable (f : Flavor) (t : Table) (options : TableOptions) :
    f.Guards t.name (f.appendCreateTable "" t false options)
      (f.appendCreateTable "" t true options) := by
  have hp : ∀ clause, f.appendPlainCreate "" t clause options =
      "CREATE TABLE " ++ clause ++ (f.tableText t options ++ ";") := by
    intro clause
    rw [appendPlainCreate_eq, String.append_assoc, String.append_assoc]
    rfl
  cases f with
  | mssql =>
    refine ⟨_, ?_, Text.readLiteral?_append ?_ t.name⟩
    · have hn : ", 'U') IS NULL\n" = ", 'U') IS NULL" ++ "\n" := rfl
      rw [appendTestedCreate_eq, hn]
      simp only [startLine, if_true, String.append_assoc, String.empty_append]
      rfl
    · simp
  | oracle =>
    -- with neither an engine nor a character set, the parenthesis comes last
    have ht : oracle.tableText t options =
        oracle.quote t.name ++ " (\n" ++ ",\n".intercalate (t.definitions oracle) ++ ")" := by
      obtain ⟨engine, charset⟩ := options
      cases engine <;> cases charset <;> simp [tableText, supportsEngine, supportsCharset]
    have hc : ∀ c ∈ ("CREATE TABLE " ++ oracle.tableText t options).toList.getLast?, c ≠ ';' := by
      rw [ht, ← String.append_assoc, String.toList_append, List.getLast?_append]
      rintro _ ⟨⟩
      decide
    have he : oracle.appendPlainCreate "" t "" options =
        "CREATE TABLE " ++ oracle.tableText t options ++ ";" := by
      rw [hp, String.append_empty, String.append_assoc]
    change IsBlock "-955" (oracle.appendPlainCreate "" t "" options)
      (appendGuarded "" (oracle.appendPlainCreate "" t "" options) "-955")
    rw [he]
    exact isBlock_appendGuarded hc ";" rfl "-955"
  | _ => exact ⟨_, hp "", hp "IF NOT EXISTS "⟩

theorem isBlock_appendDropTable (table : String) :
    IsBlock "-942" (oracle.appendDropTable "" table false)
      (oracle.appendDropTable "" table true) := by
  have hc : ∀ c ∈ ("DROP TABLE " ++ oracle.quote table).toList.getLast?, c ≠ ';' := by
    rw [String.toList_append, quote, Text.toList_enclose, ← List.cons_append, ← List.append_assoc,
      List.getLast?_append]
    rintro _ ⟨⟩
    decide
  have hg := isBlock_appendGuarded hc "" rfl "-942"
  rw [String.append_empty] at hg
  exact hg

end Flavor

/-- A guarded statement creates the table that the plain one creates, and a guarded block drops the
table that the plain statement drops. -/
theorem guarded_creates_plain (f : Flavor) (t : Table) (options : TableOptions) :
    f.Guards t.name (f.appendCreateTable "" t false options)
      (f.appendCreateTable "" t true options) ∧
    ∀ table, Flavor.IsBlock "-942" (Flavor.oracle.appendDropTable "" table false)
      (Flavor.oracle.appendDropTable "" table true) :=
  ⟨f.guards_appendCreateTable t options, Flavor.isBlock_appendDropTable⟩

example : Flavor.oracle.appendDropTable "" "o'clock\";" true =
    "BEGIN EXECUTE IMMEDIATE 'DROP TABLE \"o''clock\"\";\"'; EXCEPTION WHEN OTHERS THEN " ++
      "IF SQLCODE != -942 THEN RAISE; END IF; END;" := by
  decide +kernel

end RecordSql
