import RecordSql.Proofs.Database.Indexes
import RecordSql.Proofs.Sql.Containment
import RecordSql.Proofs.Sql.Directions
import RecordSql.Proofs.Sql.Filters
import RecordSql.Proofs.Sql.Guarded

/-! # Targets of statements

A statement keeps the name of its table and, apart from it, the mapped table with a name of its own.
The table that is created and indexed is the mapped one, and all else is done to the table of the
kept name. The two are the same exactly if the last name that was given is that of the last table.
-/

namespace RecordSql

/-! ## What is read off a statement -/

/-- What is read off tokens does not depend on the symbols and the literals in front of it. -/
structure Token.Skips {α : Type} (read : List Token → Option α) : Prop where
  nil : read [] = none
  symbol : ∀ c ts, read (symbol c :: ts) = read ts
  literal : ∀ text ts, read (literal text :: ts) = read ts

namespace Token.Skips

variable {α : Type} {read : List Token → Option α}

theorem symbols (h : Skips read) (s : String) (ts : List Token) :
    read (Token.symbols s ++ ts) = read ts := by
  unfold Token.symbols
  induction s.toList with
  | nil => rfl
  | cons c cs ih => exact (h.symbol c _).trans ih

theorem symbols_eq_none (h : Skips read) (s : String) : read (Token.symbols s) = none := by
  rw [← List.append_nil (Token.symbols s), h.symbols, h.nil]

end Token.Skips

namespace Flavor

variable {α : Type} {f : Flavor} {read : List Token → Option α} {a : α}

def inner? (f : Flavor) (read : List Token → Option α) : Token → Option α
  | .literal text => read (f.tokens text)
  | _ => none

/-- What is read off a text, or else off a statement in a literal of it. -/
def read? (f : Flavor) (read : List Token → Option α) (sql : String) : Option α :=
  (read (f.tokens sql)).or ((f.tokens sql).findSome? (f.inner? read))

theorem read?_of_tokens {sql : String} (h : read (f.tokens sql) = some a) :
    f.read? read sql = some a := by
  rw [read?, h]
  rfl

theorem findSome?_inner?_symbols (s : String) :
    (Token.symbols s).findSome? (f.inner? read) = none := by
  rw [List.findSome?_eq_none_iff]
  intro t ht
  obtain ⟨c, -, rfl⟩ := List.mem_map.mp ht
  rfl

theorem lex_of_readLiteral? {s text rest : String} (h : Text.readLiteral? s = some (text, rest)) :
    f.lex s.toList = .literal text :: f.lex rest.toList := by
  unfold Text.readLiteral? at h
  split at h
  · next cs hs =>
    obtain ⟨r, hr, he⟩ := Option.map_eq_some_iff.mp h
    cases he
    have ho : '\'' ≠ f.opening := by cases f <;> decide
    rw [hs, lex_cons, readToken, if_neg ho, if_pos rfl, readQuoted, hr, String.toList_ofList]
  · cases h

theorem read_tested (hk : Token.Skips read) {name plain rest : String}
    (h : Text.readLiteral? rest = some (name, ", 'U') IS NULL\n" ++ plain)) :
    read (mssql.tokens ("IF OBJECT_ID(" ++ rest)) = read (mssql.tokens plain) := by
  have hu : ", 'U') IS NULL\n" = ", " ++ Text.literal "U" ++ ") IS NULL\n" := by decide
  have hl : Text.readLiteral? (Text.literal "U" ++ (") IS NULL\n" ++ plain)) =
      some ("U", ") IS NULL\n" ++ plain) :=
    Text.readLiteral?_append (by simp) "U"
  rw [tokens, String.toList_append, lex_symbols (by decide), lex_of_readLiteral? h, hu,
    String.append_assoc, String.append_assoc, String.toList_append, lex_symbols (by decide),
    lex_of_readLiteral? hl, String.toList_append, lex_symbols (by decide)]
  rw [hk.symbols, hk.literal, hk.symbols, hk.literal, hk.symbols, tokens]

/-- What is read off a block is read off the statement that it runs. -/
theorem read?_of_isBlock (hk : Token.Skips read) {code plain guarded : String}
    (h : IsBlock code plain guarded) (hc : code.toList.all isPlain = true)
    (hs : ∀ statement, plain = statement ++ ";" → read (oracle.tokens statement) = some a) :
    oracle.read? read guarded = some a := by
  obtain ⟨statement, rest, hp, rfl, hr⟩ := h
  have he : oracle.lex ("; EXCEPTION WHEN OTHERS THEN IF SQLCODE != " ++ code ++
      " THEN RAISE; END IF; END;").toList =
      Token.symbols "; EXCEPTION WHEN OTHERS THEN IF SQLCODE != " ++ (Token.symbols code ++
        Token.symbols " THEN RAISE; END IF; END;") := by
    simp only [String.toList_append, List.append_assoc]
    rw [lex_symbols (by decide), lex_symbols hc, lex_end (by decide)]
  have ht : oracle.tokens ("BEGIN EXECUTE IMMEDIATE " ++ rest) =
      Token.symbols "BEGIN EXECUTE IMMEDIATE " ++ (.literal statement ::
        (Token.symbols "; EXCEPTION WHEN OTHERS THEN IF SQLCODE != " ++ (Token.symbols code ++
          Token.symbols " THEN RAISE; END IF; END;"))) := by
    rw [tokens, String.toList_append, lex_symbols (by decide), lex_of_readLiteral? hr, he]
  have hn : read (oracle.tokens ("BEGIN EXECUTE IMMEDIATE " ++ rest)) = none := by
    rw [ht, hk.symbols, hk.literal, hk.symbols, hk.symbols, hk.symbols_eq_none]
  rw [read?, hn, Option.none_or, ht, List.findSome?_append, findSome?_inner?_symbols,
    Option.none_or, List.findSome?_cons, inner?, hs statement hp]

theorem eq_of_append_end {s t : String} (h : startLine "" ++ s ++ ";" = t ++ ";") : s = t := by
  rw [startLine, if_pos rfl, String.empty_append, ← String.toList_inj, String.toList_append,
    String.toList_append] at h
  exact String.toList_inj.mp (List.append_cancel_right h)

/-- What is read off the plain definition of a table, whatever stands in front of its name and behind
its end, is read off the definition that is run. -/
theorem read?_appendCreateTable (hk : Token.Skips read) {t : Table} {options : TableOptions}
    (h : ∀ clause stop : String, clause.toList.all isPlain = true →
      read (f.tokens ("CREATE TABLE " ++ clause ++ f.tableText t options ++ stop)) = some a)
    (ifMissing : Bool) : f.read? read (f.appendCreateTable "" t ifMissing options) = some a := by
  have hp : ∀ clause : String, clause.toList.all isPlain = true →
      read (f.tokens (f.appendPlainCreate "" t clause options)) = some a := by
    intro clause hc
    rw [appendPlainCreate_eq]
    exact h clause ";" hc
  cases ifMissing with
  | false => exact read?_of_tokens (hp "" rfl)
  | true =>
    have hg := f.guards_appendCreateTable t options
    cases f with
    | mssql =>
      obtain ⟨rest, he, hr⟩ := hg
      refine read?_of_tokens ?_
      rw [he, read_tested hk hr]
      exact hp "" rfl
    | oracle =>
      refine read?_of_isBlock hk hg (by decide) fun statement he => ?_
      have hs : statement = "CREATE TABLE " ++ "" ++ oracle.tableText t options ++ "" := by
        rw [appendCreateTable, if_neg Bool.false_ne_true, appendPlainCreate_eq] at he
        rw [String.append_empty]
        exact (eq_of_append_end he).symm
      rw [hs]
      exact h "" "" rfl
    | _ => exact read?_of_tokens (hp "IF NOT EXISTS " (by decide))

theorem tokens_create {clause : String} (hc : clause.toList.all isPlain = true) (t : Table)
    (options : TableOptions) (stop : String) :
    ∃ rest : String, f.tokens ("CREATE TABLE " ++ clause ++ f.tableText t options ++ stop) =
      Token.symbols "CREATE TABLE " ++ (Token.symbols clause ++ (.identifier t.name ::
        (Token.symbols " (\n" ++
          f.lex ((",\n".intercalate (t.definitions f)).toList ++ ')' :: rest.toList)))) := by
  obtain ⟨rest, hr⟩ : ∃ rest : String, f.tableText t options ++ stop = f.quote t.name ++
      (" (\n" ++ (",\n".intercalate (t.definitions f) ++ (")" ++ rest))) := by
    unfold tableText
    simp only [String.append_assoc]
    exact ⟨_, rfl⟩
  refine ⟨rest, ?_⟩
  rw [tokens, String.append_assoc, hr]
  simp only [String.toList_append, List.append_assoc]
  rw [lex_symbols (by decide), lex_symbols hc, lex_quote _ (Breaks.of_head (by decide)),
    lex_symbols (by decide)]
  rfl

end Flavor

/-! ## The table that a text names -/

namespace Token

def indexed? : List Token → Option String
  | symbol ' ' :: symbol 'O' :: symbol 'N' :: symbol ' ' :: identifier table :: _ => some table
  | _ => none

/-- The table among the tokens of a statement: the first identifier, or the table of the index that
the first identifier names. -/
def target? : List Token → Option String
  | [] => none
  | identifier name :: ts => some ((indexed? ts).getD name)
  | _ :: ts => target? ts

theorem skips_target? : Skips target? :=
  ⟨rfl, fun _ _ => rfl, fun _ _ => rfl⟩

@[simp] theorem target?_symbols (s : String) (ts : List Token) :
    target? (symbols s ++ ts) = target? ts :=
  skips_target?.symbols s ts

theorem target?_identifier {ts : List Token} (h : indexed? ts = none) (name : String) :
    target? (identifier name :: ts) = some name := by
  rw [target?, h, Option.getD_none]

end Token

namespace Flavor

open Token

variable {f : Flavor} {table : String}

def target? (f : Flavor) : String → Option String :=
  f.read? Token.target?

theorem target?_of_tokens {sql : String} (h : Token.target? (f.tokens sql) = some table) :
    f.target? sql = some table :=
  read?_of_tokens h

/-! ## Changes -/

theorem target?_appendInsert (f : Flavor) (table : String) (columns : List String) (first : Nat) :
    f.target? (f.appendInsert "" table columns first) = some table := by
  refine target?_of_tokens ?_
  rw [tokens_appendInsert, Token.insert]
  simp only [List.append_assoc, List.cons_append, target?_symbols]
  exact target?_identifier rfl table

theorem target?_appendUpdate (f : Flavor) (table : String) (columns : List String) (first : Nat)
    (condition : String) :
    f.target? (f.appendUpdate "" table columns first condition) = some table := by
  refine target?_of_tokens ?_
  rw [tokens_appendUpdate, Token.update]
  simp only [List.append_assoc, List.cons_append, target?_symbols]
  exact target?_identifier rfl table

theorem tokens_conditionText_cases (f : Flavor) (condition : String) :
    f.tokens (conditionText condition) = symbols ";" ∨
      ∃ ts, f.tokens (conditionText condition) = symbols " WHERE " ++ ts := by
  unfold conditionText appendCondition
  split
  · rw [tokens, String.empty_append, lex_end (by decide)]
    exact .inl rfl
  · rw [tokens, String.empty_append, String.append_assoc, String.toList_append,
      lex_symbols (by decide)]
    exact .inr ⟨_, rfl⟩

theorem indexed?_conditionText (f : Flavor) (condition : String) :
    indexed? (f.tokens (conditionText condition)) = none := by
  rcases f.tokens_conditionText_cases condition with h | ⟨ts, h⟩
  · rw [h]
    rfl
  · rw [h]
    rfl

theorem target?_appendDelete (f : Flavor) (table condition : String) :
    f.target? (f.appendDelete "" table condition) = some table := by
  refine target?_of_tokens ?_
  rw [tokens_appendDelete, Token.delete, List.append_assoc, target?_symbols]
  exact target?_identifier (f.indexed?_conditionText condition) table

/-! ## Definitions -/

theorem target?_appendCreateIndex (f : Flavor) (table group : String) (columns : List String)
    (unique : Bool) : f.target? (f.appendCreateIndex "" table group columns unique) = some table := by
  refine target?_of_tokens ?_
  rw [tokens_appendCreateIndex, Token.createIndex]
  simp only [List.append_assoc, List.cons_append, target?_symbols]
  rfl

theorem target?_appendCreateTable (f : Flavor) (t : Table) (ifMissing : Bool)
    (options : TableOptions) :
    f.target? (f.appendCreateTable "" t ifMissing options) = some t.name := by
  refine read?_appendCreateTable skips_target? (fun clause stop hc => ?_) ifMissing
  obtain ⟨rest, hr⟩ := f.tokens_create hc t options stop
  rw [hr, target?_symbols, target?_symbols]
  exact target?_identifier rfl t.name

theorem target?_appendDropTable (f : Flavor) (table : String) (ifPresent : Bool) :
    f.target? (f.appendDropTable "" table ifPresent) = some table := by
  by_cases h : f = oracle → ifPresent = false
  · refine target?_of_tokens ?_
    rw [tokens_appendDropTable table h, Token.dropTable, target?_symbols]
    exact target?_identifier rfl table
  · obtain ⟨rfl, hi⟩ : f = oracle ∧ ifPresent = true := by simpa using h
    rw [hi]
    refine read?_of_isBlock skips_target? (isBlock_appendDropTable table) (by decide)
      fun statement he => ?_
    have hs : "DROP TABLE " ++ oracle.quote table = statement := eq_of_append_end he
    rw [← hs, tokens, String.toList_append, lex_symbols (by decide), target?_symbols,
      ← List.append_nil (oracle.quote table).toList, lex_quote _ (by simp [Breaks]), lex_nil]
    exact target?_identifier rfl table

end Flavor

/-! ## Selects -/

namespace Text

def EndsName (rest : String) : Prop :=
  ∀ c ∈ rest.toList.head?, c = ' ' ∨ c = ')'

variable {s t : String}

theorem EndsName.of_head (h : s.toList.head?.any (fun c => c = ' ' || c = ')') = true) :
    EndsName (s ++ t) := by
  intro c hc
  rw [String.toList_append, List.head?_append] at hc
  cases hs : s.toList.head? with
  | none => simp [hs] at h
  | some d =>
    rw [hs] at h hc
    obtain rfl : d = c := Option.some.inj hc
    simpa using h

theorem EndsName.append (hs : EndsName s) (ht : EndsName t) : EndsName (s ++ t) := by
  intro c hc
  rw [String.toList_append, List.head?_append] at hc
  cases he : s.toList.head? with
  | none =>
    rw [he] at hc
    exact ht c hc
  | some d =>
    rw [he] at hc
    exact hs c (he ▸ hc)

end Text

namespace Flavor

open Text (EndsName)

theorem endsName_appendClause {word : String}
    (h : word.toList.head?.any (fun c => c = ' ' || c = ')') = true) (clause : String) :
    EndsName (appendClause "" word clause) := by
  unfold appendClause
  split
  · intro c hc
    cases hc
  · rw [String.empty_append]
    exact .of_head h

theorem endsName_appendSource (s : Statement) : EndsName (appendSource "" s) := by
  have hw : " WHERE ".toList.head?.any (fun c => c = ' ' || c = ')') = true := by decide
  have hc : EndsName (appendCondition "" s.condition) := endsName_appendClause hw s.condition
  rw [appendSource, appendCondition_eq]
  exact (endsName_appendClause (by decide) s.joins).append hc

theorem endsName_selectEnd (s : Statement) : EndsName (selectEnd s) :=
  (endsName_appendSource s).append <| (endsName_appendClause (by decide) s.groupBy).append <|
    (endsName_appendClause (by decide) s.having).append (endsName_appendClause (by decide) s.order)

theorem endsName_appendLimit (f : Flavor) (limit : Nat) (offset : Option Nat) :
    EndsName (f.appendLimit "" limit offset) := by
  cases offset with
  | none => exact .of_head (s := " LIMIT ") (by decide)
  | some offset =>
    cases f <;> simp only [appendLimit, String.empty_append, String.append_assoc] <;>
      exact .of_head (s := " LIMIT ") (by decide)

theorem endsName_numberFilter (f : Flavor) (limit offset : Nat) :
    EndsName (f.numberFilter limit offset) := by
  unfold numberFilter
  simp only [String.append_assoc]
  exact .of_head (s := ")") (by decide)

end Flavor

namespace Statement

open Text (EndsName)

variable {f : Flavor} {s : Statement} {t : Table} {table sql : String}

/-- A select reads the rows of a table: the name of the table stands behind the select list, or
behind that of the inner select that numbers the rows. -/
inductive SelectsFrom (f : Flavor) (s : Statement) (table : String) : String → Prop
  | plain {rest : String} (h : EndsName rest) :
      SelectsFrom f s table ("SELECT " ++ s.columnList ++ " FROM " ++ table ++ rest)
  | top (n : Nat) {rest : String} (h : EndsName rest) :
      SelectsFrom f s table ("SELECT " ++ ("TOP " ++ Nat.repr n ++ " ") ++ s.columnList ++
        " FROM " ++ table ++ rest)
  | numbered {order rest : String} (ho : Flavor.numberingOrder s = .ok order) (h : EndsName rest) :
      SelectsFrom f s table ("select " ++ s.columnList ++
        " from (select ROW_NUMBER() OVER(order by " ++ order ++ " )as " ++ f.rowNumberAlias ++ "," ++
        (if s.columnList = "*" then table ++ ".*" else s.columnList) ++ " from " ++ table ++ rest)

theorem selectsFrom_appendPlainSelect (top : Option Nat) {rest : String} (h : EndsName rest) :
    s.SelectsFrom f s.tableName (Flavor.appendPlainSelect "" s top ++ rest) := by
  have hr := (Flavor.endsName_selectEnd s).append h
  have ht : ∀ out : String, out ++ Flavor.selectEnd s ++ rest = out ++ (Flavor.selectEnd s ++ rest) :=
    fun _ => String.append_assoc
  simp only [Flavor.appendPlainSelect, Flavor.appendSelectEnd_eq, String.empty_append, ht]
  cases top with
  | none =>
    rw [String.append_empty]
    exact .plain hr
  | some n => exact .top n hr

theorem selectsFrom_selectSql (h : s.selectSql f = .ok sql) : s.SelectsFrom f s.tableName sql := by
  rcases selectSql_cases h with ⟨top, rfl⟩ | ⟨limit, offset, rfl⟩ | ⟨limit, offset, order, ho, rfl⟩
  · have hn : EndsName "" := fun c hc => nomatch hc
    simpa using selectsFrom_appendPlainSelect (f := f) (s := s) top hn
  · rw [Flavor.appendLimit_eq]
    exact selectsFrom_appendPlainSelect none (f.endsName_appendLimit limit offset)
  · exact .numbered ho ((Flavor.endsName_appendSource s).append
      (f.endsName_numberFilter limit offset))

/-! ## Statements -/

/-- All that is compiled from a statement but the definition of its table is about one table. -/
structure Uses (s : Statement) (f : Flavor) (table : String) : Prop where
  select : ∀ sql, s.selectSql f = .ok sql → s.SelectsFrom f table sql
  count : ∀ sql, s.countSql = .ok sql →
    ∃ rest, EndsName rest ∧ sql = "SELECT COUNT(*) FROM " ++ table ++ rest
  insert : ∀ values call, s.insertSql f values = .ok call → f.target? call.sql = some table
  update : ∀ values call, s.updateSql f values = .ok call → f.target? call.sql = some table
  delete : ∀ call, s.deleteSql f = .ok call → f.target? call.sql = some table
  drop : ∀ ifPresent sql, s.dropTableSql f ifPresent = .ok sql → f.target? sql = some table

/-- The definition of the table of a statement and those of its indexes are about one table. -/
def Creates (s : Statement) (f : Flavor) (table : String) : Prop :=
  ∀ ifMissing sqls, s.createTableSql f ifMissing = .ok sqls →
    ∀ sql ∈ sqls, f.target? sql = some table

theorem uses_tableName (f : Flavor) (s : Statement) : s.Uses f s.tableName where
  select _ h := selectsFrom_selectSql h
  count sql h := by
    unfold countSql at h
    split at h
    · cases h
    · cases h
      refine ⟨_, Flavor.endsName_appendSource s, ?_⟩
      rw [Flavor.appendCount, Flavor.appendSource_eq]
      rfl
  insert values call h := by
    obtain ⟨columns, -, -, rfl⟩ := insertSql_eq_ok_iff.mp h
    exact f.target?_appendInsert ..
  update values call h := by
    obtain ⟨columns, -, -, rfl⟩ := updateSql_eq_ok_iff.mp h
    split <;> exact f.target?_appendUpdate ..
  delete call h := by
    obtain ⟨-, rfl⟩ := deleteSql_eq_ok_iff.mp h
    exact f.target?_appendDelete ..
  drop ifPresent sql h := by
    unfold dropTableSql at h
    split at h
    · cases h
    · cases h
      exact f.target?_appendDropTable ..

theorem creates_name (hs : s.table = some t) (f : Flavor) : s.Creates f t.name := by
  intro ifMissing sqls h sql hm
  rw [createTableSql_eq hs] at h
  cases h
  rcases List.mem_cons.mp hm with rfl | hm
  · exact f.target?_appendCreateTable ..
  · obtain ⟨i, -, rfl⟩ := List.mem_map.mp hm
    exact f.target?_appendCreateIndex ..

theorem exists_insertSql (hs : s.table = some t) (f : Flavor) :
    ∃ values call, s.insertSql f values = .ok call := by
  let columns := t.writable.filter fun c => !c.autoIncrement
  exact ⟨columns.map fun _ => .null, _, insertSql_eq_ok_iff.mpr
    ⟨columns, insertColumns_eq hs, (List.length_map _).symm, rfl⟩⟩

theorem exists_updateSql (hs : s.table = some t) (f : Flavor) :
    ∃ values call, s.updateSql f values = .ok call := by
  let columns := t.writable.filter fun c => !c.autoIncrement && !c.primaryKey
  exact ⟨columns.map fun _ => .null, _, updateSql_eq_ok_iff.mpr
    ⟨columns, updateColumns_eq hs, (List.length_map _).symm, rfl⟩⟩

/-- A statement on a mapped table is about one table exactly if its name is that of the mapped
table. -/
theorem exists_target_iff (hs : s.table = some t) :
    (∃ table, s.Uses f table ∧ s.Creates f table) ↔ s.tableName = t.name := by
  constructor
  · rintro ⟨table, hu, hc⟩
    -- some insert is always compiled, and so is the table
    obtain ⟨values, call, hi⟩ := exists_insertSql hs f
    have hn := (s.uses_tableName f).insert values call hi
    have ht := creates_name hs f false _ (createTableSql_eq hs f false) _ List.mem_cons_self
    rw [hu.insert values call hi] at hn
    rw [hc false _ (createTableSql_eq hs f false) _ List.mem_cons_self] at ht
    exact (Option.some.inj hn).symm.trans (Option.some.inj ht)
  · intro h
    exact ⟨t.name, h ▸ s.uses_tableName f, creates_name hs f⟩

end Statement

/-! ## Calls -/

inductive Addendum
  | put (c : Clause)
  | filter (f : Flavor) (condition : Condition) (args : List Value)

namespace Addendum

def table? : Addendum → Option Table
  | put (.table t) => some t
  | _ => none

def name? : Addendum → Option String
  | put (.table t) => some t.name
  | put (.tableName name) => some name
  | _ => none

/-- Take in a call; a filter that fails is passed over. -/
def apply (d : Statement.Draft) : Addendum → Statement.Draft
  | put c => { d with statement := d.statement.put c }
  | filter f condition args => ((Statement.Draft.filter f condition args).run.run d).2

end Addendum

namespace Statement

variable {f : Flavor} {t : Table} {calls : List Addendum}

def build (calls : List Addendum) : Statement :=
  (calls.foldl Addendum.apply ⟨empty, 1⟩).statement

def lastName (calls : List Addendum) : String :=
  (calls.reverse.findSome? Addendum.name?).getD ""

def lastTable? (calls : List Addendum) : Option Table :=
  calls.reverse.findSome? Addendum.table?

theorem apply_target (d : Draft) (a : Addendum) :
    (a.apply d).statement.tableName = a.name?.getD d.statement.tableName ∧
      (a.apply d).statement.table = a.table?.or d.statement.table := by
  cases a with
  | put c => cases c <;> exact ⟨rfl, rfl⟩
  | filter f condition args =>
    rcases Draft.run_filter f condition args d with ⟨e, next, h⟩ | ⟨written, params, h⟩
    · rw [Addendum.apply, h]
      exact ⟨rfl, rfl⟩
    · rw [Addendum.apply, h]
      exact ⟨rfl, rfl⟩

theorem lastName_concat (calls : List Addendum) (a : Addendum) :
    lastName (calls ++ [a]) = a.name?.getD (lastName calls) := by
  simp only [lastName, List.reverse_append, List.reverse_cons, List.reverse_nil, List.nil_append,
    List.singleton_append, List.findSome?_cons]
  cases a.name? <;> rfl

theorem lastTable?_concat (calls : List Addendum) (a : Addendum) :
    lastTable? (calls ++ [a]) = a.table?.or (lastTable? calls) := by
  simp only [lastTable?, List.reverse_append, List.reverse_cons, List.reverse_nil, List.nil_append,
    List.singleton_append, List.findSome?_cons]
  cases a.table? <;> rfl

theorem build_target (calls : List Addendum) :
    (build calls).tableName = lastName calls ∧ (build calls).table = lastTable? calls := by
  induction calls using List.reverseRecOn with
  | nil => exact ⟨rfl, rfl⟩
  | append_singleton calls a ih =>
    obtain ⟨hn, ht⟩ := apply_target (calls.foldl Addendum.apply ⟨empty, 1⟩) a
    have hb : build (calls ++ [a]) =
        (a.apply (calls.foldl Addendum.apply ⟨empty, 1⟩)).statement := by
      rw [build, List.foldl_append, List.foldl_cons, List.foldl_nil]
    rw [hb, hn, ht, lastName_concat, lastTable?_concat, ← ih.1, ← ih.2]
    exact ⟨rfl, rfl⟩

end Statement

/-- Whatever calls lead to a statement on a mapped table, the mapped table is created and indexed and
all else is done to the table of the last name that was given; and it is all about one table exactly
if that name is the name of the mapped table, the last one given. -/
theorem targets_iff {calls : List Addendum} {t : Table}
    (h : (Statement.build calls).table = some t) (f : Flavor) :
    (Statement.build calls).Uses f (Statement.lastName calls) ∧
      (Statement.build calls).Creates f t.name ∧ Statement.lastTable? calls = some t ∧
      ((∃ table, (Statement.build calls).Uses f table ∧ (Statement.build calls).Creates f table) ↔
        Statement.lastName calls = t.name) := by
  obtain ⟨hn, ht⟩ := Statement.build_target calls
  rw [← hn, ← ht]
  exact ⟨Statement.uses_tableName f _, Statement.creates_name h f, h, Statement.exists_target_iff h⟩

def pupilTable : Table :=
  (Table.empty "pupil").run [
    .column { Column.ofType "id" .int with primaryKey := true },
    .column { Column.ofType "name" .varchar with index := .single, unique := .named "name" }]

def pupilCalls : List Addendum :=
  [.put (.table (Table.empty "student")), .put (.tableName "archive"),
    .filter .oracle (.key (.int 1)) [], .put (.table pupilTable),
    .filter .oracle (.key (.int 1)) [.text "x"], .put (.tableName "old"), .put (.limit 5),
    .put (.tableName "pupil"), .put (.order "name")]

theorem targets_pupil :
    (Statement.build pupilCalls).table = some pupilTable ∧
      (Statement.build pupilCalls).Uses .oracle "pupil" ∧
        (Statement.build pupilCalls).Creates .oracle "pupil" := by
  have ht : (Statement.build pupilCalls).table = some pupilTable := by decide +kernel
  obtain ⟨hu, hc, -, -⟩ := targets_iff ht .oracle
  exact ⟨ht, hu, hc⟩

theorem targets_differ :
    ∃ calls t, (Statement.build calls).table = some t ∧
      (Statement.build calls).dropTableSql .mysql false = .ok "DROP TABLE `pupil`;" ∧
      (Statement.build calls).createTableSql .mysql false =
        .ok ["CREATE TABLE `student` (\n`name` VARCHAR(255) NULL);"] ∧
      ¬ ∃ table, (Statement.build calls).Uses .mysql table ∧
        (Statement.build calls).Creates .mysql table := by
  let t : Table := (Table.empty "student").run [.column (Column.ofType "name" .varchar)]
  refine ⟨[.put (.table t), .put (.tableName "pupil")], t, rfl, by decide +kernel,
    by decide +kernel, ?_⟩
  rw [Statement.exists_target_iff rfl]
  decide

end RecordSql
