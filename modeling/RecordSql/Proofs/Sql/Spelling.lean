import RecordSql.Sql.Change
import RecordSql.Sql.TableDefinition
import RecordSql.Proofs.Sql.Token
import RecordSql.Proofs.Text.Separated

/-! # Spelling of statements

The tokens that the statements on a table are read as. Names and markers stand between words that
are the same in every flavor, and the tokens of a condition are left as they are.
-/

namespace RecordSql

namespace Token

def listed (items : List (List Token)) : List Token :=
  (symbols ", ").intercalate items

def names (columns : List String) : List Token :=
  listed (columns.map fun name => [identifier name])

def insert (table : String) (columns : List String) (markers : List (Option Nat)) : List Token :=
  symbols "INSERT INTO " ++ identifier table :: symbols " (" ++ names columns ++
    symbols ") VALUES (" ++ listed (markers.map fun n => [marker n]) ++ symbols ");"

def assignment (a : String × Option Nat) : List Token :=
  identifier a.1 :: symbols " = " ++ [marker a.2]

def update (table : String) (assignments : List (String × Option Nat)) : List Token :=
  symbols "UPDATE " ++ identifier table :: symbols " SET " ++ listed (assignments.map assignment)

def delete (table : String) : List Token :=
  symbols "DELETE FROM " ++ [identifier table]

def createIndex (unique : Bool) (index table : String) (columns : List String) : List Token :=
  symbols (if unique then "CREATE UNIQUE INDEX " else "CREATE INDEX ") ++ identifier index ::
    symbols " ON " ++ identifier table :: symbols " (" ++ names columns ++ symbols ");"

def dropTable (table : String) (ifPresent : Bool) : List Token :=
  symbols ("DROP TABLE " ++ if ifPresent then "IF EXISTS " else "") ++
    identifier table :: symbols ";"

theorem filterMap_listed {β : Type} {g : Token → Option β} (h : ∀ c, g (symbol c) = none)
    (items : List (List Token)) : (listed items).filterMap g = items.flatMap (·.filterMap g) := by
  have hs : (symbols ", ").filterMap g = [] := by
    simp [symbols, h]
  induction items with
  | nil => simp [listed]
  | cons item items ih =>
    cases items with
    | nil => simp [listed]
    | cons next items =>
      unfold listed at ih ⊢
      rw [List.intercalate_cons_cons, List.filterMap_append, List.filterMap_append, hs, ih]
      simp

def markers (ts : List Token) : List (Option Nat) :=
  ts.filterMap fun
    | marker number => some number
    | _ => none

@[simp] theorem markers_nil : markers [] = [] := rfl

@[simp] theorem markers_append (ts us : List Token) :
    markers (ts ++ us) = markers ts ++ markers us :=
  List.filterMap_append

@[simp] theorem markers_identifier (name : String) (ts : List Token) :
    markers (identifier name :: ts) = markers ts := rfl

@[simp] theorem markers_marker (number : Option Nat) (ts : List Token) :
    markers (marker number :: ts) = number :: markers ts := rfl

@[simp] theorem markers_symbols (s : String) : markers (symbols s) = [] := by
  simp [markers, symbols]

theorem markers_listed (items : List (List Token)) :
    markers (listed items) = items.flatMap markers :=
  filterMap_listed (fun _ => rfl) items

@[simp] theorem markers_names (columns : List String) : markers (names columns) = [] := by
  simp [names, markers_listed, List.flatMap_map]

@[simp] theorem markers_insert (table : String) (columns : List String) (ns : List (Option Nat)) :
    markers (insert table columns ns) = ns := by
  simp [insert, markers_listed, List.flatMap_map]

@[simp] theorem markers_update (table : String) (assignments : List (String × Option Nat)) :
    markers (update table assignments) = assignments.map (·.2) := by
  simp [update, markers_listed, List.flatMap_map, assignment, ← List.map_eq_flatMap]

@[simp] theorem markers_delete (table : String) : markers (delete table) = [] := by
  simp [delete]

end Token

namespace Flavor

open Token

def isPlain (c : Char) : Bool :=
  c ∉ ['`', '"', '[', '\'', '?', '$', ':']

def number? (f : Flavor) (position : Nat) : Option Nat :=
  if f.placeholder.isNumbered then some position else none

/-- A text spells tokens if it is read as them in front of every text that breaks them off. -/
def Spells (f : Flavor) (s : String) (ts : List Token) : Prop :=
  ∀ rest, Breaks rest → f.lex (s.toList ++ rest) = ts ++ f.lex rest

variable {f : Flavor} {rest : List Char}

theorem Breaks.of_any {s : String} (h : s.toList.head?.any breaks = true) : Breaks s.toList :=
  fun c hc => by simpa [Option.mem_def.mp hc] using h

theorem Breaks.of_head {s : String} (h : s.toList.head?.any breaks = true) :
    Breaks (s.toList ++ rest) := by
  intro c hc
  cases hs : s.toList with
  | nil => simp [hs] at h
  | cons d t =>
    obtain rfl : d = c := by simpa [hs] using hc
    simpa [hs] using h

theorem readToken_plain {c : Char} (h : isPlain c = true) (s : List Char) :
    f.readToken c s = (.symbol c, s) := by
  obtain ⟨h₁, h₂, h₃, h₄, h₅, h₆, h₇⟩ : c ≠ '`' ∧ c ≠ '"' ∧ c ≠ '[' ∧ c ≠ '\'' ∧ c ≠ '?' ∧
      c ≠ '$' ∧ c ≠ ':' := by simpa [isPlain] using h
  cases f <;> simp [readToken, readMarker, opening, placeholder, *]

theorem lex_symbols {s : String} (h : s.toList.all isPlain = true) (rest : List Char) :
    f.lex (s.toList ++ rest) = symbols s ++ f.lex rest := by
  unfold symbols
  generalize s.toList = cs at h
  induction cs with
  | nil => rfl
  | cons c cs ih =>
    obtain ⟨hc, hs⟩ : isPlain c = true ∧ cs.all isPlain = true := by simpa using h
    simp [lex_cons, readToken_plain hc, ih hs]

theorem lex_end {s : String} (h : s.toList.all isPlain = true) : f.lex s.toList = symbols s := by
  simpa using lex_symbols (f := f) h []

/-- The end of a statement adds a symbol, unless a quote is open in front of it. -/
theorem lex_append_end (s : List Char) :
    f.lex (s ++ ";".toList) = f.lex s ++ if .unclosed ∈ f.lex s then [] else symbols ";" := by
  have hb : Breaks ";".toList := Breaks.of_any (by decide)
  have hq : f.closing ∉ ";".toList ∧ '\'' ∉ ";".toList := by cases f <;> simp [closing]
  fun_induction f.lex s with
  | case1 => simpa using lex_end (f := f) (s := ";") (by decide)
  | case2 c s ih =>
    rw [List.cons_append, lex_cons]
    by_cases h : (f.readToken c s).1 = .unclosed
    · obtain ⟨ha, hs⟩ := readToken_append_unclosed hq h
      rw [ha, hs]
      simp
    · rw [readToken_append hb h]
      simp only [ih, List.cons_append, List.mem_cons, Ne.symm h, false_or]

theorem lex_quote (name : String) (hb : Breaks rest) :
    f.lex ((f.quote name).toList ++ rest) = .identifier name :: f.lex rest := by
  have hr := Text.readEnclosed?_double name (hb.head?_ne_closing (f := f))
  simp [quote, Text.toList_enclose, lex_cons, readToken, readQuoted, hr]

theorem lex_marker (n : Nat) (hb : Breaks rest) :
    f.lex ((f.marker n).toList ++ rest) = .marker (f.number? n) :: f.lex rest := by
  have ht := Number.takeWhile_repr_append hb.isDigit_eq_false n
  have hr := Number.dropWhile_repr_append hb.isDigit_eq_false n
  cases f <;>
    simp [marker, placeholder, number?, Placeholder.isNumbered, lex_cons, readToken, readMarker,
      opening, ht, hr, Number.readDigits?_repr, -Nat.toList_repr]

theorem spells_quote (name : String) : f.Spells (f.quote name) [.identifier name] :=
  fun _ hb => lex_quote name hb

theorem spells_marker (n : Nat) : f.Spells (f.marker n) [.marker (f.number? n)] :=
  fun _ hb => lex_marker n hb

theorem Spells.listed {α : Type} {text : α → String} {ts : α → List Token}
    (h : ∀ a, f.Spells (text a) (ts a)) (items : List α) :
    f.Spells (", ".intercalate (items.map text)) (Token.listed (items.map ts)) := by
  intro rest hb
  induction items with
  | nil => simp [Token.listed]
  | cons a items ih =>
    cases items with
    | nil => simpa [Token.listed] using h a rest hb
    | cons b items =>
      have hc : Breaks
          (", ".toList ++ (", ".intercalate ((b :: items).map text)).toList ++ rest) := by
        rw [List.append_assoc]
        exact Breaks.of_head (by decide)
      simp only [List.map_cons, String.intercalate_cons_cons, String.toList_append,
        List.append_assoc] at ih hc ⊢
      rw [h a _ hc, lex_symbols (by decide), ih]
      simp [Token.listed, List.intercalate_cons_cons]

/-! ## Changes -/

theorem quote_ne_empty (f : Flavor) (name : String) : f.quote name ≠ "" := by
  simp [quote, Text.enclose, ← String.toList_inj]

theorem marker_ne_empty (f : Flavor) (n : Nat) : f.marker n ≠ "" := by
  cases f <;> simp [marker, placeholder, ← String.toList_inj]

theorem appendIdentifiers_eq (f : Flavor) (out : String) (columns : List String) :
    Text.appendSeparated out columns f.appendIdentifier ", " =
      out ++ ", ".intercalate (columns.map f.quote) :=
  Text.appendSeparated_eq_intercalate (fun _ _ => rfl) f.quote_ne_empty out columns

def assign (f : Flavor) (column : String × Nat) : String :=
  f.quote column.1 ++ " = " ++ f.marker column.2

theorem spells_assign (a : String × Nat) :
    f.Spells (f.assign a) (Token.assignment (a.1, f.number? a.2)) := by
  intro rest hb
  simp only [assign, String.toList_append, List.append_assoc]
  rw [lex_quote _ (Breaks.of_head (by decide)), lex_symbols (by decide), lex_marker _ hb]
  simp [Token.assignment]

theorem appendAssignments_eq (f : Flavor) (out : String) (columns : List (String × Nat)) :
    Text.appendSeparated out columns f.appendAssignment ", " =
      out ++ ", ".intercalate (columns.map f.assign) := by
  refine Text.appendSeparated_eq_intercalate (fun out a => ?_) (fun a => ?_) out columns
  · simp [appendAssignment, appendMarker, appendIdentifier, assign, String.append_assoc]
  · simp [assign, f.quote_ne_empty]

theorem appendMarkers_eq (f : Flavor) (out : String) (positions : List Nat) :
    Text.appendSeparated out positions f.appendMarker ", " =
      out ++ ", ".intercalate (positions.map f.marker) :=
  Text.appendSeparated_eq_intercalate (fun _ _ => rfl) f.marker_ne_empty out positions

theorem lex_names (columns : List String) (hb : Breaks rest) :
    f.lex ((", ".intercalate (columns.map f.quote)).toList ++ rest) =
      Token.names columns ++ f.lex rest :=
  Spells.listed spells_quote columns rest hb

theorem tokens_appendInsert (f : Flavor) (table : String) (columns : List String) (first : Nat) :
    f.tokens (f.appendInsert "" table columns first) =
      Token.insert table columns ((List.range' first columns.length).map f.number?) := by
  have hm := Spells.listed (f := f) spells_marker (List.range' first columns.length)
  simp only [tokens, appendInsert, appendIdentifiers_eq, appendMarkers_eq, appendIdentifier,
    String.empty_append, String.toList_append, List.append_assoc]
  rw [lex_symbols (by decide), lex_quote _ (Breaks.of_head (by decide)), lex_symbols (by decide),
    lex_names _ (Breaks.of_head (by decide)), lex_symbols (by decide),
    hm _ (Breaks.of_any (by decide)), lex_end (by decide)]
  simp [Token.insert, Function.comp_def]

def conditionText (condition : String) : String :=
  appendCondition "" condition ++ ";"

theorem appendCondition_eq (out condition : String) :
    appendCondition out condition = out ++ appendCondition "" condition := by
  unfold appendCondition
  split <;> simp [String.append_assoc]

theorem appendCondition_end (out condition : String) :
    appendCondition out condition ++ ";" = out ++ conditionText condition := by
  rw [appendCondition_eq, String.append_assoc, conditionText]

theorem breaks_conditionText (condition : String) : Breaks (conditionText condition).toList := by
  unfold conditionText appendCondition
  split
  · exact Breaks.of_any (by decide)
  · simp only [String.empty_append, String.toList_append, List.append_assoc]
    exact Breaks.of_head (by decide)

theorem tokens_appendUpdate (f : Flavor) (table : String) (columns : List String) (first : Nat)
    (condition : String) :
    f.tokens (f.appendUpdate "" table columns first condition) =
      Token.update table (columns.zip ((List.range' first columns.length).map f.number?)) ++
        f.tokens (conditionText condition) := by
  have ha := Spells.listed (f := f) spells_assign (columns.zipIdx first)
  simp only [tokens, appendUpdate, appendAssignments_eq, appendIdentifier, appendCondition_end,
    String.empty_append, String.toList_append, List.append_assoc]
  rw [lex_symbols (by decide), lex_quote _ (Breaks.of_head (by decide)), lex_symbols (by decide),
    ha _ (breaks_conditionText condition)]
  simp [Token.update, List.zipIdx_eq_zip_range', List.zip_map_right, Function.comp_def, Prod.map]

theorem tokens_appendDelete (f : Flavor) (table condition : String) :
    f.tokens (f.appendDelete "" table condition) =
      Token.delete table ++ f.tokens (conditionText condition) := by
  simp only [tokens, appendDelete, appendIdentifier, appendCondition_end, String.empty_append,
    String.toList_append, List.append_assoc]
  rw [lex_symbols (by decide), lex_quote _ (breaks_conditionText condition)]
  simp [Token.delete]

/-! ## Definitions -/

theorem tokens_appendCreateIndex (f : Flavor) (table group : String) (columns : List String)
    (unique : Bool) :
    f.tokens (f.appendCreateIndex "" table group columns unique) =
      Token.createIndex unique (indexName table group unique) table columns := by
  have hw : (if unique then "CREATE UNIQUE INDEX " else "CREATE INDEX ").toList.all isPlain =
      true := by cases unique <;> decide
  simp only [tokens, appendCreateIndex, startLine, if_true, appendIdentifiers_eq, appendIdentifier,
    String.empty_append, String.toList_append, List.append_assoc]
  rw [lex_symbols hw, lex_quote _ (Breaks.of_head (by decide)), lex_symbols (by decide),
    lex_quote _ (Breaks.of_head (by decide)), lex_symbols (by decide),
    lex_names _ (Breaks.of_any (by decide)), lex_end (by decide)]
  simp [Token.createIndex]

theorem tokens_appendDropTable (table : String) {ifPresent : Bool}
    (h : f = .oracle → ifPresent = false) :
    f.tokens (f.appendDropTable "" table ifPresent) = Token.dropTable table ifPresent := by
  have hw : ("DROP TABLE " ++ if ifPresent then "IF EXISTS " else "").toList.all isPlain =
      true := by cases ifPresent <;> decide
  have ht : f.appendDropTable "" table ifPresent =
      ("DROP TABLE " ++ if ifPresent then "IF EXISTS " else "") ++ f.quote table ++ ";" := by
    cases f <;> simp_all [appendDropTable, startLine, appendIdentifier]
  rw [ht, tokens, String.toList_append, String.toList_append, List.append_assoc, lex_symbols hw,
    lex_quote _ (Breaks.of_any (by decide)), lex_end (by decide)]
  simp [Token.dropTable]

end Flavor

end RecordSql
