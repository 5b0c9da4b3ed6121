import RecordSql.Proofs.Sql.Spelling

/-! # Containment of names

A name of a table, a group or a column stays inside of its quoted identifier. The identifiers that a
statement is read as are its names in order, and no other token depends on a name.
-/

namespace RecordSql

namespace Token

def identifiers (ts : List Token) : List String :=
  ts.filterMap fun
    | identifier name => some name
    | _ => none

def blank : Token → Token
  | identifier _ => identifier ""
  | t => t

@[simp] theorem identifiers_nil : identifiers [] = [] := rfl

@[simp] theorem identifiers_append (ts us : List Token) :
    identifiers (ts ++ us) = identifiers ts ++ identifiers us :=
  List.filterMap_append

@[simp] theorem identifiers_identifier (name : String) (ts : List Token) :
    identifiers (identifier name :: ts) = name :: identifiers ts := rfl

@[simp] theorem identifiers_marker (number : Option Nat) (ts : List Token) :
    identifiers (marker number :: ts) = identifiers ts := rfl

@[simp] theorem identifiers_symbols (s : String) : identifiers (symbols s) = [] := by
  simp [identifiers, symbols]

theorem identifiers_listed (items : List (List Token)) :
    identifiers (listed items) = items.flatMap identifiers :=
  filterMap_listed (fun _ => rfl) items

@[simp] theorem identifiers_names (columns : List String) :
    identifiers (names columns) = columns := by
  simp [names, identifiers_listed, List.flatMap_map]

@[simp] theorem blank_identifier (name : String) : (identifier name).blank = identifier "" := rfl

@[simp] theorem blank_marker (number : Option Nat) : (marker number).blank = marker number := rfl

@[simp] theorem map_blank_symbols (s : String) : (symbols s).map blank = symbols s := by
  simp [symbols, blank]

theorem map_blank_listed (items : List (List Token)) :
    (listed items).map blank = listed (items.map (·.map blank)) := by
  induction items with
  | nil => simp [listed]
  | cons item items ih =>
    cases items with
    | nil => simp [listed]
    | cons next items =>
      unfold listed at ih ⊢
      simp only [List.intercalate_cons_cons, List.map_append, map_blank_symbols, ih, List.map_cons]

@[simp] theorem map_blank_names (columns : List String) :
    (names columns).map blank = names (columns.map fun _ => "") := by
  simp [names, map_blank_listed, Function.comp_def]

@[simp] theorem unclosed_not_mem_symbols (s : String) : unclosed ∉ symbols s := by
  simp [symbols]

theorem unclosed_not_mem_listed {α : Type} {ts : α → List Token} (h : ∀ a, unclosed ∉ ts a)
    (items : List α) : unclosed ∉ listed (items.map ts) := by
  induction items with
  | nil => simp [listed]
  | cons a items ih =>
    cases items with
    | nil => simpa [listed] using h a
    | cons b items =>
      unfold listed at ih ⊢
      simp only [List.map_cons, List.intercalate_cons_cons, List.mem_append, not_or] at ih ⊢
      exact ⟨⟨h a, unclosed_not_mem_symbols _⟩, ih⟩

@[simp] theorem unclosed_not_mem_names (columns : List String) : unclosed ∉ names columns :=
  unclosed_not_mem_listed (by simp) columns

end Token

/-- A statement made of names, without a condition. -/
inductive NamedStatement
  | insert (table : String) (columns : List String) (first : Nat)
  | update (table : String) (columns : List String) (first : Nat)
  | delete (table : String)
  | createIndex (table group : String) (columns : List String) (unique : Bool)
  | dropTable (table : String) (ifPresent : Bool)

namespace NamedStatement

def text (f : Flavor) : NamedStatement → String
  | insert table columns first => f.appendInsert "" table columns first
  | update table columns first => f.appendUpdate "" table columns first ""
  | delete table => f.appendDelete "" table ""
  | createIndex table group columns unique => f.appendCreateIndex "" table group columns unique
  | dropTable table ifPresent => f.appendDropTable "" table ifPresent

def names : NamedStatement → List String
  | insert table columns _ => table :: columns
  | update table columns _ => table :: columns
  | delete table => [table]
  | createIndex table group columns unique =>
    Flavor.indexName table group unique :: table :: columns
  | dropTable table _ => [table]

/-- A statement without its names, which leaves the number of columns and the flags. -/
def blank : NamedStatement → NamedStatement
  | insert _ columns first => insert "" (columns.map fun _ => "") first
  | update _ columns first => update "" (columns.map fun _ => "") first
  | delete _ => delete ""
  | createIndex _ _ columns unique => createIndex "" "" (columns.map fun _ => "") unique
  | dropTable _ ifPresent => dropTable "" ifPresent

def Direct (f : Flavor) (a : NamedStatement) : Prop :=
  ∀ table, a = dropTable table true → f ≠ .oracle

def tokens (f : Flavor) : NamedStatement → List Token
  | insert table columns first =>
    Token.insert table columns ((List.range' first columns.length).map f.number?)
  | update table columns first =>
    Token.update table (columns.zip ((List.range' first columns.length).map f.number?)) ++
      Token.symbols ";"
  | delete table => Token.delete table ++ Token.symbols ";"
  | createIndex table group columns unique =>
    Token.createIndex unique (Flavor.indexName table group unique) table columns
  | dropTable table ifPresent => Token.dropTable table ifPresent

variable {f : Flavor} {a b : NamedStatement}

theorem direct_of_blank_eq (h : b.blank = a.blank) (ha : a.Direct f) : b.Direct f := by
  rintro table rfl
  cases a with
  | dropTable other ifPresent =>
    obtain rfl : true = ifPresent := by simpa [blank] using h
    exact ha other rfl
  | _ => simp [blank] at h

theorem tokens_text (h : a.Direct f) : f.tokens (a.text f) = a.tokens f := by
  have he : f.tokens (Flavor.conditionText "") = Token.symbols ";" := Flavor.lex_end (by decide)
  cases a with
  | insert table columns first => exact f.tokens_appendInsert table columns first
  | update table columns first =>
    simpa only [text, tokens, he] using f.tokens_appendUpdate table columns first ""
  | delete table => simpa only [text, tokens, he] using f.tokens_appendDelete table ""
  | createIndex table group columns unique =>
    exact f.tokens_appendCreateIndex table group columns unique
  | dropTable table ifPresent =>
    refine Flavor.tokens_appendDropTable table fun hf => ?_
    cases ifPresent with
    | false => rfl
    | true => exact absurd hf (h table rfl)

theorem identifiers_tokens (f : Flavor) (a : NamedStatement) :
    Token.identifiers (a.tokens f) = a.names := by
  cases a with
  | insert table columns first =>
    simp [tokens, names, Token.insert, Token.identifiers_listed, List.flatMap_map]
  | update table columns first =>
    have hz : (columns.zip ((List.range' first columns.length).map f.number?)).map (·.1) =
        columns := List.map_fst_zip (by simp)
    simp [tokens, names, Token.update, Token.identifiers_listed, List.flatMap_map,
      Token.assignment, ← List.map_eq_flatMap, hz]
  | delete table => simp [tokens, names, Token.delete]
  | createIndex table group columns unique => simp [tokens, names, Token.createIndex]
  | dropTable table ifPresent => simp [tokens, names, Token.dropTable]

theorem map_blank_tokens (f : Flavor) (a : NamedStatement) :
    (a.tokens f).map Token.blank = (a.blank.tokens f).map Token.blank := by
  cases a with
  | insert table columns first =>
    simp [tokens, blank, Token.insert, Token.map_blank_listed, Function.comp_def]
  | update table columns first =>
    have ha : ∀ a : String × Option Nat,
        (Token.assignment a).map Token.blank = Token.assignment ("", a.2) := by
      simp [Token.assignment, Token.blank]
    have hz : ∀ ns : List (Option Nat), (columns.map fun _ => "").zip ns =
        (columns.zip ns).map fun a => ("", a.2) := fun ns => by
      rw [List.zip_map_left]
      rfl
    simp only [tokens, blank, Token.update, hz, List.length_map, List.map_append, List.map_cons,
      List.map_map, Function.comp_def, Token.map_blank_symbols, Token.map_blank_listed,
      Token.blank_identifier, ha]
  | delete table => simp [tokens, blank, Token.delete]
  | createIndex table group columns unique =>
    simp [tokens, blank, Token.createIndex]
  | dropTable table ifPresent => simp [tokens, blank, Token.dropTable]

theorem unclosed_not_mem_tokens (f : Flavor) (a : NamedStatement) :
    Token.unclosed ∉ a.tokens f := by
  cases a with
  | insert table columns first =>
    have hm : ∀ ns : List (Option Nat), .unclosed ∉ Token.listed (ns.map fun n => [.marker n]) :=
      Token.unclosed_not_mem_listed (by simp)
    simp [tokens, Token.insert, hm, -List.map_map]
  | update table columns first =>
    have ha : ∀ items : List (String × Option Nat),
        .unclosed ∉ Token.listed (items.map Token.assignment) :=
      Token.unclosed_not_mem_listed (by simp [Token.assignment])
    simp [tokens, Token.update, ha]
  | delete table => simp [tokens, Token.delete]
  | createIndex table group columns unique => simp [tokens, Token.createIndex]
  | dropTable table ifPresent => simp [tokens, Token.dropTable]

end NamedStatement

end RecordSql
