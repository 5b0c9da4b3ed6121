import RecordSql.Proofs.Database.Tables
import RecordSql.Proofs.Record.Defaults
import RecordSql.Proofs.Record.Flattening
import RecordSql.Proofs.Sql.Guarded
import RecordSql.Proofs.Sql.Keys

/-! # Defaults of texts

A column of a text has its default as a literal, made from what an annotation or the catalog says. A
text that starts with a quote is taken for a literal already, so that the default is a literal
exactly if such a text is one. In a definition, a literal is read to its end and not further.
-/

namespace RecordSql

def Field.default? (f : Field) : Option String :=
  f.directives?.bind (·.default)

/-- A default is made from a text as a literal, unless the text only starts like one. -/
def MakesLiteral (text default : String) : Prop :=
  Text.IsLiteral default ↔ (text.toList.head? = some '\'' → Text.IsLiteral text)

variable {t : ColumnType} {text default : String}

theorem ColumnType.literal_none (t : ColumnType) : t.literal none = none := by
  unfold literal
  split <;> rfl

theorem ColumnType.isSerial_of_isText (h : t.isText = true) : t.isSerial = false := by
  cases t <;> first | rfl | cases h

theorem Column.default_quoteDefault (c : Column) :
    c.quoteDefault.default = c.quoteDefault.type.literal c.default :=
  rfl

theorem ColumnType.literal_of_isText (h : t.isText = true) (text : String) :
    t.literal (some text) =
      some (if text.toList.head? = some '\'' then text else Text.literal text) := by
  rw [literal, if_pos h, Option.map_some]

theorem ColumnType.makesLiteral (h : t.isText = true) (hd : t.literal (some text) = some default) :
    MakesLiteral text default := by
  rw [literal_of_isText h, Option.some_inj] at hd
  by_cases hq : text.toList.head? = some '\''
  · rw [if_pos hq] at hd
    rw [MakesLiteral, ← hd]
    exact ⟨fun hl _ => hl, fun hl => hl hq⟩
  · rw [if_neg hq] at hd
    rw [MakesLiteral, ← hd]
    exact iff_of_true (Text.isLiteral_iff.mpr ⟨text, rfl⟩) fun hl => absurd hl hq

theorem ColumnType.exists_of_literal_eq_some {given : Option String} (h : t.isText = true)
    (hd : t.literal given = some default) :
    ∃ text, given = some text ∧ MakesLiteral text default := by
  cases given with
  | none =>
    rw [literal, if_pos h] at hd
    cases hd
  | some text => exact ⟨text, rfl, makesLiteral h hd⟩

theorem Column.default_ofDirectives (n : Naming) (path name : String) (kind : Kind)
    (a : Directives) :
    (ofDirectives n path name kind a).default =
      (ofDirectives n path name kind a).type.literal a.default :=
  rfl

theorem Field.default_column (n : Naming) (f : Field) :
    (f.column n).default = (f.column n).type.literal f.default? := by
  obtain ⟨name, kind, _ | line⟩ := f
  · have hc : (Column.ofField n "" name kind).default = none := by
      unfold Column.ofField
      dsimp only
      split <;> rfl
    rw [column, hc, default?, directives?]
    exact (ColumnType.literal_none _).symm
  · have hd : (Field.mk name kind (some line)).default? =
        ((Directives.read? line).getD .empty).default := by
      rw [default?, directives?, Field.line]
      dsimp only
      cases Directives.read? line <;> rfl
    rw [hd, column, Column.default_ofDirectives]

theorem Catalog.default_readColumn {r : Row} {c : Column} (h : readColumn r = .ok c) :
    c.default = c.type.literal (r.get 2).written? := by
  obtain ⟨token, t, d, -, -, -, rfl⟩ := readColumn_eq_ok_iff.mp h
  exact Column.default_quoteDefault _

/-- A definition takes over a default as a literal: behind the word for it, the literal is read to
its end wherever no quote follows the definition. -/
def Flavor.TakesOver (f : Flavor) (c : Column) (key : Option String) (default : String) : Prop :=
  ∃ front back text, f.appendColumn "" c key = front ++ " DEFAULT " ++ default ++ back ∧
    ∀ rest : String, rest.toList.head? ≠ some '\'' →
      Text.readLiteral? (default ++ back ++ rest) = some (text, back ++ rest)

theorem Flavor.exists_appendColumn_default {f : Flavor} {c : Column} (hd : c.default = some default)
    (hne : default ≠ "") (hc : f = oracle → (f.translate c).2.autoIncrement = false)
    (key : Option String) :
    ∃ front back, f.appendColumn "" c key = front ++ " DEFAULT " ++ default ++ back ∧
      back.toList.head? ≠ some '\'' := by
  have hs : (f.translate c).2.default = some default := by
    rw [translate, settle_eq]
    exact hd
  by_cases hf : f = oracle
  · subst hf
    refine ⟨oracle.quote c.name ++ " " ++ (oracle.translate c).1,
      (if declaresKey (oracle.translate c).2 key then " PRIMARY KEY" else "") ++
        nullWords (oracle.translate c).2, ?_, ?_⟩
    · rw [appendColumn, appendLeadingDefault]
      simp only [hs, hc rfl, Bool.false_eq_true, if_false, String.append_assoc, name_translate,
        appendIdentifier, String.empty_append]
    · unfold nullWords
      split <;> split <;> simp
  · refine ⟨f.appendColumn "" { c with default := none } key, "", ?_, by simp⟩
    rw [appendColumn_of_ne hf, appendColumn_of_ne hf, appendPlainDefinition, appendPlainDefinition]
    simp only [translate_withoutDefault, hs, if_neg hne, String.append_empty, String.append_assoc]
    rfl

theorem Flavor.takesOver_of_isLiteral {f : Flavor} {c : Column} {key : Option String}
    (hd : c.default = some default) (hl : Text.IsLiteral default)
    (hc : f = oracle → (f.translate c).2.autoIncrement = false) : f.TakesOver c key default := by
  obtain ⟨text, rfl⟩ := Text.isLiteral_iff.mp hl
  have hne : Text.literal text ≠ "" := by
    rw [ne_eq, ← String.toList_eq_nil_iff, Text.literal, Text.toList_enclose]
    exact List.cons_ne_nil _ _
  obtain ⟨front, back, he, hb⟩ := exists_appendColumn_default hd hne hc key
  refine ⟨front, back, text, he, fun rest hr => ?_⟩
  rw [String.append_assoc]
  refine Text.readLiteral?_append ?_ text
  rw [String.toList_append, List.head?_append]
  cases hx : back.toList.head? with
  | none => exact hr
  | some x =>
    rw [hx] at hb
    exact hb

/-- The default of a column of a text, mapped from a field or read from a row of the catalog, is a
literal exactly if the text that it comes from does not start with a quote or is a literal itself;
and a default that is one is taken over as a literal in each dialect. -/
theorem makesLiteral_default {c : Column} {default : String} (hx : c.type.isText = true)
    (hd : c.default = some default) :
    (∀ (n : Naming) (r : RecordType) (t : Table), r.table n = .ok t → c ∈ t.columns →
      ∃ p ∈ leaves r.fields, c.field = p.pathIn "" ∧
        ∃ text, p.field.default? = some text ∧ MakesLiteral text default) ∧
    (∀ (r : Row) (j j' : Journal), (Catalog.columnOf r).run.run j = (.ok c, j') →
      ∃ text, (r.get 2).written? = some text ∧ MakesLiteral text default) ∧
    (Text.IsLiteral default → ∀ (f : Flavor) (key : Option String),
      (f = .oracle → c.autoIncrement = false) → f.TakesOver c key default) := by
  refine ⟨?_, ?_, ?_⟩
  · intro n r t ht hc
    obtain ⟨-, -, rfl⟩ := RecordType.table_eq_ok_iff.mp ht
    rw [Table.columns_foldl_push] at hc
    obtain ⟨p, hp, rfl⟩ := List.mem_map.mp hc
    dsimp only at hx hd
    rw [Field.default_column] at hd
    exact ⟨p, hp, rfl, ColumnType.exists_of_literal_eq_some hx hd⟩
  · intro r j j' hr
    obtain ⟨journal, -, hr'⟩ := Catalog.run_columnOf r j
    have hc : Catalog.readColumn r = .ok c := (Prod.mk.inj (hr'.symm.trans hr)).1
    rw [Catalog.default_readColumn hc] at hd
    exact ColumnType.exists_of_literal_eq_some hx hd
  · intro hl f key hf
    refine Flavor.takesOver_of_isLiteral hd hl fun ho => ?_
    have hs : c.type.isSerial = false := ColumnType.isSerial_of_isText hx
    rw [Flavor.translate, Flavor.settle_eq]
    simp [hf ho, hs]

def noteRecord (default : String) : RecordType :=
  ⟨"note", [.mk "body" .text (some ("varchar default " ++ default))]⟩

def noteColumn (literal : String) : Column :=
  { Column.ofType "body" .varchar with default := some literal }

def noteTable (literal : String) : Table :=
  { Table.empty "note" with columns := [noteColumn literal] }

theorem columnOf_cityRow (default : String) :
    ∃ c, (∀ j, (Catalog.columnOf (cityRow default)).run.run j = (.ok c, j)) ∧ c.type = .varchar ∧
      c.default = ColumnType.varchar.literal (some default) := by
  obtain ⟨c, hr, ht, hd⟩ :=
    Catalog.readColumn_default (l := ⟨0, 0⟩) (holdsType_cityRow default) rfl
  refine ⟨c, fun j => ?_, ht, hd⟩
  rw [Catalog.columnOf, hr]
  rfl

theorem makesLiteral_default_doubled :
    ((noteRecord "it's").table .same = .ok (noteTable "'it''s'") ∧ Text.IsLiteral "'it''s'" ∧
        ∀ (f : Flavor) key, f.TakesOver (noteColumn "'it''s'") key "'it''s'") ∧
      ∃ c, (∀ j, (Catalog.columnOf (cityRow "o'er")).run.run j = (.ok c, j)) ∧
        c.type.isText = true ∧ c.default = some "'o''er'" ∧ Text.IsLiteral "'o''er'" := by
  have ht : (noteRecord "it's").table .same = .ok (noteTable "'it''s'") := by decide +kernel
  obtain ⟨hm, -, hd⟩ := makesLiteral_default (c := noteColumn "'it''s'") rfl rfl
  have hlit : Text.IsLiteral "'it''s'" := by
    obtain ⟨p, hp, -, text, hs, hi⟩ := hm .same _ _ ht (List.mem_singleton_self _)
    obtain rfl : p = ⟨[], .mk "body" .text (some "varchar default it's")⟩ :=
      List.mem_singleton.mp (List.mem_of_mem_filter (List.mem_of_mem_filter hp))
    have he : Field.default? (.mk "body" .text (some "varchar default it's")) = some "it's" := by
      decide +kernel
    obtain rfl : "it's" = text := Option.some.inj (he.symm.trans hs)
    exact hi.mpr fun h => absurd h (by decide)
  obtain ⟨c, hc, hx, hl⟩ := columnOf_cityRow "o'er"
  have hx : c.type.isText = true := by
    rw [hx]
    rfl
  have hl : c.default = some "'o''er'" := hl.trans (by decide)
  obtain ⟨text, hs, hi⟩ := (makesLiteral_default hx hl).2.1 _ _ _ (hc (.empty false))
  obtain rfl : "o'er" = text := Option.some.inj hs
  have hrow : Text.IsLiteral "'o''er'" := hi.mpr fun h => absurd h (by decide)
  exact ⟨⟨ht, hlit, fun f key => hd hlit f key fun _ => rfl⟩, c, hc, hx, hl, hrow⟩

/-- A text that starts with a quote is the default as it stands, even if it does not end with one. -/
theorem default_not_literal :
    ((noteRecord "'it").table .same = .ok (noteTable "'it") ∧
      (noteColumn "'it").type.isText = true ∧ ¬ Text.IsLiteral "'it") ∧
    ∃ c, (∀ j, (Catalog.columnOf (cityRow "'x")).run.run j = (.ok c, j)) ∧ c.type.isText = true ∧
      c.default = some "'x" ∧ ¬ Text.IsLiteral "'x" := by
  have hn : ∀ {s : String}, s.toList.getLast? ≠ some '\'' → ¬ Text.IsLiteral s := by
    rintro s hs ⟨inner, he, -⟩
    rw [he, ← List.cons_append, List.getLast?_concat] at hs
    exact hs rfl
  obtain ⟨c, hc, hx, hd⟩ := columnOf_cityRow "'x"
  refine ⟨⟨by decide +kernel, rfl, hn (by decide)⟩, c, hc, ?_, hd.trans (by decide), hn (by decide)⟩
  rw [hx]
  rfl

end RecordSql
