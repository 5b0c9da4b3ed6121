import RecordSql.Proofs.Database.Columns
import RecordSql.Proofs.Record.Words
import RecordSql.Proofs.Text.Enclosed
import RecordSql.Proofs.Text.Lower
import RecordSql.Record.Mapping

/-! # Defaults from annotations and from the catalog

An annotation is read in lower case together with the default in it, and a default in the catalog is
taken as it stands. So both give a column the same default exactly if the default is in lower case.
-/

namespace RecordSql

variable {t : ColumnType} {word default : String}

namespace ColumnType

/-- The literals of two texts differ if the texts do, as far as none of them alone is quoted. -/
theorem literal_eq_iff {a b : String} (ha : a ≠ "") (hb : b ≠ "")
    (hq : a.toList.head? = some '\'' ↔ b.toList.head? = some '\'') :
    t.literal (some a) = t.literal (some b) ↔ a = b := by
  refine ⟨fun h => ?_, fun h => h ▸ rfl⟩
  unfold literal at h
  cases ht : t.isText with
  | true =>
    rw [ht, if_pos rfl, if_pos rfl, Option.map_some, Option.map_some, Option.some_inj] at h
    by_cases hs : a.toList.head? = some '\''
    · rwa [if_pos hs, if_pos (hq.mp hs)] at h
    · rw [if_neg hs, if_neg (mt hq.mpr hs)] at h
      exact Text.literal_injective h
  | false =>
    rw [ht, if_neg Bool.false_ne_true, if_neg Bool.false_ne_true] at h
    simpa [Option.filter, ha, hb] using h

theorem classify_name (field : String) (t : ColumnType) :
    Word.classify field (String.ofList (t.name.toList.map Char.toLower)) = .ok (.type t none) :=
  Word.classify_type field t none

end ColumnType

theorem words_annotation (hw : Text.sameLetters word t.name = true) (hne : default ≠ "")
    (hb : ∀ c ∈ default.toList, Text.isBlank c = false) :
    Text.words (Text.toLower (word ++ " default " ++ default)) =
      [String.ofList (t.name.toList.map Char.toLower), "default", Text.toLower default] := by
  rw [Text.sameLetters_iff] at hw
  have hp : ∀ c ∈ word.toList, c.isAlpha = true :=
    Text.isAlpha_of_map_toLower_eq hw t.isAlpha_of_mem_name
  have hv : ∀ c ∈ word.toList, c.toNat < 128 := fun c hc => by
    have hn := Text.toNat_of_isAlpha (hp c hc)
    omega
  have hwn : word ≠ "" := by
    rintro rfl
    exact t.toList_name_ne_nil (List.map_eq_nil_iff.mp hw.symm)
  have hws : ∀ w ∈ [word, "default", default], Text.IsWord w := by
    rw [List.forall_mem_cons, List.forall_mem_cons, List.forall_mem_singleton]
    exact ⟨⟨hwn, fun c hc => Text.isBlank_of_isAlpha (hp c hc)⟩, by decide, hne, hb⟩
  have ht : word ++ " default " ++ default = " ".intercalate [word, "default", default] := by
    simp [← String.toList_inj]
  have hl : Text.toLower word = String.ofList (t.name.toList.map Char.toLower) := by
    rw [Text.toLower, Text.lowerFrom_of_plain [] _ hv, hw]
  have hd : Text.toLower "default" = "default" := by decide
  rw [ht, Text.words_toLower_intercalate hws, List.map_cons, List.map_cons, List.map_singleton, hl,
    hd]

theorem Directives.read_default (hw : Text.sameLetters word t.name = true) (hne : default ≠ "")
    (hb : ∀ c ∈ default.toList, Text.isBlank c = false) (field : String) :
    Directives.read field (word ++ " default " ++ default) =
      .ok { empty with type := some t, default := some (Text.toLower default) } := by
  have hd : Word.classify field "default" = .ok .default := rfl
  rw [read, words_annotation hw hne hb, addWords.eq_def]
  dsimp only
  rw [ColumnType.classify_name]
  change addWords field (empty.add (.type t none)) ["default", Text.toLower default] = _
  rw [addWords.eq_def]
  dsimp only
  rw [hd]
  change addWords field { empty with type := some t, default := some (Text.toLower default) } [] = _
  rw [addWords]

theorem Field.columns_default (hw : Text.sameLetters word t.name = true) (hne : default ≠ "")
    (hb : ∀ c ∈ default.toList, Text.isBlank c = false) (n : Naming) (outer name : String)
    (kind : Kind) :
    ∃ c, (Field.mk name kind (some (word ++ " default " ++ default))).columns n outer = .ok [c] ∧
      c.type = t ∧ c.default = t.literal (some (Text.toLower default)) := by
  rw [columns, Directives.read_default hw hne hb]
  exact ⟨_, rfl, rfl, rfl⟩

theorem Catalog.readColumn_default {r : Row} {l : Lengths}
    (ht : HoldsType (cell r 3) (Flavor.appendLengths t.name l.first l.second))
    (hd : (r.get 2).written? = some default) :
    ∃ c, readColumn r = .ok c ∧ c.type = t ∧ c.default = t.literal (some default) := by
  obtain ⟨name, hr, hn⟩ := ht.read?
  refine ⟨_, readColumn_eq_ok_iff.mpr ⟨_, t, _, hr, hn, reportedLengths_argument _ l, rfl⟩, rfl, ?_⟩
  rw [← hd]
  rfl

/-- The column of a field with a type and a default has the same default as the column read back from a
row of the catalog with both exactly if the default is in lower case. -/
theorem defaults_eq_iff {r : Row} {l : Lengths} (hw : Text.sameLetters word t.name = true)
    (hne : default ≠ "") (hb : ∀ c ∈ default.toList, Text.isBlank c = false)
    (ht : Catalog.HoldsType (Catalog.cell r 3) (Flavor.appendLengths t.name l.first l.second))
    (hd : (r.get 2).written? = some default) (n : Naming) (outer name : String) (kind : Kind) :
    ∃ c d, (Field.mk name kind (some (word ++ " default " ++ default))).columns n outer =
        .ok [c] ∧ (∀ j, (Catalog.columnOf r).run.run j = (.ok d, j)) ∧
      (c.default = d.default ↔ Text.toLower default = default) := by
  obtain ⟨c, hc, -, hcd⟩ := Field.columns_default hw hne hb n outer name kind
  obtain ⟨d, hr, -, hdd⟩ := Catalog.readColumn_default ht hd
  have hl : default.toList ≠ [] := by simpa using hne
  have hn : Text.toLower default ≠ "" := by
    simpa [Text.toLower] using Text.lowerFrom_ne_nil hl []
  have hq : (Text.toLower default).toList.head? = some '\'' ↔
      default.toList.head? = some '\'' := by
    rw [Text.toLower, String.toList_ofList]
    exact Text.head?_lowerFrom_eq_quote_iff [] _
  refine ⟨c, d, hc, fun j => ?_, ?_⟩
  · rw [Catalog.columnOf, hr]
    rfl
  · rw [hcd, hdd]
    exact ColumnType.literal_eq_iff hn hne hq

def cityRow (default : String) : Row :=
  ⟨[], [.text "city", .text "YES", .text default, .text "varchar", .text "", .text ""]⟩

theorem holdsType_cityRow (default : String) :
    Catalog.HoldsType (Catalog.cell (cityRow default) 3)
      (Flavor.appendLengths ColumnType.varchar.name 0 0) :=
  ⟨"", "varchar", "", by rfl, by simp, by decide, by simp, by simp⟩

theorem defaults_eq_lower :
    ∃ c d, (Field.mk "city" .text (some "varchar default turin")).columns .snake "" = .ok [c] ∧
      (∀ j, (Catalog.columnOf (cityRow "turin")).run.run j = (.ok d, j)) ∧
        c.default = d.default := by
  have hw : Text.sameLetters "varchar" ColumnType.varchar.name = true := by decide
  have ha : ∀ c ∈ "turin".toList, c.isAlpha = true := by simp
  obtain ⟨c, d, hc, hd, hi⟩ := defaults_eq_iff (l := ⟨0, 0⟩) hw (by decide)
    (fun c hc => Text.isBlank_of_isAlpha (ha c hc)) (holdsType_cityRow "turin") rfl .snake "" "city"
    .text
  exact ⟨c, d, hc, hd, hi.mpr (by decide)⟩

theorem defaults_ne_capital :
    ∃ c d, (Field.mk "city" .text (some "varchar default Turin")).columns .snake "" = .ok [c] ∧
      Catalog.readColumn (cityRow "Turin") = .ok d ∧
        c.default = some "'turin'" ∧ d.default = some "'Turin'" := by
  have hw : Text.sameLetters "varchar" ColumnType.varchar.name = true := by decide
  have ha : ∀ c ∈ "Turin".toList, c.isAlpha = true := by simp
  obtain ⟨c, hc, -, hcd⟩ := Field.columns_default hw (by decide)
    (fun c hc => Text.isBlank_of_isAlpha (ha c hc)) .snake "" "city" .text
  obtain ⟨d, hd, -, hdd⟩ :=
    Catalog.readColumn_default (l := ⟨0, 0⟩) (holdsType_cityRow "Turin") rfl
  exact ⟨c, d, hc, hd, hcd.trans (by decide), hdd.trans (by decide)⟩

end RecordSql
