import RecordSql.Proofs.Database.Columns

/-! # Lengths of the catalog

The catalog reports the type of a column with its lengths, if it has any. A column is read with the
lengths that are reported for it, and with none if none are; but a first length of zero is taken for
one that is not given, so that the column keeps the length of its type.
-/

namespace RecordSql

theorem ColumnType.defaultLength_eq_zero_iff (t : ColumnType) :
    t.defaultLength = 0 ↔ t ≠ .varchar := by
  cases t <;> decide

namespace Catalog

/-- A text reports a type in letters of any case, with lengths or without, between blanks; behind
the lengths, or behind a blank, it can have modifiers. -/
inductive Reports (t : ColumnType) : Option Lengths → String → Prop
  | bare {before name after : List Char} (hb : ∀ c ∈ before, Text.isBlank c = true)
    (hn : t.IsCalled (String.ofList name))
    (ha : ∀ c ∈ after.head?, Text.isBlank c = true) (hp : '(' ∉ after) :
    Reports t none (String.ofList (before ++ (name ++ after)))
  | sized {l : Lengths} {before name listed : List Char}
    (hb : ∀ c ∈ before, Text.isBlank c = true)
    (hn : t.IsCalled (String.ofList name)) (hl : l.Listed listed)
    (after : List Char) :
    Reports t (some l) (String.ofList (before ++ (name ++ '(' :: (listed ++ ')' :: after))))

variable {t : ColumnType} {reported : Option Lengths} {r : Row}

/-- The lengths of a column of a type for which lengths are reported, or none are. -/
def keptLengths (t : ColumnType) : Option Lengths → Lengths
  | none => ⟨0, 0⟩
  | some l => if l.first = 0 then ⟨t.defaultLength, 0⟩ else l

theorem keptLengths_zero {l : Lengths} (h : l.first = 0) :
    keptLengths t (some l) = ⟨t.defaultLength, 0⟩ :=
  if_pos h

theorem keptLengths_eq_iff : keptLengths t reported = reported.getD ⟨0, 0⟩ ↔
    ∀ l ∈ reported, l.first ≠ 0 ∨ l.second = 0 ∧ t ≠ .varchar := by
  rcases reported with - | ⟨first, second⟩
  · simp [keptLengths]
  · by_cases hf : first = 0
    · rw [keptLengths_zero hf, ← t.defaultLength_eq_zero_iff]
      simp [hf, @eq_comm _ 0 second, and_comm]
    · simp [keptLengths, hf]

theorem setLengths_ofType {name : String} (l : Lengths) :
    (Column.ofType name t).setLengths l = { Column.ofType name t with
      length := (keptLengths t (some l)).first
      secondLength := (keptLengths t (some l)).second } := by
  by_cases hf : l.first = 0
  · simp [keptLengths_zero hf, Column.setLengths, hf, Column.ofType]
  · simp [keptLengths, Column.setLengths, hf, UInt32.pos_iff_ne_zero.mpr hf]

theorem trim_sized {before name : List Char} (hb : ∀ c ∈ before, Text.isBlank c = true)
    (hn : t.IsCalled (String.ofList name)) (listed after : List Char) :
    Text.trim (String.ofList (before ++ (name ++ '(' :: (listed ++ ')' :: after)))) =
      String.ofList (name ++ '(' :: (listed ++ ')' :: Text.dropEnd Text.isBlank after)) := by
  have hfirst : ∀ c ∈ (name ++ '(' :: (listed ++ [')'])).head?, Text.isBlank c = false := by
    obtain ⟨d, name, rfl⟩ := List.exists_cons_of_ne_nil (called_ne_nil hn)
    intro c hc
    obtain rfl : d = c := by simpa using hc
    exact isBlank_of_mem_called hn List.mem_cons_self
  have hlast : ∀ c ∈ (name ++ '(' :: (listed ++ [')'])).getLast?, Text.isBlank c = false := by
    have hs : name ++ '(' :: (listed ++ [')']) = (name ++ '(' :: listed) ++ [')'] := by simp
    intro c hc
    rw [hs, List.getLast?_concat] at hc
    obtain rfl : ')' = c := by simpa using hc
    exact Text.isBlank_of_visible (by decide)
  have ht := Text.trim_append_of_ends hb (by simp) hfirst hlast after
  simpa using ht

theorem Reports.exists_read? {text : String} (h : Reports t reported text) :
    ∃ token, TypeToken.read? (Text.trim text) = some token ∧
      ColumnType.lookup? (typeName token.name) = some t ∧
      ∀ name, reportedLengths (Column.ofType name t) token.argument =
        some { Column.ofType name t with
          length := (keptLengths t reported).first
          secondLength := (keptLengths t reported).second } := by
  cases h with
  | @bare before name after hb hn ha hp =>
    have hp' : '(' ∉ name ++ Text.dropEnd Text.isBlank after := by
      rw [List.mem_append, not_or]
      exact ⟨fun hc => absurd (isAlpha_of_mem_called hn hc) (by decide),
        fun hc => hp ((Text.dropEnd_prefix _ _).subset hc)⟩
    rw [Text.trim_append hb (fun _ => isBlank_of_mem_called hn) (called_ne_nil hn) after]
    refine ⟨_, TypeToken.read?_of_not_mem hp', ?_, fun _ => rfl⟩
    exact lookup?_typeName hn fun c hc => ha c (Text.mem_head?_of_dropEnd hc)
  | @sized l before name listed hb hn hl after =>
    have hopen : '(' ∉ name := fun hc => absurd (isAlpha_of_mem_called hn hc) (by decide)
    have hclose : ')' ∉ listed := by
      have hblank : Text.isBlank ')' = false := Text.isBlank_of_visible (by decide)
      intro hc
      rcases hl.of_mem hc with h | h
      · rw [hblank] at h
        cases h
      · exact absurd h (by decide)
    have hb' : ∀ c ∈ ([] : List Char).head?, Text.isBlank c = true := by simp
    rw [trim_sized hb hn]
    refine ⟨_, TypeToken.read?_append hopen hclose _, ?_, fun _ => ?_⟩
    · simpa using lookup?_typeName hn hb'
    · rw [reportedLengths, hl.read?_eq]
      exact congrArg some (setLengths_ofType l)

theorem Reports.readColumn (h : Reports t reported (cell r 3)) :
    ∃ c, readColumn r = .ok c ∧ c.type = t ∧
      (⟨c.length, c.secondLength⟩ : Lengths) = keptLengths t reported := by
  obtain ⟨token, ht, hn, hl⟩ := h.exists_read?
  exact ⟨_, readColumn_eq_ok_iff.mpr ⟨token, t, _, ht, hn, hl _, rfl⟩, rfl, rfl⟩

end Catalog

/-- A column has the lengths that the catalog reports, and none without any, exactly if the first of
them is not zero, or the second is zero and the type has no length of its own. Where the first is
zero, the column has the lengths of its type. -/
theorem lengths_reported_iff {t : ColumnType} {reported : Option Lengths} {r : Row}
    (h : Catalog.Reports t reported (Catalog.cell r 3)) :
    ∃ c, (∀ j, (Catalog.columnOf r).run.run j = (.ok c, j)) ∧ c.type = t ∧
      ((⟨c.length, c.secondLength⟩ : Lengths) = reported.getD ⟨0, 0⟩ ↔
        ∀ l ∈ reported, l.first ≠ 0 ∨ l.second = 0 ∧ t ≠ .varchar) ∧
      ∀ l ∈ reported, l.first = 0 → c.length = t.defaultLength ∧ c.secondLength = 0 := by
  obtain ⟨c, hc, ht, hl⟩ := h.readColumn
  refine ⟨c, fun j => ?_, ht, ?_, ?_⟩
  · rw [Catalog.columnOf, hc]
    rfl
  · rw [hl, Catalog.keptLengths_eq_iff]
  · intro l hm hf
    obtain rfl : reported = some l := hm
    rw [Catalog.keptLengths_zero hf] at hl
    exact Lengths.mk.inj hl

def sizedRow (type : String) : Row :=
  ⟨[], [.text "c", .text "YES", .null, .text type, .text "", .text ""]⟩

theorem lengths_reported_decimal :
    ∃ c, (∀ j, (Catalog.columnOf (sizedRow "Decimal( 10 ,2) unsigned")).run.run j = (.ok c, j)) ∧
      c.type = .decimal ∧ (⟨c.length, c.secondLength⟩ : Lengths) = ⟨10, 2⟩ := by
  have hb : Text.isBlank ' ' = true := by decide
  have hf : Number.Spaced " 10 ".toList (10 : UInt32).toNat :=
    ⟨[' '], "10".toList, [' '], by decide, Number.numeral_repr 10, by simp [hb], by simp [hb]⟩
  have hs : Number.Spaced "2".toList (2 : UInt32).toNat := (Number.numeral_repr 2).spaced
  have hc : ColumnType.decimal.IsCalled (String.ofList "Decimal".toList) := .inl (by decide)
  have h : Catalog.Reports .decimal (some ⟨10, 2⟩)
      (Catalog.cell (sizedRow "Decimal( 10 ,2) unsigned") 3) :=
    .sized (List.forall_mem_nil _) hc (.two hf hs) " unsigned".toList
  obtain ⟨c, hr, ht, hl, -⟩ := lengths_reported_iff h
  refine ⟨c, hr, ht, hl.mpr ?_⟩
  simp

theorem length_replaced :
    Catalog.Reports .varchar (some ⟨0, 0⟩) (Catalog.cell (sizedRow "varchar(0)") 3) ∧
      ∀ j, (Catalog.columnOf (sizedRow "varchar(0)")).run.run j =
        (.ok { Column.ofType "c" .varchar with length := 255, secondLength := 0 }, j) := by
  have hc : ColumnType.varchar.IsCalled (String.ofList "varchar".toList) := .inl (by decide)
  have hl : Lengths.Listed ⟨0, 0⟩ "0".toList := .one (Number.numeral_repr 0).spaced
  refine ⟨.sized (List.forall_mem_nil _) hc hl [], fun j => ?_⟩
  have hr : Catalog.readColumn (sizedRow "varchar(0)") =
      .ok { Column.ofType "c" .varchar with length := 255, secondLength := 0 } := by
    decide +kernel
  rw [Catalog.columnOf, hr]
  rfl

end RecordSql
