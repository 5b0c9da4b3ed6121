import RecordSql.Proofs.Record.Phrases
import RecordSql.Record.Declaration

/-! # Fields that their declaration extends

A declaration takes a field for a record if the word that extends fields is anywhere in its
annotation, and the annotation extends the field if that word is a phrase by itself. The two agree
unless the word stands in the annotation only as a default.
-/

namespace RecordSql

/-- The word that extends a field stands in an annotation, but only as a default. -/
def Directives.ExtendsByDefault (text : String) : Prop :=
  ∃ ps, Phrase.Spelled (Text.words (Text.toLower text)) ps ∧ .default "extends" ∈ ps ∧
    .word .extends ∉ ps

namespace Directives

variable {field text : String} {a : Directives} {words : List String} {ps : List Phrase}

theorem extends_mem_iff (h : Phrase.Spelled words ps) :
    "extends" ∈ words ↔ .word .extends ∈ ps ∨ .default "extends" ∈ ps := by
  induction h with
  | nil => simp
  | @word word w words ps hc hn hd h ih =>
    have hw : "extends" = word ↔ .extends = w := by
      constructor
      · rintro rfl
        exact Except.ok.inj (hc "")
      · rintro rfl
        exact ((Word.eq_of_classify (hc "")).2.2 rfl).symm
    simp [ih, hw, or_assoc]
  | notNull h ih => simp [ih]
  | default literal h ih => simp [ih, or_left_comm]

theorem embed_foldl (ps : List Phrase) :
    (ps.foldl addPhrase empty).embed = true ↔ .word .extends ∈ ps := by
  have he : empty.embed = true ↔ False := by decide
  rw [flag_foldl (fun a p => (flags_addPhrase a p).2), he, false_or]

theorem foldl_of_spelled (h : read field text = .ok a)
    (hs : Phrase.Spelled (Text.words (Text.toLower text)) ps) : ps.foldl addPhrase empty = a := by
  have hr : read field text = .ok (ps.foldl addPhrase empty) := read_eq_ok_iff.mpr ⟨ps, hs, rfl⟩
  exact Except.ok.inj (hr.symm.trans h)

/-- Whether an annotation has the word that extends a field is whether it does extend the field, unless
the word is only a default. -/
theorem extends_agrees_iff (h : read field text = .ok a) :
    ("extends" ∈ Text.words (Text.toLower text) ↔ a.embed = true) ↔ ¬ ExtendsByDefault text := by
  obtain ⟨ps, hs, he⟩ := read_eq_ok_iff.mp h
  have hd : ExtendsByDefault text ↔ .default "extends" ∈ ps ∧ ¬ a.embed = true := by
    constructor
    · rintro ⟨qs, hq, hm, hn⟩
      have hx : "extends" ∈ Text.words (Text.toLower text) := (extends_mem_iff hq).mpr (.inr hm)
      rw [← embed_foldl, foldl_of_spelled h hq] at hn
      rw [extends_mem_iff hs, ← embed_foldl, he] at hx
      exact ⟨hx.resolve_left hn, hn⟩
    · rintro ⟨hm, hn⟩
      refine ⟨ps, hs, hm, ?_⟩
      rwa [← embed_foldl, he]
  rw [hd, extends_mem_iff hs, ← embed_foldl, he, or_iff_left_iff_imp, not_and_not_right]

end Directives

namespace DeclaredField

variable {f : DeclaredField} {field name text : String} {a : Directives}

theorem findLine_filter (found : Option String) (as : List Attribute) :
    findLine found (as.filter (·.path = "orm")) = findLine found as := by
  induction as generalizing found with
  | nil => rfl
  | cons a as ih =>
    obtain ⟨path, literal⟩ := a
    by_cases hp : path = "orm"
    · rw [List.filter_cons_of_pos (by simpa using hp)]
      cases literal with
      | none => simp [findLine, hp]
      | some line => cases found <;> simp [findLine, hp, ih]
    · rw [List.filter_cons_of_neg (by simpa using hp), ih]
      simp [findLine, hp]

theorem read_of_annotated (hn : f.name = some name)
    (ha : f.attributes.filter (·.path = "orm") = [⟨"orm", some text⟩]) :
    f.read = .ok ⟨plainName name, some text,
      if "extends" ∈ Text.words (Text.toLower text) then .record f.type.required
      else .plain f.type.kind⟩ := by
  have hl : findLine none f.attributes = .ok (some text) := by
    rw [← findLine_filter, ha]
    rfl
  rw [read, hn]
  dsimp only
  rw [hl]
  simp [extends?, bind, Except.bind, pure, Except.pure]

/-- A field with an annotation that is read is taken for a record exactly if the annotation extends it,
unless the annotation has the word for that only as a default. -/
theorem record_iff_embed_iff (hn : f.name = some name)
    (ha : f.attributes.filter (·.path = "orm") = [⟨"orm", some text⟩])
    (hr : Directives.read field text = .ok a) :
    ∃ m, f.read = .ok m ∧
      (((∃ t, m.kind = .record t) ↔ a.embed = true) ↔ ¬ Directives.ExtendsByDefault text) := by
  refine ⟨_, read_of_annotated hn ha, ?_⟩
  rw [← Directives.extends_agrees_iff hr]
  by_cases hx : "extends" ∈ Text.words (Text.toLower text) <;> simp [hx]

def placeField (text type : String) : DeclaredField :=
  ⟨some "place", [⟨"orm", some text⟩], .path [.mk type .none]⟩

theorem record_iff_embed_place :
    ((placeField "default extends EXTENDS" "City").attributes.filter (·.path = "orm") =
        [⟨"orm", some "default extends EXTENDS"⟩] ∧
      Directives.read "place" "default extends EXTENDS" =
        .ok { Directives.empty with embed := true, default := some "extends" }) ∧
    ∃ m, (placeField "default extends EXTENDS" "City").read = .ok m ∧ ∃ t, m.kind = .record t := by
  have ha : (placeField "default extends EXTENDS" "City").attributes.filter (·.path = "orm") =
      [⟨"orm", some "default extends EXTENDS"⟩] := rfl
  have hr : Directives.read "place" "default extends EXTENDS" =
      .ok { Directives.empty with embed := true, default := some "extends" } := by decide +kernel
  obtain ⟨m, hm, hi⟩ := record_iff_embed_iff rfl ha hr
  have hd : ¬ Directives.ExtendsByDefault "default extends EXTENDS" := by
    rintro ⟨ps, hs, -, hn⟩
    rw [← Directives.embed_foldl, Directives.foldl_of_spelled hr hs] at hn
    exact hn rfl
  exact ⟨⟨ha, hr⟩, m, hm, (hi.mpr hd).mpr rfl⟩

/-- A text whose default is the word for extended fields is taken for a record. -/
theorem text_taken_for_record :
    ∃ m a, (placeField "default extends" "String").read = .ok m ∧
      Directives.read "place" "default extends" = .ok a ∧
      ¬ ((∃ t, m.kind = .record t) ↔ a.embed = true) := by
  refine ⟨⟨"place", some "default extends", .record (.path [.mk "String" .none])⟩,
    { Directives.empty with default := some "extends" }, rfl, by decide +kernel, fun h => ?_⟩
  cases h.mp ⟨_, rfl⟩

end DeclaredField

end RecordSql
