import RecordSql.Proofs.Record.Reading

/-! # Fields in their places

A field stands in a record or nested in other fields, and is reached if all of these are extended.
The columns of fields are those of the leaves that are reached, each in its place, provided that no
annotation that is reached is malformed and only records are extended.
-/

namespace RecordSql

namespace Column

variable (n : Naming) (path name : String) (kind : Kind)

theorem ofField_eq : ofField n path name kind = { ofField n "" name kind with field := path } := by
  unfold ofField
  dsimp only
  split <;> rfl

theorem ofDirectives_eq (a : Directives) :
    ofDirectives n path name kind a = { ofDirectives n "" name kind a with field := path } :=
  rfl

end Column

namespace Field

def nested (f : Field) : List Field :=
  match f.kind with
  | .composite fields => fields
  | _ => []

def directives? (f : Field) : Option Directives :=
  match f.line with
  | none => some .empty
  | some text => Directives.read? text

def isExcluded (f : Field) : Bool :=
  f.directives?.any (·.exclude)

def isExtended (f : Field) : Bool :=
  !f.isExcluded && f.directives?.any (·.embed)

def isLeaf (f : Field) : Bool :=
  !f.isExcluded && !f.isExtended

theorem isExcluded_of_isExtended {f : Field} (h : f.isExtended = true) : f.isExcluded = false := by
  simp only [isExtended, Bool.and_eq_true, Bool.not_eq_true'] at h
  exact h.1

theorem isSome_directives?_of_isExtended {f : Field} (h : f.isExtended = true) :
    f.directives?.isSome = true := by
  unfold isExtended at h
  cases hd : f.directives? with
  | none => simp [hd] at h
  | some a => rfl

/-- A field has a well-formed annotation and is a record if it is extended. -/
structure IsSound (f : Field) : Prop where
  wellFormed : f.directives?.isSome = true
  composite : f.isExtended = true → ∃ fields, f.kind = .composite fields

def column (n : Naming) : Field → Column
  | .mk name kind none => Column.ofField n "" name kind
  | .mk name kind (some text) =>
    Column.ofDirectives n "" name kind ((Directives.read? text).getD .empty)

/-- The kind of a field goes into its column by the type of the kind only. -/
theorem column_congr (n : Naming) (name : String) (line : Option String) {k l : Kind}
    (h : ColumnType.ofKind k = .ofKind l) :
    (mk name k line).column n = (mk name l line).column n := by
  cases line <;> simp only [column, Column.ofField, Column.ofDirectives, h]

theorem columns_eq_ok_iff {n : Naming} {outer : String} {f : Field} {cs : List Column} :
    f.columns n outer = .ok cs ↔ f.directives?.isSome = true ∧
      if f.isExcluded then cs = []
      else if f.isExtended then f.kind.columns n (fieldPath outer f.name) = .ok cs
      else cs = [{ f.column n with field := fieldPath outer f.name }] := by
  obtain ⟨name, kind, _ | text⟩ := f
  · rw [columns, Column.ofField_eq]
    simp [isExcluded, isExtended, directives?, line, column, Directives.empty, Field.name, eq_comm]
  · have hr := Directives.toOption_read (fieldPath outer name) text
    rw [columns]
    cases hd : Directives.read (fieldPath outer name) text with
    | error e =>
      rw [hd] at hr
      simp [← hr, directives?, line, Except.toOption, bind, Except.bind]
    | ok a =>
      rw [hd] at hr
      cases hx : a.exclude <;> cases he : a.embed <;>
        simp [← hr, hx, he, Column.ofDirectives_eq n (fieldPath outer name), directives?,
          isExcluded, isExtended, line, column, Field.name, Field.kind, Except.toOption, bind,
          Except.bind, eq_comm]

end Field

/-- A field and the fields that it is nested in, the outermost first. -/
structure Place where
  outer : List Field
  field : Field

namespace Place

def inside (f : Field) (p : Place) : Place :=
  ⟨f :: p.outer, p.field⟩

/-- Decide whether the fields around a field are all extended. -/
def isReached (p : Place) : Bool :=
  p.outer.all Field.isExtended

def path (p : Place) : String :=
  ".".intercalate ((p.outer ++ [p.field]).map Field.name)

/-- The path of a field inside of an outer path. -/
def pathIn (outer : String) (p : Place) : String :=
  (p.outer ++ [p.field]).foldl (fun path f => fieldPath path f.name) outer

end Place

mutual

def Field.places : Field → List Place
  | .mk name kind line => ⟨[], .mk name kind line⟩ :: kind.places.map (.inside (.mk name kind line))

def Kind.places : Kind → List Place
  | .composite fields => fieldPlaces fields
  | _ => []

def fieldPlaces : List Field → List Place
  | [] => []
  | f :: fs => f.places ++ fieldPlaces fs

end

def reached (fs : List Field) : List Place :=
  (fieldPlaces fs).filter Place.isReached

def leaves (fs : List Field) : List Place :=
  (reached fs).filter (·.field.isLeaf)

def AllSound (fs : List Field) : Prop :=
  ∀ p ∈ reached fs, p.field.IsSound

/-- The columns of the leaves of fields inside of an outer path. -/
def leafColumns (n : Naming) (outer : String) (fs : List Field) : List Column :=
  (leaves fs).map fun p => { p.field.column n with field := p.pathIn outer }

theorem fieldPlaces_append (fs gs : List Field) :
    fieldPlaces (fs ++ gs) = fieldPlaces fs ++ fieldPlaces gs := by
  induction fs with
  | nil => rfl
  | cons f fs ih => rw [List.cons_append, fieldPlaces, ih, fieldPlaces, List.append_assoc]

theorem Field.places_eq (f : Field) :
    f.places = ⟨[], f⟩ :: (fieldPlaces f.nested).map (.inside f) := by
  obtain ⟨name, kind, line⟩ := f
  cases kind <;> simp [Field.places, Kind.places, Field.nested, Field.kind, fieldPlaces]

theorem reached_append (fs gs : List Field) : reached (fs ++ gs) = reached fs ++ reached gs := by
  rw [reached, fieldPlaces_append, List.filter_append, reached, reached]

theorem reached_singleton (f : Field) :
    reached [f] = ⟨[], f⟩ :: if f.isExtended then (reached f.nested).map (.inside f) else [] := by
  have hi : Place.isReached ∘ Place.inside f = fun p => f.isExtended && p.isReached := rfl
  have hf : Place.isReached ⟨[], f⟩ = true := rfl
  rw [reached, fieldPlaces, fieldPlaces, List.append_nil, f.places_eq, List.filter_cons_of_pos hf,
    List.filter_map, hi, reached]
  cases f.isExtended <;> simp

theorem allSound_append_iff (fs gs : List Field) :
    AllSound (fs ++ gs) ↔ AllSound fs ∧ AllSound gs := by
  simp only [AllSound, reached_append, List.mem_append, or_imp, forall_and]

theorem allSound_cons_iff (f : Field) (fs : List Field) :
    AllSound (f :: fs) ↔ AllSound [f] ∧ AllSound fs :=
  allSound_append_iff [f] fs

theorem allSound_singleton_iff (f : Field) :
    AllSound [f] ↔ f.IsSound ∧ (f.isExtended = true → AllSound f.nested) := by
  unfold AllSound
  rw [reached_singleton]
  cases f.isExtended <;> simp [Place.inside]

theorem leafColumns_append (n : Naming) (outer : String) (fs gs : List Field) :
    leafColumns n outer (fs ++ gs) = leafColumns n outer fs ++ leafColumns n outer gs := by
  simp [leafColumns, leaves, reached_append]

theorem leafColumns_cons (n : Naming) (outer : String) (f : Field) (fs : List Field) :
    leafColumns n outer (f :: fs) = leafColumns n outer [f] ++ leafColumns n outer fs :=
  leafColumns_append n outer [f] fs

theorem leafColumns_singleton (n : Naming) (outer : String) (f : Field) :
    leafColumns n outer [f] =
      if f.isExcluded then []
      else if f.isExtended then leafColumns n (fieldPath outer f.name) f.nested
      else [{ f.column n with field := fieldPath outer f.name }] := by
  unfold leafColumns leaves
  rw [reached_singleton]
  cases he : f.isExtended with
  | true =>
    simp [he, f.isExcluded_of_isExtended he, Field.isLeaf, List.filter_map, Place.inside,
      Place.pathIn, Function.comp_def]
  | false => cases hx : f.isExcluded <;> simp [hx, he, Field.isLeaf, Place.pathIn]

mutual

theorem Field.columns_eq_ok_iff_leaves (n : Naming) :
    ∀ (f : Field) (outer : String) (cs : List Column),
      f.columns n outer = .ok cs ↔ AllSound [f] ∧ leafColumns n outer [f] = cs
  | .mk name kind line, outer, cs => by
    have hk := kind.columns_eq_ok_iff_leaves n (fieldPath outer name) cs
    rw [Field.columns_eq_ok_iff, allSound_singleton_iff, leafColumns_singleton]
    cases he : (Field.mk name kind line).isExtended with
    | true =>
      simp only [Field.isExcluded_of_isExtended he, Bool.false_eq_true, if_false, if_true,
        forall_const]
      constructor
      · rintro ⟨hw, hc⟩
        obtain ⟨fields, rfl, hs, hc⟩ := hk.mp hc
        exact ⟨⟨⟨hw, fun _ => ⟨fields, rfl⟩⟩, hs⟩, hc⟩
      · rintro ⟨⟨⟨hw, hf⟩, hs⟩, hc⟩
        obtain ⟨fields, rfl⟩ := hf he
        exact ⟨hw, hk.mpr ⟨fields, rfl, hs, hc⟩⟩
    | false =>
      -- what is nested in the field is not reached, whatever the field is made of
      have hs : (Field.mk name kind line).IsSound ↔
          (Field.mk name kind line).directives?.isSome = true :=
        ⟨(·.wellFormed), fun hw => ⟨hw, fun h => absurd (he.symm.trans h) Bool.false_ne_true⟩⟩
      simp only [hs, Bool.false_eq_true, if_false, false_implies, and_true]
      split <;> simp only [eq_comm]

theorem Kind.columns_eq_ok_iff_leaves (n : Naming) :
    ∀ (kind : Kind) (path : String) (cs : List Column),
      kind.columns n path = .ok cs ↔
        ∃ fields, kind = .composite fields ∧ AllSound fields ∧ leafColumns n path fields = cs
  | .composite fields, path, cs => by
    simpa [Kind.columns] using fieldColumns_eq_ok_iff n fields path cs
  | .int, _, _ | .bigInt, _, _ | .float, _, _ | .double, _, _ | .bool, _, _ | .text, _, _
  | .bytes, _, _ | .time, _, _ | .other, _, _ => by
    simp [Kind.columns]

/-- Fields give the columns of their leaves, if all that is reached is sound. -/
theorem fieldColumns_eq_ok_iff (n : Naming) :
    ∀ (fs : List Field) (outer : String) (cs : List Column),
      fieldColumns n outer fs = .ok cs ↔ AllSound fs ∧ leafColumns n outer fs = cs
  | [], _, _ => by simp [fieldColumns, AllSound, leafColumns, leaves, reached, fieldPlaces]
  | f :: fs, outer, cs => by
    have hf := f.columns_eq_ok_iff_leaves n outer
    have hr := fieldColumns_eq_ok_iff n fs outer
    have hb : fieldColumns n outer (f :: fs) = .ok cs ↔ ∃ first rest,
        f.columns n outer = .ok first ∧ fieldColumns n outer fs = .ok rest ∧
          first ++ rest = cs := by
      rw [fieldColumns]
      cases f.columns n outer <;> cases fieldColumns n outer fs <;> simp [bind, Except.bind]
    rw [hb, allSound_cons_iff, leafColumns_cons]
    simp only [hf, hr]
    constructor
    · rintro ⟨_, _, ⟨hf, rfl⟩, ⟨hr, rfl⟩, rfl⟩
      exact ⟨⟨hf, hr⟩, rfl⟩
    · rintro ⟨⟨hf, hr⟩, rfl⟩
      exact ⟨_, _, ⟨hf, rfl⟩, ⟨hr, rfl⟩, rfl⟩

end

end RecordSql
