import RecordSql.Record.Declaration

/-! # Wrappers around declared types

The kind of a field is that of the type inside of all wrappers, and the record of an extended field is
that inside of its optional wrappers. So wrappers that are looked through make no difference to what
a declaration says, except that an extended field may only be wrapped as optional.
-/

namespace RecordSql

/-- What a type is put into: a name of a path with the type as the first one among its arguments, a
reference, or parentheses that are written or invisible. -/
inductive Wrapper
  | named (before : List Segment) (name : String) (mem : name ∈ DeclaredType.wrappers)
      (front : List Argument) (noType : Argument.firstType? front = none) (rest : List Argument)
  | reference
  | paren
  | group

namespace Wrapper

def around (t : DeclaredType) : Wrapper → DeclaredType
  | named before name _ front _ rest =>
    .path (before ++ [.mk name (.angle (front ++ .type t :: rest))])
  | reference => .reference t
  | paren => .paren t
  | group => .group t

def optional : Wrapper :=
  named [] "Option" (by decide) [] rfl []

def IsOptional : Wrapper → Prop
  | named _ name _ _ _ _ => name = "Option"
  | _ => False

end Wrapper

def DeclaredType.wrap (ws : List Wrapper) (t : DeclaredType) : DeclaredType :=
  ws.foldr (fun w t => w.around t) t

/-! ## Looking into a wrapper -/

theorem Argument.firstType?_append {front : List Argument} (h : firstType? front = none)
    (t : DeclaredType) (rest : List Argument) :
    firstType? (front ++ .type t :: rest) = some t := by
  induction front with
  | nil => rfl
  | cons a front ih =>
    cases a with
    | type t => cases h
    | lifetime name => exact ih h
    | other text => exact ih h

theorem Argument.firstKind_eq (as : List Argument) :
    firstKind as = ((firstType? as).map DeclaredType.kind).getD .other := by
  induction as with
  | nil => rfl
  | cons a as ih =>
    cases a with
    | type t => rfl
    | lifetime name => exact ih
    | other text => exact ih

theorem Argument.firstRequired?_eq (as : List Argument) :
    firstRequired? as = (firstType? as).map DeclaredType.required := by
  induction as with
  | nil => rfl
  | cons a as ih =>
    cases a with
    | type t => rfl
    | lifetime name => exact ih
    | other text => exact ih

theorem Segment.lastKind_eq (ss : List Segment) :
    lastKind ss = (ss.getLast?.map Segment.kind).getD .other := by
  induction ss with
  | nil => rfl
  | cons first ss ih =>
    cases ss with
    | nil => rfl
    | cons second ss => simp [lastKind, ih]

theorem Segment.lastRequired?_eq (ss : List Segment) :
    lastRequired? ss = ss.getLast?.bind Segment.required? := by
  induction ss with
  | nil => rfl
  | cons first ss ih =>
    cases ss with
    | nil => rfl
    | cons second ss => simp [lastRequired?, ih]

/-! ## Wrapped types -/

namespace DeclaredType

theorem kind_around (w : Wrapper) (t : DeclaredType) : (w.around t).kind = t.kind := by
  cases w with
  | named before name mem front noType rest =>
    rw [Wrapper.around, kind, Segment.lastKind_eq, List.getLast?_concat, Option.map_some,
      Option.getD_some, Segment.kind, if_pos mem, Arguments.kind, Argument.firstKind_eq,
      Argument.firstType?_append noType]
    rfl
  | reference => rfl
  | paren => rfl
  | group => rfl

theorem kind_wrap (ws : List Wrapper) (t : DeclaredType) : (wrap ws t).kind = t.kind := by
  induction ws with
  | nil => rfl
  | cons w ws ih => exact (kind_around w (wrap ws t)).trans ih

theorem required_around {w : Wrapper} (h : w.IsOptional) (t : DeclaredType) :
    (w.around t).required = t.required := by
  cases w with
  | named before name mem front noType rest =>
    have hn : name = "Option" := h
    rw [Wrapper.around, required, Segment.lastRequired?_eq, List.getLast?_concat, Option.bind_some,
      Segment.required?, if_pos hn, Arguments.required?, Argument.firstRequired?_eq,
      Argument.firstType?_append noType]
    rfl
  | reference | paren | group => cases h

theorem required_wrap {ws : List Wrapper} (h : ∀ w ∈ ws, w.IsOptional) (t : DeclaredType) :
    (wrap ws t).required = t.required := by
  induction ws with
  | nil => rfl
  | cons w ws ih =>
    have hw : (wrap (w :: ws) t).required = (wrap ws t).required :=
      required_around (h w List.mem_cons_self) (wrap ws t)
    rw [hw, ih fun v hv => h v (List.mem_cons_of_mem w hv)]

/-- A reference is no optional wrapper, and stays around the record of an extended field. -/
example (t : DeclaredType) : (Wrapper.reference.around t).required = .reference t := rfl

end DeclaredType

/-! ## Wrapped fields -/

namespace DeclaredField

def wrap (ws : List Wrapper) (f : DeclaredField) : DeclaredField :=
  { f with type := f.type.wrap ws }

/-- The type of a field goes into what it declares as its kind only, or as its record if it is
extended. -/
theorem read_congr {f : DeclaredField} {u : DeclaredType} (hr : ∀ line,
    findLine none f.attributes = .ok line →
      if extends? line then u.required = f.type.required else u.kind = f.type.kind) :
    { f with type := u }.read = f.read := by
  unfold read
  cases f.name with
  | none => rfl
  | some name =>
    cases hl : findLine none f.attributes with
    | error e => rfl
    | ok line =>
      have hr := hr line hl
      dsimp only [bind, Except.bind]
      split at hr
      · next he => rw [if_pos he, if_pos he, hr]
      · next he => rw [if_neg he, if_neg he, hr]

/-- A field declares the same if its type is optional, however often and in whatever form, and the
same in wrappers of all kinds if its annotation has no word that extends it. -/
theorem read_wrap {f : DeclaredField} {ws : List Wrapper}
    (h : (∀ w ∈ ws, w.IsOptional) ∨
      ∀ text, findLine none f.attributes = .ok (some text) →
        "extends" ∉ Text.words (Text.toLower text)) :
    (f.wrap ws).read = f.read := by
  refine read_congr fun line hl => ?_
  split
  · next he =>
    rcases h with h | h
    · exact DeclaredType.required_wrap h f.type
    · cases line with
      | none => cases he
      | some text => exact absurd (by simpa [extends?] using he) (h text hl)
  · exact DeclaredType.kind_wrap ws f.type

def noteField : DeclaredField :=
  ⟨some "note", [⟨"orm", some "-> text"⟩], .path [.mk "str" .none]⟩

def addressField : DeclaredField :=
  ⟨some "i", [⟨"orm", some "EXTENDS pk"⟩], .path [.mk "Address" .none]⟩

theorem read_wrap_note :
    (∀ text, findLine none noteField.attributes = .ok (some text) →
        "extends" ∉ Text.words (Text.toLower text)) ∧
      (noteField.wrap [.optional, .reference,
        .named [.mk "borrow" .none] "Cow" (by decide) [.lifetime "a"] rfl []]).read =
        .ok ⟨"note", some "-> text", .plain .text⟩ ∧
      (∀ w ∈ [Wrapper.optional, .optional], w.IsOptional) ∧
      (addressField.wrap [.optional, .optional]).read =
        .ok ⟨"i", some "EXTENDS pk", .record (.path [.mk "Address" .none])⟩ := by
  have hn : ∀ text, findLine none noteField.attributes = .ok (some text) →
      "extends" ∉ Text.words (Text.toLower text) := by
    rintro text ⟨⟩
    decide +kernel
  have ho : ∀ w ∈ [Wrapper.optional, .optional], w.IsOptional := by
    simp [Wrapper.optional, Wrapper.IsOptional]
  refine ⟨hn, ?_, ho, ?_⟩
  · rw [read_wrap (.inr hn)]
    rfl
  · rw [read_wrap (.inl ho)]
    rfl

end DeclaredField

end RecordSql
