import RecordSql.Text.Separated

/-! # Separated text as a function of its parts

The writing of separated values compares sizes of the text so far. What it adds depends only on what
the values write: a separator follows each part that is not empty, unless it is the last one. So the
parts that are not empty stand with a separator between any two of them, and one more separator is
left at the end when the last of several parts is empty.
-/

namespace RecordSql.Text

/-- The text of parts with a separator behind each part that is neither empty nor the last one. -/
def separated (separator : String) : List String → String
  | [] => ""
  | [part] => part
  | part :: next :: rest =>
    part ++ (if part = "" then "" else separator) ++ separated separator (next :: rest)

variable {α : Type} {write : String → α → String} {render : α → String} {separator : String}

theorem size_lt_append_iff (out part : String) :
    out.utf8ByteSize < (out ++ part).utf8ByteSize ↔ part ≠ "" := by
  rw [String.utf8ByteSize_append, Ne, ← String.utf8ByteSize_eq_zero_iff]
  omega

theorem appendSeparatedFrom_eq (separator : String) (hw : ∀ out a, write out a = out ++ render a)
    (out part : String) (value : α) (rest : List α) :
    appendSeparatedFrom write separator out.utf8ByteSize (out ++ part) (value :: rest) =
      out ++ part ++ (if part = "" then "" else separator) ++
        separated separator ((value :: rest).map render) := by
  induction rest generalizing out part value with
  | nil =>
    simp only [appendSeparatedFrom, size_lt_append_iff, ite_not, hw, List.map_cons, List.map_nil,
      separated]
    split <;> simp
  | cons next rest ih =>
    rw [appendSeparatedFrom]
    simp only [size_lt_append_iff, ite_not, hw, ih]
    simp only [List.map_cons, separated]
    split <;> simp [String.append_assoc]

theorem appendSeparated_eq (hw : ∀ out a, write out a = out ++ render a) (out : String)
    (values : List α) :
    appendSeparated out values write separator =
      out ++ separated separator (values.map render) := by
  cases values with
  | nil => simp [appendSeparated, appendSeparatedFrom, separated]
  | cons value rest =>
    simpa [appendSeparated] using appendSeparatedFrom_eq separator hw out "" value rest

/-! ## Empty parts -/

/-- Whether a separator is left at the end: the last part is empty, but not every part is. -/
def LeavesSeparator (parts : List String) : Prop :=
  parts.getLast? = some "" ∧ ∃ part ∈ parts, part ≠ ""

instance (parts : List String) : Decidable (LeavesSeparator parts) :=
  inferInstanceAs (Decidable (_ ∧ _))

variable {part : String} {parts : List String}

theorem leavesSeparator_cons_empty : LeavesSeparator ("" :: parts) ↔ LeavesSeparator parts := by
  cases parts <;> simp [LeavesSeparator]

theorem leavesSeparator_iff (hp : part ∈ parts) (h : part ≠ "") :
    LeavesSeparator parts ↔ parts.getLast? = some "" :=
  and_iff_left ⟨part, hp, h⟩

theorem separated_eq_append (separator : String) (parts : List String) :
    separated separator parts =
      separator.intercalate (parts.filter (· ≠ "")) ++
        if LeavesSeparator parts then separator else "" := by
  fun_induction separated separator parts with
  | case1 => simp [LeavesSeparator]
  | case2 part => by_cases h : part = "" <;> simp [LeavesSeparator, h]
  | case3 part next rest ih =>
    by_cases h : part = ""
    · subst h
      rw [ih]
      simp [leavesSeparator_cons_empty]
    · have hf : (part :: next :: rest).filter (· ≠ "") =
          part :: (next :: rest).filter (· ≠ "") := by simp [h]
      rw [ih, hf, if_neg h]
      simp only [leavesSeparator_iff List.mem_cons_self h, List.getLast?_cons_cons]
      cases ho : (next :: rest).filter (· ≠ "") with
      | nil =>
        -- the separator behind the part stays, as nothing is written behind it
        have he : ∀ p ∈ next :: rest, p = "" := by simpa using List.filter_eq_nil_iff.mp ho
        have hl : (next :: rest).getLast? = some "" := by
          rw [List.getLast?_eq_some_getLast (List.cons_ne_nil next rest), he _ (List.getLast_mem _)]
        have hn : ¬ LeavesSeparator (next :: rest) := fun ⟨_, p, hp, hne⟩ => hne (he p hp)
        rw [if_neg hn, if_pos hl]
        simp
      | cons other others =>
        have hm : other ∈ (next :: rest).filter (· ≠ "") := ho ▸ List.mem_cons_self
        obtain ⟨hm, hne⟩ := List.mem_filter.mp hm
        simp only [leavesSeparator_iff hm (of_decide_eq_true hne), String.intercalate_cons_cons,
          String.append_assoc]

theorem separated_eq_intercalate (h : "" ∉ parts) :
    separated separator parts = separator.intercalate parts := by
  have hf : parts.filter (· ≠ "") = parts :=
    List.filter_eq_self.mpr fun p hp => by simpa using fun he : p = "" => h (he ▸ hp)
  have hn : ¬ LeavesSeparator parts := fun hl => h (List.mem_of_getLast? hl.1)
  rw [separated_eq_append, hf, if_neg hn, String.append_empty]

theorem appendSeparated_eq_intercalate (hw : ∀ out a, write out a = out ++ render a)
    (hne : ∀ a, render a ≠ "") (out : String) (values : List α) :
    appendSeparated out values write separator =
      out ++ separator.intercalate (values.map render) := by
  rw [appendSeparated_eq hw, separated_eq_intercalate]
  simpa using fun a _ => hne a

/-- The parts that are not empty are written with a separator between any two of them, and then one
more separator if the last part is empty and another one is not. So nothing else is written exactly
if the separator is empty or none is left at the end. -/
theorem appendSeparated_joined_iff (hw : ∀ out a, write out a = out ++ render a)
    (out separator : String) (values : List α) :
    (appendSeparated out values write separator =
      out ++ separator.intercalate ((values.map render).filter (· ≠ "")) ++
        if LeavesSeparator (values.map render) then separator else "") ∧
    (appendSeparated out values write separator =
        out ++ separator.intercalate ((values.map render).filter (· ≠ "")) ↔
      separator = "" ∨ (∀ a ∈ values, render a = "") ∨ ∀ a ∈ values.getLast?, render a ≠ "") := by
  have hl : ¬ LeavesSeparator (values.map render) ↔
      (∀ a ∈ values, render a = "") ∨ ∀ a ∈ values.getLast?, render a ≠ "" := by
    rw [LeavesSeparator, Classical.not_and_iff_not_or_not, or_comm, List.getLast?_map]
    simp
  have he : appendSeparated out values write separator =
      out ++ separator.intercalate ((values.map render).filter (· ≠ "")) ++
        if LeavesSeparator (values.map render) then separator else "" := by
    rw [appendSeparated_eq hw, separated_eq_append, String.append_assoc]
  refine ⟨he, ?_⟩
  rw [he, ← hl]
  split
  · next h => simp [h]
  · next h => simp [h]

theorem appendSeparated_joined_gap :
    appendSeparated "x" ["", "a", "", "b"] (· ++ ·) ", " =
      "x" ++ ", ".intercalate ((["", "a", "", "b"].map id).filter (· ≠ "")) :=
  (appendSeparated_joined_iff (fun _ _ => rfl) "x" ", " ["", "a", "", "b"]).2.mpr
    (.inr (.inr (by simp)))

theorem appendSeparated_dangling :
    appendSeparated "" ["a", ""] (· ++ ·) ", " = "a, " ∧
      "" ++ ", ".intercalate ((["a", ""].map id).filter (· ≠ "")) = "a" := by
  decide

end RecordSql.Text
