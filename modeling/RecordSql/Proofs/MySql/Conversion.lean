import Mathlib.Tactic.Common
import RecordSql.MySql.Value

/-! # Values sent and read back

A value sent to the server is read back as it is kept there: a truth value as a number, well-formed
bytes as text, and a timestamp without what is smaller than a microsecond. What the server means by
anything but a span of time or a number of 32 bits is sent back as it came.
-/

namespace RecordSql

theorem Text.ofUtf8?_eq_some_iff {b : List UInt8} {s : String} :
    ofUtf8? b = some s ↔ utf8 s = b := by
  unfold ofUtf8? String.fromUTF8?
  constructor
  · intro h
    split at h
    · obtain rfl := Option.some.inj h
      rfl
    · cases h
  · rintro rfl
    exact dif_pos s.isValidUTF8

theorem Text.ofUtf8?_utf8 (s : String) : ofUtf8? (utf8 s) = some s :=
  ofUtf8?_eq_some_iff.mpr rfl

theorem Text.lossy_utf8 (s : String) : lossy (utf8 s) = s := by
  rw [lossy, ofUtf8?_utf8]

theorem Date.of?_eq_some_iff {year : Int} {month day : Nat} {d : Date} :
    Date.of? year month day = some d ↔ d.year = year ∧ d.month = month ∧ d.day = day := by
  unfold Date.of?
  constructor
  · intro h
    split_ifs at h
    obtain rfl := Option.some.inj h
    exact ⟨rfl, rfl, rfl⟩
  · rintro ⟨rfl, rfl, rfl⟩
    rw [dif_pos d.year_mem, dif_pos d.month_mem, dif_pos d.day_mem]

theorem TimeOfDay.of?_eq_some_iff {hour minute second nanosecond : Nat} {t : TimeOfDay} :
    TimeOfDay.of? hour minute second nanosecond = some t ↔
      t.hour = hour ∧ t.minute = minute ∧ t.second = second ∧ t.nanosecond = nanosecond := by
  unfold TimeOfDay.of?
  constructor
  · intro h
    split_ifs at h
    obtain rfl := Option.some.inj h
    exact ⟨rfl, rfl, rfl, rfl⟩
  · rintro ⟨rfl, rfl, rfl, rfl⟩
    rw [dif_pos t.hour_lt, dif_pos t.minute_lt, dif_pos t.second_lt, dif_pos t.nanosecond_lt]

def Timestamp.truncated (t : Timestamp) : Timestamp :=
  { t with time := { t.time with
    nanosecond := t.time.nanosecond / 1000 * 1000
    nanosecond_lt := Nat.lt_of_le_of_lt (Nat.div_mul_le_self ..) t.time.nanosecond_lt } }

/-- A value as the server keeps it. -/
inductive Value.Kept : Value → Value → Prop
  | null : Kept .null .null
  | bool (b : Bool) : Kept (.bool b) (.int (if b then 1 else 0))
  | int (n : Int64) : Kept (.int n) (.int n)
  | uint (n : UInt64) : Kept (.uint n) (.uint n)
  | float (x : Number.Double) : Kept (.float x) (.float x)
  | text (s : String) : Kept (.text s) (.text s)
  | wellFormed (s : String) : Kept (.blob (Text.utf8 s)) (.text s)
  | blob {b : List UInt8} (h : ∀ s, Text.utf8 s ≠ b) : Kept (.blob b) (.blob b)
  | timestamp (t : Timestamp) : Kept (.timestamp t) (.timestamp t.truncated)

namespace MySql

section

variable {year month day hour minute second microsecond : Nat} {t : Timestamp}

/-- Numbers that mean a day of the calendar, in whatever year, with a time of day. -/
def IsMoment (year month day hour minute second microsecond : Nat) : Prop :=
  (1 ≤ month ∧ month ≤ 12) ∧ (1 ≤ day ∧ day ≤ daysOfMonth year month) ∧
    hour < 24 ∧ minute < 60 ∧ second < 60 ∧ microsecond < 1000000

theorem timestamp?_eq_some_iff :
    timestamp? year month day hour minute second microsecond = some t ↔
      (t.date.year = year ∧ t.date.month = month ∧ t.date.day = day) ∧
        t.time.hour = hour ∧ t.time.minute = minute ∧ t.time.second = second ∧
          t.time.nanosecond = microsecond * 1000 := by
  rw [← Date.of?_eq_some_iff, ← TimeOfDay.of?_eq_some_iff]
  obtain ⟨date, time⟩ := t
  unfold timestamp?
  cases Date.of? year month day with
  | none => simp
  | some d => cases TimeOfDay.of? hour minute second (microsecond * 1000) <;> simp

theorem timestamp?_eq_none_iff :
    timestamp? year month day hour minute second microsecond = none ↔
      9999 < year ∨ ¬ IsMoment year month day hour minute second microsecond := by
  rw [← not_iff_not, not_or, Nat.not_lt, not_not, ← Ne, Option.ne_none_iff_exists']
  constructor
  · rintro ⟨t, ht⟩
    obtain ⟨⟨hy, rfl, rfl⟩, rfl, rfl, rfl, hn⟩ := timestamp?_eq_some_iff.mp ht
    have hu := t.time.nanosecond_lt
    refine ⟨?_, t.date.month_mem, hy ▸ t.date.day_mem, t.time.hour_lt, t.time.minute_lt,
      t.time.second_lt, ?_⟩
    · have := t.date.year_mem
      omega
    · omega
  · rintro ⟨hy, hm, hd, hh, hi, hs, hu⟩
    exact ⟨⟨⟨year, month, day, by omega, hm, hd⟩,
      ⟨hour, minute, second, microsecond * 1000, hh, hi, hs, by omega⟩⟩,
      timestamp?_eq_some_iff.mpr ⟨⟨rfl, rfl, rfl⟩, rfl, rfl, rfl, rfl⟩⟩

end

namespace Datum

variable {m : Datum} {v : Value} {t : Timestamp}

/-- Decide whether what is meant by a value of the server is sent back in the same form. -/
def isStable : Datum → Bool
  | float _ | time .. => false
  | _ => true

theorem ofValue_timestamp (h : 0 ≤ t.date.year) :
    ofValue (.timestamp t) = .ok (date t.date.year.toNat t.date.month t.date.day t.time.hour
      t.time.minute t.time.second (t.time.nanosecond / 1000)) :=
  if_neg (Int.not_lt.mpr h)

theorem ofValue_eq_error_iff :
    (∃ f, ofValue v = .error f) ↔ ∃ t, v = .timestamp t ∧ t.date.year < 0 := by
  constructor
  · rintro ⟨f, h⟩
    cases v with
    | timestamp t =>
      refine ⟨t, rfl, ?_⟩
      by_contra hy
      rw [ofValue_timestamp (Int.not_lt.mp hy)] at h
      cases h
    | _ => cases h
  · rintro ⟨t, rfl, hy⟩
    exact ⟨_, if_pos hy⟩

theorem exists_kept (h : ofValue v = .ok m) :
    ∃ w, m.toValue? = some w ∧ ofValue w = .ok m ∧ v.Kept w := by
  cases v with
  | null =>
    cases h
    exact ⟨.null, rfl, rfl, .null⟩
  | bool b =>
    cases h
    exact ⟨_, rfl, rfl, .bool b⟩
  | int n =>
    cases h
    exact ⟨.int n, rfl, rfl, .int n⟩
  | uint n =>
    cases h
    exact ⟨.uint n, rfl, rfl, .uint n⟩
  | float x =>
    cases h
    exact ⟨.float x, rfl, rfl, .float x⟩
  | text s =>
    cases h
    exact ⟨.text s, by rw [toValue?, Text.ofUtf8?_utf8], rfl, .text s⟩
  | blob b =>
    cases h
    cases hs : Text.ofUtf8? b with
    | some s =>
      obtain rfl := Text.ofUtf8?_eq_some_iff.mp hs
      exact ⟨.text s, by rw [toValue?, hs], rfl, .wellFormed s⟩
    | none =>
      refine ⟨.blob b, by rw [toValue?, hs], rfl, .blob fun s hb => ?_⟩
      rw [Text.ofUtf8?_eq_some_iff.mpr hb] at hs
      cases hs
  | timestamp t =>
    have hy : 0 ≤ t.date.year := by
      by_contra hy
      obtain ⟨f, hf⟩ := ofValue_eq_error_iff.mpr ⟨t, rfl, Int.not_le.mp hy⟩
      rw [hf] at h
      cases h
    have hn : t.truncated.time.nanosecond / 1000 = t.time.nanosecond / 1000 :=
      Nat.mul_div_cancel _ (by decide)
    have hd : ofValue (.timestamp t.truncated) = ofValue (.timestamp t) := by
      rw [ofValue_timestamp (t := t.truncated) hy, ofValue_timestamp hy, hn]
      rfl
    refine ⟨.timestamp t.truncated, ?_, hd.trans h, .timestamp t⟩
    rw [ofValue_timestamp hy] at h
    cases h
    have ht := timestamp?_eq_some_iff (t := t.truncated).mpr
      ⟨⟨(Int.toNat_of_nonneg hy).symm, rfl, rfl⟩, rfl, rfl, rfl, rfl⟩
    exact congrArg (Option.map _) ht

theorem ofValue_of_toValue? (hm : m.isStable = true) (h : m.toValue? = some v) :
    ofValue v = .ok m := by
  cases m with
  | float x => cases hm
  | time => cases hm
  | null | int n | uint n | double x =>
    cases h
    rfl
  | bytes b =>
    cases hs : Text.ofUtf8? b with
    | some s =>
      obtain rfl := Text.ofUtf8?_eq_some_iff.mp hs
      rw [toValue?, hs] at h
      cases h
      rfl
    | none =>
      rw [toValue?, hs] at h
      cases h
      rfl
  | date year month day hour minute second microsecond =>
    obtain ⟨t, ht, rfl⟩ := Option.map_eq_some_iff.mp h
    obtain ⟨⟨hy, rfl, rfl⟩, rfl, rfl, rfl, hn⟩ := timestamp?_eq_some_iff.mp ht
    rw [ofValue_timestamp (by omega), hy, hn]
    simp

theorem toValue?_eq_none_iff (hm : m.isStable = true) :
    m.toValue? = none ↔ ∃ year month day hour minute second microsecond,
      m = date year month day hour minute second microsecond ∧
        (9999 < year ∨ ¬ IsMoment year month day hour minute second microsecond) := by
  cases m with
  | float x => cases hm
  | time => cases hm
  | null | int n | uint n | double x => simp [toValue?]
  | bytes b =>
    cases hs : Text.ofUtf8? b <;> simp [toValue?, hs]
  | date year month day hour minute second microsecond =>
    rw [toValue?, Option.map_eq_none_iff, timestamp?_eq_none_iff]
    constructor
    · intro h
      exact ⟨_, _, _, _, _, _, _, rfl, h⟩
    · rintro ⟨_, _, _, _, _, _, _, he, h⟩
      cases he
      exact h

end Datum

/-- Only a timestamp of a year below 0 cannot be sent; what is sent is read back as it is kept,
which is sent in the same form. Of the values that are sent back in the form they came in, only dates are
not read: those that mean no moment, and those behind the year 9999. -/
theorem conversion_faithful :
    (∀ v, (∃ f, Datum.ofValue v = .error f) ↔ ∃ t, v = .timestamp t ∧ t.date.year < 0) ∧
    (∀ v m, Datum.ofValue v = .ok m →
      ∃ w, m.toValue? = some w ∧ Datum.ofValue w = .ok m ∧ v.Kept w) ∧
    ∀ m : Datum, m.isStable = true →
      (∀ v, m.toValue? = some v → Datum.ofValue v = .ok m) ∧
      (m.toValue? = none ↔ ∃ year month day hour minute second microsecond,
        m = .date year month day hour minute second microsecond ∧
          (9999 < year ∨ ¬ IsMoment year month day hour minute second microsecond)) := by
  refine ⟨fun v => Datum.ofValue_eq_error_iff, fun v m h => Datum.exists_kept h, fun m hm => ?_⟩
  exact ⟨fun v h => Datum.ofValue_of_toValue? hm h, Datum.toValue?_eq_none_iff hm⟩

theorem moment_not_read :
    IsMoment 10000 1 1 0 0 0 0 ∧ (Datum.date 10000 1 1 0 0 0 0).toValue? = none ∧
    ¬ ∀ m : Datum, m.isStable = true →
      (m.toValue? = none ↔ ∃ year month day hour minute second microsecond,
        m = .date year month day hour minute second microsecond ∧
          ¬ IsMoment year month day hour minute second microsecond) := by
  have hi : IsMoment 10000 1 1 0 0 0 0 := by
    unfold IsMoment
    decide
  have hn : (Datum.date 10000 1 1 0 0 0 0).toValue? = none := by decide
  refine ⟨hi, hn, fun h => ?_⟩
  obtain ⟨_, _, _, _, _, _, _, he, hm⟩ := (h (.date 10000 1 1 0 0 0 0) rfl).mp hn
  cases he
  exact hm hi

end MySql

end RecordSql
