import Mathlib
import RecordSql.Naming

/-! # Round trips of the snake convention

The snake convention keeps neither the underscores of a record nor the capitals of a table, and the
first capital of a record leaves no underscore. So a name of a record comes back from its table only
if its first capital is in front, and a name of a table from its record only if each underscore, and
the place in front of the first one, makes a capital.
-/

namespace RecordSql.Naming

/-- A name of a record as the snake convention writes them: no underscore, no small letter in front,
and no capitals without one in front. -/
structure IsTitle (n : List Char) : Prop where
  no_underscore : '_' ∉ n
  first : ∀ c ∈ n.head?, c.isLower = false
  capitals : (∃ c ∈ n, c.isUpper = true) → ∃ c ∈ n.head?, c.isUpper = true

def Joins (t : List Char) : Prop :=
  ∀ a b, t = a ++ '_' :: b → ∃ c ∈ b.head?, c.isLower = true

/-- A name of a table as the snake convention writes them: no capitals, underscores only in front of
small letters, and none without a small letter at the start of the name. -/
structure IsSnake (t : List Char) : Prop where
  no_capital : ∀ c ∈ t, c.isUpper = false
  joins : Joins t
  first : '_' ∈ t → ∃ c ∈ t.head?, c.isLower = true

variable {c : Char} {s : List Char}

/-! ## Characters -/

theorem toLower_ne_self (h : c.isUpper = true) : c.toLower ≠ c := by
  intro he
  have hl := c.isUpper_toLower_eq_false
  rw [he, h] at hl
  cases hl

theorem toLower_ne_underscore (h : c.isUpper = true) : c.toLower ≠ '_' := by
  intro he
  have ha : c.toLower.isAlpha = true := by simp [Char.isAlpha, h]
  rw [he] at ha
  cases ha

theorem toUpper_ne_underscore (h : c ≠ '_') : c.toUpper ≠ '_' := by
  by_cases hl : c.isLower = true
  · intro he
    have ha : c.toUpper.isAlpha = true := by simp [Char.isAlpha, hl]
    rw [he] at ha
    cases ha
  · rwa [Char.toUpper_eq_of_not_isLower hl]

theorem toUpper_eq_self_iff : c.toUpper = c ↔ c.isLower = false := by
  constructor
  · intro he
    rw [← he]
    exact c.isLower_toUpper_eq_false
  · intro h
    exact Char.toUpper_eq_of_not_isLower (by simp [h])

theorem toUpper_of_isUpper (h : c.isUpper = true) : c.toUpper = c :=
  Char.toUpper_eq_of_not_isLower (Char.not_isLower_of_isUpper h)

/-! ## From a record to its table and back -/

theorem underscore_not_mem_titleFrom (capital : Bool) (s : List Char) :
    '_' ∉ titleFrom capital s := by
  induction s generalizing capital with
  | nil => simp [titleFrom]
  | cons c s ih =>
    rw [titleFrom]
    split
    · exact ih true
    · next hc =>
      rw [List.mem_cons, not_or]
      refine ⟨?_, ih false⟩
      split
      · exact (toUpper_ne_underscore hc).symm
      · exact Ne.symm hc

/-- Behind the first capital of a name, each further one comes back from its underscore. -/
theorem titleFrom_snakeFrom (h : '_' ∉ s) : titleFrom false (snakeFrom true s) = s := by
  induction s with
  | nil => rfl
  | cons c s ih =>
    obtain ⟨hc, hs⟩ : '_' ≠ c ∧ '_' ∉ s := by simpa using h
    by_cases hu : c.isUpper = true
    · simp [snakeFrom, titleFrom, hu, toLower_ne_underscore hu, toUpper_of_isUpper hu, ih hs]
    · simp [snakeFrom, titleFrom, hu, hc.symm, ih hs]

theorem titleFrom_snakeFrom_eq_iff (h : '_' ∉ s) :
    titleFrom false (snakeFrom false s) = s ↔ ∀ c ∈ s, c.isUpper = false := by
  induction s with
  | nil => simp [snakeFrom, titleFrom]
  | cons c s ih =>
    obtain ⟨hc, hs⟩ : '_' ≠ c ∧ '_' ∉ s := by simpa using h
    by_cases hu : c.isUpper = true
    · simp [snakeFrom, titleFrom, hu, toLower_ne_underscore hu, toLower_ne_self hu]
    · simp [snakeFrom, titleFrom, hu, hc.symm, ih hs]

theorem isTitle_cons_of_isUpper (h : c.isUpper = true) : IsTitle (c :: s) ↔ '_' ∉ s := by
  have hl : c.isLower = false := by simpa using Char.not_isLower_of_isUpper h
  have hc : '_' ≠ c := by
    rintro rfl
    cases h
  constructor
  · intro ht
    exact fun hm => ht.no_underscore (List.mem_cons_of_mem c hm)
  · intro hs
    exact ⟨by simp [hc, hs], by simpa using hl, fun _ => ⟨c, rfl, h⟩⟩

theorem isTitle_cons_of_not_isUpper (h : ¬ c.isUpper = true) :
    IsTitle (c :: s) ↔ '_' ∉ c :: s ∧ c.isLower = false ∧ ∀ d ∈ s, d.isUpper = false := by
  constructor
  · intro ht
    refine ⟨ht.no_underscore, ht.first c rfl, fun d hd => ?_⟩
    by_contra hdu
    obtain ⟨e, he, heu⟩ := ht.capitals ⟨d, List.mem_cons_of_mem c hd, by simpa using hdu⟩
    obtain rfl : c = e := by simpa using he
    exact h heu
  · rintro ⟨hm, hl, hn⟩
    refine ⟨hm, by simpa using hl, ?_⟩
    rintro ⟨d, hd, hdu⟩
    rcases List.mem_cons.mp hd with rfl | hd
    · exact absurd hdu h
    · simp [hn d hd] at hdu

theorem titleFrom_snakeFrom_eq_iff_isTitle (s : List Char) :
    titleFrom true (snakeFrom false s) = s ↔ IsTitle s := by
  by_cases hm : '_' ∈ s
  · refine iff_of_false (fun h => ?_) fun h => h.no_underscore hm
    exact underscore_not_mem_titleFrom true (snakeFrom false s) (h.symm ▸ hm)
  cases s with
  | nil => exact iff_of_true rfl ⟨hm, by simp, by simp⟩
  | cons c s =>
    obtain ⟨hc, hs⟩ : '_' ≠ c ∧ '_' ∉ s := by simpa using hm
    by_cases hu : c.isUpper = true
    · refine iff_of_true ?_ ((isTitle_cons_of_isUpper hu).mpr hs)
      simp [snakeFrom, titleFrom, hu, toLower_ne_underscore hu, toUpper_of_isUpper hu,
        titleFrom_snakeFrom hs]
    · have ht : titleFrom true (snakeFrom false (c :: s)) =
          c.toUpper :: titleFrom false (snakeFrom false s) := by
        simp [snakeFrom, titleFrom, hu, hc.symm]
      rw [ht, List.cons.injEq, toUpper_eq_self_iff, titleFrom_snakeFrom_eq_iff hs,
        isTitle_cons_of_not_isUpper hu, and_iff_right hm]

/-! ## From a table to its record and back -/

theorem joins_nil : Joins [] := by
  simp [Joins]

theorem joins_cons_iff :
    Joins (c :: s) ↔ (c = '_' → ∃ d ∈ s.head?, d.isLower = true) ∧ Joins s := by
  constructor
  · intro h
    refine ⟨fun hc => h [] s (by rw [hc]; rfl), fun a b hs => h (c :: a) b (by rw [hs]; rfl)⟩
  · rintro ⟨hc, hs⟩ a b h
    cases a with
    | nil =>
      obtain ⟨rfl, rfl⟩ : c = '_' ∧ s = b := by simpa using h
      exact hc rfl
    | cons d a => exact hs a b (List.cons.inj h).2

theorem joins_of_not_mem (h : '_' ∉ s) : Joins s := by
  rintro a b rfl
  simp at h

theorem isUpper_of_mem_snakeFrom {met : Bool} (h : c ∈ snakeFrom met s) : c.isUpper = false := by
  induction s generalizing met with
  | nil => cases h
  | cons d s ih =>
    rw [snakeFrom] at h
    split at h
    · split at h
      · rcases List.mem_cons.mp h with rfl | h
        · decide
        rcases List.mem_cons.mp h with rfl | h
        · exact d.isUpper_toLower_eq_false
        · exact ih h
      · rcases List.mem_cons.mp h with rfl | h
        · exact d.isUpper_toLower_eq_false
        · exact ih h
    · next hd =>
      rcases List.mem_cons.mp h with rfl | h
      · simpa using hd
      · exact ih h

theorem joins_snakeFrom (h : '_' ∉ s) (met : Bool) : Joins (snakeFrom met s) := by
  induction s generalizing met with
  | nil => exact joins_nil
  | cons c s ih =>
    obtain ⟨hc, hs⟩ : '_' ≠ c ∧ '_' ∉ s := by simpa using h
    rw [snakeFrom]
    split
    · next hu =>
      have hl : c.toLower.isLower = true := by simp [Char.isAlpha, hu]
      have hj : Joins (c.toLower :: snakeFrom true s) :=
        joins_cons_iff.mpr ⟨fun he => absurd he (toLower_ne_underscore hu), ih hs true⟩
      split
      · exact joins_cons_iff.mpr ⟨fun _ => ⟨_, rfl, hl⟩, hj⟩
      · exact hj
    · exact joins_cons_iff.mpr ⟨fun he => absurd he.symm hc, ih hs met⟩

theorem head?_snakeFrom_ne (h : '_' ∉ s) : (snakeFrom false s).head? ≠ some '_' := by
  cases s with
  | nil => simp [snakeFrom]
  | cons c s =>
    obtain ⟨hc, -⟩ : '_' ≠ c ∧ '_' ∉ s := by simpa using h
    by_cases hu : c.isUpper = true
    · simp [snakeFrom, hu, toLower_ne_underscore hu]
    · simp [snakeFrom, hu, hc.symm]

/-- Behind a first capital, each underscore comes back from the capital that takes its place. -/
theorem snakeFrom_titleFrom :
    ∀ {s : List Char}, Joins s → (∀ c ∈ s, c.isUpper = false) →
      snakeFrom true (titleFrom false s) = s
  | [], _, _ => rfl
  | c :: s, hj, hn => by
    obtain ⟨hc, hs⟩ := joins_cons_iff.mp hj
    obtain ⟨hcu, hsu⟩ : c.isUpper = false ∧ ∀ d ∈ s, d.isUpper = false := by simpa using hn
    by_cases h : c = '_'
    · subst h
      -- the underscore and the small letter behind it become one capital, and both come back
      obtain ⟨d, hd, hl⟩ := hc rfl
      obtain ⟨s, rfl⟩ := List.head?_eq_some_iff.mp hd
      have hdu : d ≠ '_' := by
        rintro rfl
        cases hl
      have ha : d.toUpper.isUpper = true := by simp [Char.isAlpha, hl]
      have hdl : d.toLower = d :=
        Char.toLower_eq_of_not_isUpper (Char.not_isUpper_of_isLower hl)
      have hr := snakeFrom_titleFrom (joins_cons_iff.mp hs).2 (List.forall_mem_cons.mp hsu).2
      simp [titleFrom, snakeFrom, hdu, ha, hdl, hr]
    · simp [titleFrom, snakeFrom, h, hcu, snakeFrom_titleFrom hs hsu]

theorem snakeFrom_titleFrom_eq_iff :
    snakeFrom true (titleFrom false s) = s ↔ Joins s ∧ ∀ c ∈ s, c.isUpper = false := by
  refine ⟨fun h => ?_, fun h => snakeFrom_titleFrom h.1 h.2⟩
  rw [← h]
  exact ⟨joins_snakeFrom (underscore_not_mem_titleFrom false s) true,
    fun _ => isUpper_of_mem_snakeFrom⟩

theorem snakeFrom_false_titleFrom_eq_iff :
    snakeFrom false (titleFrom false s) = s ↔ '_' ∉ s ∧ ∀ c ∈ s, c.isUpper = false := by
  induction s with
  | nil => simp [titleFrom, snakeFrom]
  | cons c s ih =>
    by_cases hc : c = '_'
    · refine iff_of_false (fun h => ?_) fun h => h.1 (by simp [hc])
      refine head?_snakeFrom_ne (underscore_not_mem_titleFrom false (c :: s)) ?_
      rw [h, hc]
      rfl
    · by_cases hu : c.isUpper = true
      · simp [titleFrom, snakeFrom, hc, hu, toLower_ne_self hu]
      · simp [titleFrom, snakeFrom, hc, hu, ih, Ne.symm hc]

theorem isSnake_cons_of_isLower (h : c.isLower = true) :
    IsSnake (c :: s) ↔ Joins s ∧ ∀ d ∈ s, d.isUpper = false := by
  have hu : c.isUpper = false := by simpa using Char.not_isUpper_of_isLower h
  have hc : c ≠ '_' := by
    rintro rfl
    cases h
  constructor
  · intro hs
    exact ⟨(joins_cons_iff.mp hs.joins).2, (List.forall_mem_cons.mp hs.no_capital).2⟩
  · rintro ⟨hj, hn⟩
    exact ⟨List.forall_mem_cons.mpr ⟨hu, hn⟩, joins_cons_iff.mpr ⟨(absurd · hc), hj⟩,
      fun _ => ⟨c, rfl, h⟩⟩

theorem isSnake_cons_of_not_isLower (h : ¬ c.isLower = true) :
    IsSnake (c :: s) ↔ '_' ∉ c :: s ∧ ∀ d ∈ c :: s, d.isUpper = false := by
  constructor
  · intro hs
    refine ⟨fun hm => h ?_, hs.no_capital⟩
    obtain ⟨d, hd, hl⟩ := hs.first hm
    obtain rfl : c = d := by simpa using hd
    exact hl
  · rintro ⟨hm, hn⟩
    exact ⟨hn, joins_of_not_mem hm, fun hc => absurd hc hm⟩

theorem snakeFrom_titleFrom_eq_iff_isSnake (s : List Char) :
    snakeFrom false (titleFrom true s) = s ↔ IsSnake s := by
  cases s with
  | nil => exact iff_of_true rfl ⟨by simp, joins_nil, by simp⟩
  | cons c s =>
    by_cases hl : c.isLower = true
    · have hc : c ≠ '_' := by
        rintro rfl
        cases hl
      have hu : c.toUpper.isUpper = true := by simp [Char.isAlpha, hl]
      have hcl : c.toLower = c :=
        Char.toLower_eq_of_not_isUpper (Char.not_isUpper_of_isLower hl)
      have hs : snakeFrom false (titleFrom true (c :: s)) =
          c :: snakeFrom true (titleFrom false s) := by
        simp [titleFrom, snakeFrom, hc, hu, hcl]
      rw [hs, List.cons.injEq, and_iff_right rfl, snakeFrom_titleFrom_eq_iff,
        isSnake_cons_of_isLower hl]
    · -- without a small letter in front there is nothing to make a capital of
      have ht : titleFrom true (c :: s) = titleFrom false (c :: s) := by
        simp [titleFrom, Char.toUpper_eq_of_not_isLower hl]
      rw [ht, snakeFrom_false_titleFrom_eq_iff, isSnake_cons_of_not_isLower hl]

/-- Names of records that come back from their tables are those without an underscore or a small
letter in front, and without capitals unless one is in front. Names of tables that come back from
their records are those without capitals, with a small letter behind each underscore, and with one
in front if there is an underscore. -/
theorem snake_round_trips_iff :
    (∀ n, snake.toRecord (snake.toTable n) = n ↔ IsTitle n.toList) ∧
      ∀ t, snake.toTable (snake.toRecord t) = t ↔ IsSnake t.toList := by
  refine ⟨fun n => ?_, fun t => ?_⟩
  · rw [← titleFrom_snakeFrom_eq_iff_isTitle, ← String.toList_inj]
    simp [snake, titleCase, snakeCase]
  · rw [← snakeFrom_titleFrom_eq_iff_isSnake, ← String.toList_inj]
    simp [snake, titleCase, snakeCase]

end RecordSql.Naming
