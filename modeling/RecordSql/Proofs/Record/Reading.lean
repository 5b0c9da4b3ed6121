import RecordSql.Record.Mapping

/-! # Reading annotations

The field of an annotation is named only where the annotation is malformed. So what a field says of
itself does not depend on the fields around it.
-/

namespace RecordSql

/-- Two runs have the same result if they have the same first result and go on alike from it. -/
theorem toOption_bind_congr {α β : Type} {x y : Except Failure α} {f g : α → Except Failure β}
    (h : x.toOption = y.toOption) (hf : ∀ a, (f a).toOption = (g a).toOption) :
    (x >>= f).toOption = (y >>= g).toOption := by
  cases x <;> cases y <;> cases h
  case error.error => rfl
  case ok.ok.refl a => exact hf a

theorem Word.toOption_classify (p q word : String) :
    (classify p word).toOption = (classify q word).toOption := by
  unfold classify
  cases fixed? word with
  | some w => rfl
  | none => cases readToken word <;> rfl

namespace Directives

def read? (text : String) : Option Directives :=
  (read "" text).toOption

theorem toOption_addWords (p q : String) (a : Directives) (words : List String) :
    (a.addWords p words).toOption = (a.addWords q words).toOption := by
  induction a, words using addWords.induct with
  | case1 a => rfl
  | case2 a word rest hnot hdefault hadd =>
    rw [addWords.eq_def, addWords.eq_def q]
    refine toOption_bind_congr (Word.toOption_classify p q word) fun w => ?_
    cases w with
    | not =>
      dsimp only
      split
      · exact hnot
      · rfl
    | default =>
      cases rest with
      | nil => rfl
      | cons literal rest => exact hdefault
    | _ => exact hadd _

theorem toOption_read (path text : String) : (read path text).toOption = read? text :=
  toOption_addWords path "" _ _

end Directives

end RecordSql
