import Mathlib.Data.List.Infix
import RelPlan.Query.SyntaxError

/-!
# Lines and columns

Every further character of a text moves the place behind it on, to the next column or to the next
line (`Position.Precedes`). So line and column tell the places of a text from one another
(`Position.eq_of_behind_eq`).
-/

namespace RelPlan

namespace Position

variable {p q r : Position} {a b text : List Char}

/-- On an earlier line, or in an earlier column of the same line. -/
def Precedes (p q : Position) : Prop :=
  p.line < q.line ∨ p.line = q.line ∧ p.column < q.column

theorem Precedes.trans (hpq : p.Precedes q) (hqr : q.Precedes r) : p.Precedes r := by
  unfold Precedes at *
  omega

theorem not_precedes_self (p : Position) : ¬ p.Precedes p := by
  unfold Precedes
  omega

theorem precedes_next (p : Position) (c : Char) : p.Precedes (p.next c) := by
  unfold next Precedes
  split <;> simp

theorem precedes_foldl (p : Position) (ha : a ≠ []) : p.Precedes (a.foldl next p) := by
  induction a generalizing p with
  | nil => exact absurd rfl ha
  | cons c a ih =>
    rw [List.foldl_cons]
    by_cases hnil : a = []
    · rw [hnil]
      exact precedes_next p c
    · exact (precedes_next p c).trans (ih _ hnil)

theorem behind_precedes (a : List Char) (hb : b ≠ []) : (behind a).Precedes (behind (a ++ b)) := by
  rw [behind, behind, List.foldl_append]
  exact precedes_foldl _ hb

theorem eq_of_front (hab : a <+: b) (h : behind a = behind b) : a = b := by
  obtain ⟨t, rfl⟩ := hab
  by_contra hne
  have ht : t ≠ [] := by
    rintro rfl
    exact hne (List.append_nil a).symm
  have hlt := behind_precedes a ht
  rw [← h] at hlt
  exact not_precedes_self _ hlt

/-- Different places of a text are in different lines or columns. -/
theorem eq_of_behind_eq (ha : a <+: text) (hb : b <+: text) (h : behind a = behind b) : a = b := by
  rcases List.prefix_or_prefix_of_prefix ha hb with hab | hba
  · exact eq_of_front hab h
  · exact (eq_of_front hba h.symm).symm

end Position

end RelPlan
