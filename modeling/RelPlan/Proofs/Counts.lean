import Mathlib.Algebra.Order.Floor.Div
import Mathlib.GroupTheory.GroupAction.Ring
import RelPlan.Count

/-!
# Arithmetic of counts

Division of counts is division rounded up (`Count.toNat_ceilDiv_eq`), so that a quotient is the
least number whose product with the divisor reaches the dividend (`Count.toNat_ceilDiv_le_iff`).
That it is monotone, that it vanishes with the dividend alone, and that two divisions are one
division by the product all follow from this. The largest count is no exception, since products are
only ever held down.
-/

namespace RelPlan

/-- Dividing twice, rounding up each time, is dividing once by the product. -/
theorem ceilDiv_ceilDiv {n d e : Nat} (hd : 0 < d) (he : 0 < e) :
    n ⌈/⌉ d ⌈/⌉ e = n ⌈/⌉ (d * e) := by
  refine eq_of_forall_ge_iff fun m => ?_
  rw [ceilDiv_le_iff_le_mul he, ceilDiv_le_iff_le_mul hd,
    ceilDiv_le_iff_le_mul (Nat.mul_pos hd he), Nat.mul_assoc]

namespace Count

variable {a b c d : Count}

theorem eq_zero_iff : a = 0 ↔ a.toNat = 0 :=
  ⟨fun h => congrArg toNat h, fun h => Count.ext h⟩

/-! ### Greater and smaller counts -/

theorem max_comm (a b : Count) : max a b = max b a := by
  ext
  rw [toNat_max, toNat_max, Nat.max_comm]

theorem min_comm (a b : Count) : min a b = min b a := by
  ext
  rw [toNat_min, toNat_min, Nat.min_comm]

/-! ### Products -/

theorem mul_comm (a b : Count) : a * b = b * a := by
  ext
  rw [toNat_mul, toNat_mul, Nat.mul_comm]

theorem mul_mono (h : a ≤ c) (h' : b ≤ d) : a * b ≤ c * d := by
  have hmul : a.toNat * b.toNat ≤ c.toNat * d.toNat := Nat.mul_le_mul h h'
  rw [le_def, toNat_mul, toNat_mul]
  omega

/-- Holding a product down to the largest count does not make it vanish. -/
theorem mul_eq_zero_iff : a * b = 0 ↔ a = 0 ∨ b = 0 := by
  have hlimit : 0 < countLimit := by decide
  rw [eq_zero_iff, eq_zero_iff, eq_zero_iff, toNat_mul, ← Nat.mul_eq_zero]
  omega

/-! ### Quotients -/

/-- What dividing by a count comes to dividing by: a count of `0` counts as `1`. -/
def divisor (a : Count) : Nat := max a.toNat 1

theorem divisor_pos (a : Count) : 0 < a.divisor := Nat.le_max_right _ _

theorem toNat_ceilDiv_eq (a b : Count) : (a.ceilDiv b).toNat = a.toNat ⌈/⌉ b.divisor := by
  have hb := b.divisor_pos
  rw [toNat_ceilDiv, Nat.ceilDiv_eq_add_pred_div, Nat.add_sub_assoc hb]
  rfl

/-- **Rounding up**: a quotient is the least number whose product with the divisor reaches the
dividend. -/
theorem toNat_ceilDiv_le_iff {n : Nat} : (a.ceilDiv b).toNat ≤ n ↔ a.toNat ≤ b.divisor * n := by
  rw [toNat_ceilDiv_eq, ceilDiv_le_iff_le_mul b.divisor_pos]

theorem ceilDiv_le : a.ceilDiv b ≤ a :=
  toNat_ceilDiv_le_iff.2 (Nat.le_mul_of_pos_left _ b.divisor_pos)

theorem ceilDiv_mono (h : a ≤ b) : a.ceilDiv c ≤ b.ceilDiv c :=
  toNat_ceilDiv_le_iff.2 (Nat.le_trans h (toNat_ceilDiv_le_iff.1 (Nat.le_refl _)))

/-- A quotient vanishes with its dividend only. -/
theorem ceilDiv_eq_zero_iff : a.ceilDiv b = 0 ↔ a = 0 := by
  rw [eq_zero_iff, eq_zero_iff, ← Nat.le_zero, toNat_ceilDiv_le_iff, Nat.mul_zero, Nat.le_zero]

/-- The order of two divisions does not matter. -/
theorem ceilDiv_right_comm (a b c : Count) : (a.ceilDiv b).ceilDiv c = (a.ceilDiv c).ceilDiv b := by
  ext
  simp only [toNat_ceilDiv_eq]
  rw [ceilDiv_ceilDiv b.divisor_pos c.divisor_pos, ceilDiv_ceilDiv c.divisor_pos b.divisor_pos,
    Nat.mul_comm]

end Count

end RelPlan
