import RelPlan.Json.Number
import RelPlan.Proofs.Success
import RelPlan.Proofs.Text.Stops

/-!
# Reading back a written count

A count is written with its decimal digits, of which the first is a zero only if the count is zero
(`eq_zero_of_head?_toDigits`). In front of a text that cannot prolong a number (`Stops isNumeral`)
the reader takes just these digits (`numberDigits_toDigits`). They leave neither the range of counts
nor that of the double-precision numbers, so that the count comes back (`number_written`).
-/

namespace RelPlan.Json

variable {n : Nat} {ds cs rest : List Char} {atEnd : Fault}

/-! ### The digits -/

/-- The characters that can prolong a number that is written in digits alone. -/
def isNumeral (c : Char) : Bool := c.isDigit ∨ c = '.' ∨ c = 'e' ∨ c = 'E'

theorem isDigit_of_mem_toDigits {c : Char} (h : c ∈ Nat.toDigits 10 n) : c.isDigit :=
  Nat.isDigit_of_mem_toDigits (by decide) (by decide) h

/-- There is a first digit. -/
theorem exists_toDigits_eq_cons (n : Nat) :
    ∃ d ds, Nat.toDigits 10 n = d :: ds ∧ d.isDigit := by
  match h : Nat.toDigits 10 n with
  | [] => exact absurd h Nat.toDigits_ne_nil
  | d :: ds =>
    refine ⟨d, ds, rfl, isDigit_of_mem_toDigits (n := n) ?_⟩
    rw [h]
    exact List.mem_cons_self

theorem eq_zero_of_head?_toDigits (h : (Nat.toDigits 10 n).head? = some '0') : n = 0 := by
  induction n using Nat.base_induction 10 (by decide) with
  | single m hm => simpa [Nat.toDigits_of_lt_base hm] using h
  | digit m k hk hm ih =>
    obtain ⟨d, ds, hd, -⟩ := exists_toDigits_eq_cons m
    rw [← Nat.toDigits_append_toDigits (by decide) hm hk, hd] at h
    rw [hd] at ih
    exact absurd (ih h) (Nat.ne_of_gt hm)

theorem digits_append (hne : ds ≠ []) (hds : ∀ d ∈ ds, d.isDigit)
    (hrest : Stops Char.isDigit rest) : digits atEnd (ds ++ rest) = .ok (ds, rest) := by
  cases ds with
  | nil => exact absurd rfl hne
  | cons d ds =>
    have hd := hds d List.mem_cons_self
    rw [digits, takeWhile_append_of_stops hds hrest, dropWhile_append_of_stops hds hrest]
    · simp [hd]
    · simp [hd]

theorem wholeDigits_toDigits (hrest : Stops Char.isDigit rest) :
    wholeDigits atEnd (Nat.toDigits 10 n ++ rest) = .ok (Nat.toDigits 10 n, rest) := by
  have hdigits : digits atEnd (Nat.toDigits 10 n ++ rest) = .ok (Nat.toDigits 10 n, rest) :=
    digits_append Nat.toDigits_ne_nil (fun _ => isDigit_of_mem_toDigits) hrest
  rw [wholeDigits, hdigits]
  simp only [bind, Except.bind]
  split
  · next d ds hzero =>
    obtain rfl : n = 0 := eq_zero_of_head?_toDigits (by rw [hzero]; rfl)
    simp at hzero
  · rfl

theorem fractionDigits_of_stops (h : Stops isNumeral rest) :
    fractionDigits atEnd rest = .ok (none, rest) := by
  unfold fractionDigits
  split
  · simp [isNumeral] at h
  · rfl

theorem exponentDigits_of_stops (h : Stops isNumeral rest) :
    exponentDigits atEnd rest = .ok (none, rest) := by
  unfold exponentDigits
  split
  · next c more =>
    have hc : ¬ (c = 'e' ∨ c = 'E') := by
      rintro (rfl | rfl) <;> simp [isNumeral] at h
    rw [if_neg hc]
  · rfl

theorem minusSign_toDigits :
    minusSign (Nat.toDigits 10 n ++ rest) = (false, Nat.toDigits 10 n ++ rest) := by
  obtain ⟨d, ds, hd, hdigit⟩ := exists_toDigits_eq_cons n
  rw [hd, List.cons_append, minusSign]
  rintro more ⟨⟩
  exact absurd hdigit (by decide)

theorem numberDigits_toDigits (h : Stops isNumeral rest) :
    numberDigits atEnd (Nat.toDigits 10 n ++ rest) =
      .ok (⟨false, Nat.toDigits 10 n, none, none⟩, rest) := by
  have hdigit : Stops Char.isDigit rest := h.mono fun c hc => by simp [isNumeral, hc]
  simp only [numberDigits, minusSign_toDigits, wholeDigits_toDigits hdigit,
    fractionDigits_of_stops h, exponentDigits_of_stops h, bind, Except.bind, pure, Except.pure]

/-! ### The value -/

/-- Further digits do not make a number smaller. -/
theorem le_ofDigitChars (ds : List Char) (n : Nat) : n ≤ Nat.ofDigitChars 10 ds n := by
  rw [Nat.ofDigitChars_eq_ofDigitChars_zero]
  exact Nat.le_add_right_of_le (Nat.le_mul_of_pos_left n (Nat.pow_pos (by decide)))

/-- If the number is in the range of counts, all its digits are put behind each other. -/
theorem appendDigits_of_le (h : Nat.ofDigitChars 10 ds n ≤ countLimit) :
    appendDigits n ds = (Nat.ofDigitChars 10 ds n, 0) := by
  induction ds generalizing n with
  | nil => rfl
  | cons d ds ih =>
    have hvalue : Nat.ofDigitChars 10 (d :: ds) n =
        Nat.ofDigitChars 10 ds (n * 10 + digitValue d) := by
      rw [Nat.ofDigitChars_cons, Nat.mul_comm, digitValue]
    rw [hvalue] at h ⊢
    have hd : n * 10 + digitValue d ≤ countLimit := Nat.le_trans (le_ofDigitChars ds _) h
    rw [appendDigits, if_pos hd]
    exact ih h

theorem roundToDouble_le (hn : n ≠ 0) : roundToDouble n ≤ 2 * n := by
  have hunit : 2 ^ (n.log2 - 52) ≤ n :=
    Nat.le_trans (Nat.pow_le_pow_right (by decide) (Nat.sub_le _ _)) (Nat.log2_self_le hn)
  have hdown : n / 2 ^ (n.log2 - 52) * 2 ^ (n.log2 - 52) ≤ n := Nat.div_mul_le_self _ _
  simp only [roundToDouble, Nat.pow_eq]
  split
  · omega
  · rw [Nat.add_mul]
    omega

/-- A count can be held as a double-precision number. -/
theorem not_tooLarge (h : n ≤ countLimit) : ¬ TooLarge n 0 := by
  rintro ⟨hn, -, hlarge | hlarge⟩
  · exact absurd hlarge (by decide)
  · have hone : roundToDouble (Nat.pow 10 (0 : Int).toNat) = 1 := by decide
    have hlimit : 2 * countLimit < doubleOverflow := by decide +kernel
    have hround := roundToDouble_le hn
    rw [hone] at hlarge
    omega

theorem count?_toDigits (n : Count) :
    Digits.count? ⟨false, Nat.toDigits 10 n.toNat, none, none⟩ = .ok (some n) := by
  have hvalue : Nat.ofDigitChars 10 (Nat.toDigits 10 n.toNat) 0 = n.toNat :=
    Nat.ofDigitChars_ten_toDigits
  have hdigits : appendDigits 0 (Nat.toDigits 10 n.toNat) = (n.toNat, 0) := by
    rw [appendDigits_of_le (by rw [hvalue]; exact n.le_limit), hvalue]
  have hscientific :
      Digits.scientific ⟨false, Nat.toDigits 10 n.toNat, none, none⟩ = (n.toNat, 0) := by
    simp only [Digits.scientific, hdigits]
    rfl
  rw [Digits.count?, hscientific]
  simp only [if_neg (not_tooLarge n.le_limit), digitsValue_toDigits, Count.ofNat?_toNat]
  rfl

/-- A written count is read back. -/
theorem number_written (n : Count) (h : Stops isNumeral rest) :
    number (n.text.toList ++ rest) = .ok (some n, rest) := by
  rw [Count.text, Nat.toList_repr]
  simp only [number, numberDigits_toDigits h, count?_toDigits, bind, Except.bind, pure, Except.pure]

end RelPlan.Json
