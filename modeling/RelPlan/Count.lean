/-!
# Counts

Every statistic of a relation is a count: a whole number from `0` to `2^64 - 1`. Products that
leave this range are held at the largest count, and division rounds up, with a divisor of `0`
read as `1`. Each operation is described by what it does to the number a count holds
(`toNat_clamp`, `toNat_mul`, `toNat_ceilDiv`).
-/

namespace RelPlan

/-- The largest count, `2^64 - 1`. -/
def countLimit : Nat := 18446744073709551615

/-- A whole number from `0` to `countLimit`. -/
structure Count where
  /-- The number. -/
  toNat : Nat
  /-- The number is in range. -/
  le_limit : toNat ≤ countLimit
  deriving DecidableEq

namespace Count

@[ext]
theorem ext {a b : Count} (h : a.toNat = b.toNat) : a = b := by
  cases a; cases b; simp_all

instance : OfNat Count 0 := ⟨⟨0, Nat.zero_le _⟩⟩

instance : OfNat Count 1 := ⟨⟨1, by decide⟩⟩

@[simp] theorem toNat_zero : (0 : Count).toNat = 0 := rfl

@[simp] theorem toNat_one : (1 : Count).toNat = 1 := rfl

/-- The count nearest to `n`. -/
def clamp (n : Nat) : Count := ⟨min n countLimit, Nat.min_le_right _ _⟩

@[simp] theorem toNat_clamp (n : Nat) : (clamp n).toNat = min n countLimit := rfl

/-- The count `n`, unless `n` is out of range. -/
def ofNat? (n : Nat) : Option Count :=
  if h : n ≤ countLimit then some ⟨n, h⟩ else none

theorem ofNat?_toNat (a : Count) : ofNat? a.toNat = some a := by
  simp [ofNat?, a.le_limit]

/-! ### Order -/

instance : LE Count := ⟨fun a b => a.toNat ≤ b.toNat⟩

instance : LT Count := ⟨fun a b => a.toNat < b.toNat⟩

theorem le_def {a b : Count} : a ≤ b ↔ a.toNat ≤ b.toNat := Iff.rfl

theorem lt_def {a b : Count} : a < b ↔ a.toNat < b.toNat := Iff.rfl

instance (a b : Count) : Decidable (a ≤ b) := inferInstanceAs (Decidable (a.toNat ≤ b.toNat))

instance (a b : Count) : Decidable (a < b) := inferInstanceAs (Decidable (a.toNat < b.toNat))

instance : Max Count := ⟨fun a b => if a ≤ b then b else a⟩

instance : Min Count := ⟨fun a b => if a ≤ b then a else b⟩

@[simp] theorem toNat_max (a b : Count) : (max a b).toNat = max a.toNat b.toNat := by
  show (if a ≤ b then b else a).toNat = _
  split <;> rename_i h <;> rw [le_def] at h <;> omega

@[simp] theorem toNat_min (a b : Count) : (min a b).toNat = min a.toNat b.toNat := by
  show (if a ≤ b then a else b).toNat = _
  split <;> rename_i h <;> rw [le_def] at h <;> omega

/-! ### Arithmetic -/

/-- Multiplication, held at `countLimit`. -/
instance : Mul Count := ⟨fun a b => clamp (a.toNat * b.toNat)⟩

@[simp] theorem toNat_mul (a b : Count) : (a * b).toNat = min (a.toNat * b.toNat) countLimit := rfl

/-- Rounding a quotient up does not exceed the number that is divided. -/
theorem div_up_le {n d : Nat} (h : 0 < d) : (n + (d - 1)) / d ≤ n := by
  rw [Nat.div_le_iff_le_mul_add_pred h]
  exact Nat.add_le_add_right (Nat.le_mul_of_pos_left n h) _

/-- The quotient of `a` and `b`, rounded up; a `b` of `0` counts as `1`. -/
def ceilDiv (a b : Count) : Count :=
  ⟨(a.toNat + (max b.toNat 1 - 1)) / max b.toNat 1,
    Nat.le_trans (div_up_le (Nat.lt_of_lt_of_le Nat.one_pos (Nat.le_max_right _ _))) a.le_limit⟩

theorem toNat_ceilDiv (a b : Count) :
    (a.ceilDiv b).toNat = (a.toNat + (max b.toNat 1 - 1)) / max b.toNat 1 := rfl

/-- The decimal digits of a count. -/
def text (a : Count) : String := a.toNat.repr

instance : ToString Count := ⟨text⟩

end Count

end RelPlan
