import Mathlib.Tactic.SplitIfs
import RelPlan.Json.Text
import RelPlan.Json.Value

/-!
# Reading back a written string

Each character of a written string stands there as it is or as an escape, and the reader makes the
character of it again (`stringFrom_escaped`). So behind the opening quote a written string is read
as the string that was written, whatever its characters are (`string_written`).
-/

namespace RelPlan.Json

variable {c : Char} {cs rest : List Char}

/-! ### Escapes -/

theorem hexValue?_hexDigit {n : Nat} (h : n < 16) : hexValue? (hexDigit n) = some n := by
  have hall : ∀ m : Fin 16, hexValue? (hexDigit m) = some m.val := by decide
  exact hall ⟨n, h⟩

/-- Two hexadecimal digits behind two zeros spell a number below 256. -/
theorem fourHex_hexDigit {n : Nat} (h : n < 256) :
    fourHex ('0' :: '0' :: hexDigit (n / 16) :: hexDigit (n % 16) :: rest) = .ok n := by
  have hzero : hexValue? '0' = some 0 := by decide
  have hhigh := hexValue?_hexDigit (show n / 16 < 16 by omega)
  have hlow := hexValue?_hexDigit (show n % 16 < 16 by omega)
  simp only [fourHex, hzero, hhigh, hlow]
  congr 1
  omega

/-- A character that was written with its number is no surrogate, so the number alone gives it
back. -/
theorem escape_hexDigit (h : c.toNat < 32) :
    escape ('u' :: '0' :: '0' :: hexDigit (c.toNat / 16) :: hexDigit (c.toNat % 16) :: rest) =
      .ok (c, 5) := by
  have hnumber : fourHex ('0' :: '0' :: hexDigit (c.toNat / 16) :: hexDigit (c.toNat % 16) :: rest)
      = .ok c.toNat := fourHex_hexDigit (by omega)
  have htrailing : ¬ IsTrailing c.toNat := fun ht => absurd ht.1 (by omega)
  have hleading : ¬ IsLeading c.toNat := fun hl => absurd hl.1 (by omega)
  simp only [escape, unicodeEscape, hnumber, bind, Except.bind, if_neg htrailing,
    if_neg hleading, pure, Except.pure, Char.ofNat_toNat]

/-! ### Characters and strings -/

/-- A character is read back, however it is written, and the reading goes on behind it. -/
theorem stringFrom_escaped (c : Char) (cs : List Char) :
    stringFrom escape 0 (escaped c ++ cs) = (do
      let (more, rest) ← stringFrom escape 0 cs
      return (c :: more, rest)) := by
  rw [escaped]
  split_ifs with hquote hback hb ht hn hf hr hcontrol
  · rw [hquote]; rfl
  · rw [hback]; rfl
  · rw [hb]; rfl
  · rw [ht]; rfl
  · rw [hn]; rfl
  · rw [hf]; rfl
  · rw [hr]; rfl
  · simp only [List.cons_append, List.nil_append, stringFrom, escape_hexDigit hcontrol]
    rfl
  · rw [List.singleton_append, stringFrom, if_neg hcontrol]
    · exact hquote
    · exact hback

theorem stringFrom_written (s rest : List Char) :
    stringFrom escape 0 (s.flatMap escaped ++ '"' :: rest) = .ok (s, rest) := by
  induction s with
  | nil => rfl
  | cons c s ih =>
    rw [List.flatMap_cons, List.append_assoc, stringFrom_escaped, ih]
    rfl

/-- Behind its opening quote a written string is read as what was written. -/
theorem string_written (s : String) (rest : List Char) :
    string (s.toList.flatMap escaped ++ '"' :: rest) = .ok (s, rest) := by
  rw [string, stringFrom_written]
  exact congrArg (fun t => Except.ok (t, rest)) String.ofList_toList

end RelPlan.Json
