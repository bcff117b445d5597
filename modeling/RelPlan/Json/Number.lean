import RelPlan.Count
import RelPlan.Json.Reader

/-!
# Reading JSON numbers

A number that is written as a plain whole number and is in range is a count; any other number is
of no use but must still be a number, and one that can be held as a double-precision number.
-/

namespace RelPlan.Json

/-- A number as it is written. -/
structure Digits where
  /-- There is a minus sign. -/
  negative : Bool
  /-- The digits before the point. -/
  whole : List Char
  /-- The digits behind the point, if there is one. -/
  fraction : Option (List Char)
  /-- Whether the exponent is negative, and its digits, if there is one. -/
  exponent : Option (Bool × List Char)

/-! ### The form of a number -/

/-- One or more digits. `atEnd` is the fault of a text that ends instead. -/
def digits (atEnd : Fault) : Reader (List Char) := fun cs =>
  match cs.takeWhile Char.isDigit, cs with
  | [], [] => .error atEnd
  | [], _ :: _ => .error .malformed
  | ds, _ => .ok (ds, cs.dropWhile Char.isDigit)

/-- The digits before the point: a zero in front must be the only one. -/
def wholeDigits (atEnd : Fault) : Reader (List Char) := fun cs => do
  let (ds, rest) ← digits atEnd cs
  match ds with
  | '0' :: _ :: _ => .error .malformed
  | _ => return (ds, rest)

/-- A point and digits, or nothing. -/
def fractionDigits (atEnd : Fault) : Reader (Option (List Char)) := fun cs =>
  match cs with
  | '.' :: more => do
    let (ds, rest) ← digits atEnd more
    return (some ds, rest)
  | _ => .ok (none, cs)

/-- The sign of an exponent, and the text behind it. -/
def exponentSign (cs : List Char) : Bool × List Char :=
  match cs with
  | '-' :: rest => (true, rest)
  | '+' :: rest => (false, rest)
  | _ => (false, cs)

/-- An exponent, or nothing. -/
def exponentDigits (atEnd : Fault) : Reader (Option (Bool × List Char)) := fun cs =>
  match cs with
  | c :: more =>
    if c = 'e' ∨ c = 'E' then do
      let (negative, more) := exponentSign more
      let (ds, rest) ← digits atEnd more
      return (some (negative, ds), rest)
    else .ok (none, cs)
  | [] => .ok (none, cs)

/-- A minus sign, and the text behind it. -/
def minusSign (cs : List Char) : Bool × List Char :=
  match cs with
  | '-' :: rest => (true, rest)
  | _ => (false, cs)

/-- The digits of a number in front of a text. -/
def numberDigits (atEnd : Fault) : Reader Digits := fun cs => do
  let (negative, rest) := minusSign cs
  let (whole, rest) ← wholeDigits atEnd rest
  let (fraction, rest) ← fractionDigits atEnd rest
  let (exponent, rest) ← exponentDigits atEnd rest
  return (⟨negative, whole, fraction, exponent⟩, rest)

/-! ### The value of a number -/

/-- The value of a digit. -/
def digitValue (c : Char) : Nat := c.toNat - '0'.toNat

/-- The number `n` with digits put behind it as long as the result is in the range of counts, and
how many digits are left over. -/
def appendDigits : Nat → List Char → Nat × Nat
  | n, [] => (n, 0)
  | n, d :: ds =>
    if n * 10 + digitValue d ≤ countLimit then appendDigits (n * 10 + digitValue d) ds
    else (n, ds.length + 1)

/-- The value of digits without a bound. -/
def digitsValue (ds : List Char) : Nat := Nat.ofDigitChars 10 ds 0

/-- The decimal digits of a number have its value. -/
theorem digitsValue_toDigits (n : Nat) : digitsValue (Nat.toDigits 10 n) = n :=
  Nat.ofDigitChars_ten_toDigits

/-- The number `n` rounded to 53 binary digits, a tie going to the even neighbour. -/
def roundToDouble (n : Nat) : Nat :=
  let unit := Nat.pow 2 (n.log2 - 52)
  let down := n / unit
  let twiceRest := 2 * (n % unit)
  if twiceRest < unit ∨ (twiceRest = unit ∧ down % 2 = 0) then down * unit else (down + 1) * unit

/-- The least number that is rounded beyond the double-precision numbers. -/
def doubleOverflow : Nat := Nat.pow 2 1024 - Nat.pow 2 970

/-- The number `significand * 10 ^ exponent` cannot be held as a double-precision number, when the
factors are rounded before they are multiplied. -/
def TooLarge (significand : Nat) (exponent : Int) : Prop :=
  significand ≠ 0 ∧ 0 ≤ exponent ∧
    (308 < exponent ∨
      doubleOverflow ≤ roundToDouble significand * roundToDouble (Nat.pow 10 exponent.toNat))

instance (significand : Nat) (exponent : Int) : Decidable (TooLarge significand exponent) :=
  inferInstanceAs (Decidable (significand ≠ 0 ∧ 0 ≤ exponent ∧
    (308 < exponent ∨
      doubleOverflow ≤ roundToDouble significand * roundToDouble (Nat.pow 10 exponent.toNat))))

namespace Digits

/-- The leading digits as one number, and the power of ten it is to be multiplied by. Digits behind
the first that would take the number out of range count only as powers of ten. -/
def scientific (d : Digits) : Nat × Int :=
  let (n, dropped) := appendDigits 0 d.whole
  let (n, shift) :=
    match d.fraction with
    | none => (n, 0)
    | some ds =>
      let (m, left) := appendDigits n ds
      (m, ds.length - left)
  let exponent : Int :=
    match d.exponent with
    | none => 0
    | some (true, ds) => -(digitsValue ds : Int)
    | some (false, ds) => digitsValue ds
  (n, dropped - shift + exponent)

/-- The number is written as a whole number without a sign. -/
def isPlain (d : Digits) : Bool := ¬ d.negative ∧ d.fraction.isNone ∧ d.exponent.isNone

/-- The count that the digits spell, if they spell one; a number that is too large for the
double-precision numbers is malformed. -/
def count? (d : Digits) : Except Fault (Option Count) :=
  let (n, e) := d.scientific
  if TooLarge n e then .error .malformed
  else if d.isPlain then .ok (Count.ofNat? (digitsValue d.whole))
  else .ok none

end Digits

/-- A number, and the count it is, if it is one. -/
def number : Reader (Option Count) := fun cs => do
  let (d, rest) ← numberDigits .truncated cs
  let n ← d.count?
  return (n, rest)

/-- A number that is passed over, whatever its size. -/
def looseNumber : Reader Unit := fun cs => do
  let (_, rest) ← numberDigits .malformed cs
  return ((), rest)

end RelPlan.Json
