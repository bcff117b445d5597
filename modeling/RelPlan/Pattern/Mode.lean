import RelPlan.Pattern.Basic
import RelPlan.Text.Whitespace

/-!
# Modes

The flags that are turned on at some place of a pattern make up a mode. Two of them matter when the
text of the pattern is read. If a pattern is spaced, white space and comments may stand almost
anywhere in it; a comment goes from `#` to the end of its line. Without Unicode, what could stand
for a part of a character is refused.
-/

namespace RelPlan

namespace Pattern

/-- Takes an `α` from the front of a text, or refuses the text. -/
abbrev Reader (α : Type) := List Char → Option (α × List Char)

/-- How a pattern is read and matched. -/
structure Mode where
  /-- The flags that are turned on. -/
  flags : List Flag := [.unicode]
  deriving DecidableEq

namespace Mode

/-- A flag is turned on. -/
def has (m : Mode) (f : Flag) : Bool := m.flags.contains f

/-- White space and comments count for nothing. -/
def spaced (m : Mode) : Bool := m.has .spaced

/-- Characters and classes are those of Unicode. -/
def unicode (m : Mode) : Bool := m.has .unicode

/-- The mode with a flag turned on or off. -/
def change (m : Mode) (c : FlagChange) : Mode :=
  if c.turnedOn then ⟨c.flag :: m.flags⟩ else ⟨m.flags.filter (· ≠ c.flag)⟩

/-- The mode with several flags turned on or off. -/
def changeAll (m : Mode) (changes : List FlagChange) : Mode := changes.foldl change m

/-! ### White space and comments -/

/-- The text without the white space and comments in front, begun inside of a comment or not. -/
def skipSpace : Bool → List Char → List Char
  | _, [] => []
  | true, c :: cs => skipSpace (c ≠ '\n') cs
  | false, c :: cs =>
    if isWhitespace c then skipSpace false cs
    else if c = '#' then skipSpace true cs
    else c :: cs

/-- The text from where reading goes on. -/
def skip (m : Mode) (cs : List Char) : List Char := if m.spaced then skipSpace false cs else cs

theorem length_skipSpace_le (comment : Bool) (cs : List Char) :
    (skipSpace comment cs).length ≤ cs.length := by
  induction cs generalizing comment with
  | nil => cases comment <;> simp [skipSpace]
  | cons c cs ih =>
    cases comment with
    | true => exact Nat.le_succ_of_le (ih _)
    | false =>
      rw [skipSpace]
      split
      · exact Nat.le_succ_of_le (ih _)
      · split
        · exact Nat.le_succ_of_le (ih _)
        · exact Nat.le_refl _

/-- Skipping does not make a text longer. -/
theorem length_skip_le (m : Mode) (cs : List Char) : (m.skip cs).length ≤ cs.length := by
  unfold skip
  split
  · exact length_skipSpace_le false cs
  · exact Nat.le_refl _

/-! ### Runs of characters -/

/-- The characters in front that satisfy `p`, and the text behind them. -/
def span (m : Mode) (p : Char → Bool) : List Char → List Char × List Char
  | [] => ([], [])
  | c :: cs =>
    if p c then
      let (run, rest) := m.span p (m.skip cs)
      (c :: run, rest)
    else ([], c :: cs)
termination_by cs => cs.length
decreasing_by exact Nat.lt_succ_of_le (m.length_skip_le cs)

/-- The first characters, as many as wanted, which must satisfy `p`. -/
def take (m : Mode) (p : Char → Bool) : Nat → Reader (List Char)
  | 0, cs => some ([], cs)
  | _ + 1, [] => none
  | n + 1, c :: cs => do
    guard (p c)
    let (run, rest) ← m.take p n (m.skip cs)
    return (c :: run, rest)

/-- The characters up to a closing brace, which must satisfy `p`. The text goes on directly behind
the brace. -/
def braced (m : Mode) (p : Char → Bool) : Reader (List Char) := fun cs =>
  match m.span (fun c => c ≠ '}' ∧ p c) (m.skip cs) with
  | (run, '}' :: rest) => some (run, rest)
  | _ => none

end Mode

end Pattern

/-- The mode inside of a group. -/
def Grouping.modeInside (m : Pattern.Mode) : Grouping → Pattern.Mode
  | flagged changes => m.changeAll changes
  | _ => m

end RelPlan
