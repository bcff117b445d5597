import RelPlan.Pattern.Automaton
import RelPlan.Pattern.Meaning

/-!
# Limits of patterns

A pattern can be matched only if it is not nested too deep, and if neither of the two automata that
match what it means is too large.
-/

namespace RelPlan

/-! ### Nesting -/

mutual

/-- How deep a set is nested in itself. -/
def CharSet.depth : CharSet → Nat
  | .character _ => 0
  | .range _ _ => 0
  | .named _ _ => 0
  | .bracketed members _ => members.depth + 1
  | .union [] => 0
  | .union (part :: parts) => max part.depth (CharSet.depthOfAll parts) + 1
  | .combined _ left right => max left.depth right.depth + 1

/-- The depth of the deepest of some sets. -/
def CharSet.depthOfAll : List CharSet → Nat
  | [] => 0
  | part :: parts => max part.depth (CharSet.depthOfAll parts)

end

namespace Pattern

mutual

/-- How deep a pattern is nested. -/
def depth : Pattern → Nat
  | empty => 0
  | atom _ => 0
  | set members _ => members.depth + 1
  | flags _ => 0
  | group _ inner => inner.depth + 1
  | repeated _ inner => inner.depth + 1
  | concatenation parts => depthOfAll parts + 1
  | alternatives choices => depthOfAll choices + 1

/-- The depth of the deepest of some patterns. -/
def depthOfAll : List Pattern → Nat
  | [] => 0
  | part :: parts => max part.depth (depthOfAll parts)

end

/-- The deepest nesting of a pattern that can be matched. -/
def depthLimit : Nat := 250

/-! ### Size -/

/-- The largest size of an automaton. -/
def sizeLimit : Nat := 10485760

/-- The pattern keeps to the limits. -/
def WithinLimits (p : Pattern) : Prop :=
  p.depth ≤ depthLimit ∧
    p.expression.searchSize .forwards ≤ sizeLimit ∧ p.expression.searchSize .backwards ≤ sizeLimit

instance (p : Pattern) : Decidable p.WithinLimits :=
  inferInstanceAs (Decidable (_ ≤ _ ∧ _ ≤ _ ∧ _ ≤ _))

end Pattern

end RelPlan
