/-!
# Faults of JSON texts

A text is read from left to right, and the first fault met decides.
-/

namespace RelPlan.Json

/-- Why a text cannot be read as a value. -/
inductive Fault where
  /-- The text breaks the rules of JSON. -/
  | malformed
  /-- The text ends too early. -/
  | truncated
  /-- The text is JSON so far, but not of the kind that is wanted. -/
  | mistyped
  deriving DecidableEq

end RelPlan.Json
