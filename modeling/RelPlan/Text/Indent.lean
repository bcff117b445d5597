/-!
# Indentation

Runs of spaces, for text that is aligned under other text.
-/

namespace RelPlan

/-- A run of `n` spaces. -/
def spaces (n : Nat) : String := String.ofList (List.replicate n ' ')

end RelPlan
