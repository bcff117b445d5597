import RelPlan.Plan.Basic

/-!
# The compact form of a plan

A plan on one line: each operator with its argument in brackets, and its inputs in parentheses.
Estimates and statistics are not shown.
-/

namespace RelPlan.Plan

/-- The operator at the root with its argument: `SCAN [R]`, `SELECT [a=b]`, `PROJECT [a,b]`,
`PRODUCT` or `JOIN [a=b]`. -/
def headline : Plan → String
  | scan r _ => "SCAN [" ++ r.name ++ "]"
  | select p _ _ => "SELECT [" ++ p.text ++ "]"
  | project as _ _ => "PROJECT [" ++ ",".intercalate (namesOf as) ++ "]"
  | product _ _ _ => "PRODUCT"
  | join p _ _ _ => "JOIN [" ++ p.text ++ "]"

/-- The compact form: the headline, then the inputs in parentheses. -/
def compact : Plan → String
  | scan r o => (scan r o).headline
  | select p i o => (select p i o).headline ++ " (" ++ i.compact ++ ")"
  | project as i o => (project as i o).headline ++ " (" ++ i.compact ++ ")"
  | product l r o => (product l r o).headline ++ " (" ++ l.compact ++ "," ++ r.compact ++ ")"
  | join p l r o => (join p l r o).headline ++ " (" ++ l.compact ++ "," ++ r.compact ++ ")"

instance : ToString Plan := ⟨compact⟩

/-- The compact form does not show estimates. -/
theorem compact_clearOutputs (p : Plan) : p.clearOutputs.compact = p.compact := by
  induction p <;> simp_all [clearOutputs, compact, headline]

end RelPlan.Plan
