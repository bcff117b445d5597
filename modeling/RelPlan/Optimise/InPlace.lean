import RelPlan.Optimise.Rearrangement

/-!
# Rearranging with estimates in place

`Plan.optimise` estimates plans aside. The optimiser that runs, `Plan.optimiseInPlace`, estimates
them in place: what it narrows, combines and rearranges carries the estimates it was costed by. Old
estimates are removed from an input before it is narrowed, from the plan a step commits to, and
from the plan that is returned.
-/

namespace RelPlan

namespace Situation

/-- The input, estimated anew, and narrowed if that drops an attribute; with the relation estimated
for it. -/
def narrowInPlace (s : Situation) (input : Plan) : Logged (Plan × Relation) := do
  let (side, schema) ← input.clearOutputs.annotated
  match s.retained? schema with
  | none => return (side, schema)
  | some kept => (side.narrowed kept).annotated

/-- The candidate that combines two inputs; its plan carries the estimates it is costed by. -/
def candidateInPlace (s : Situation) (left right : Plan) : Logged Candidate := do
  let (left, leftSchema) ← s.narrowInPlace left
  let (right, rightSchema) ← s.narrowInPlace right
  let placement := place leftSchema rightSchema s.pending
  let (plan, output) ← (placement.combine left right).annotated
  Logged.report (.costed plan output.tuples)
  return ⟨plan, output.tuples, placement.applied⟩

end Situation

namespace Search

/-- The first of the cheapest choices, with its candidate; every choice is costed in place. -/
def cheapestInPlace (situation : Situation) (choices : List Choice) :
    Logged (Option (Candidate × Choice)) :=
  choices.foldlM (fun best choice => do
    let candidate ← situation.candidateInPlace choice.left choice.right
    return if candidate.Beats (best.map Prod.fst) then some (candidate, choice) else best) none

/-- Take step number `k`. The plan committed to is reported with its estimates, and goes on without
them. -/
def stepInPlace (options : Options) (projections : List (List Attribute)) (s : Search) (k : Nat) :
    Logged Search := do
  match ← cheapestInPlace (s.situation options projections) s.choices with
  | none => Logged.fail .emptyPlan
  | some (best, choice) =>
    Logged.report (.committed k best.plan best.cost)
    return {
      combined := some best.plan.clearOutputs
      pool := eraseAll choice.used s.pool
      pending := eraseAll best.applied s.pending }

/-- Take `n` steps, numbered from `1`. -/
def stepsInPlace (options : Options) (projections : List (List Attribute)) (n : Nat) (s : Search) :
    Logged Search :=
  (List.range n).foldlM (fun s k => s.stepInPlace options projections (k + 1)) s

end Search

/-- The rearranged plan with its estimates, and its cost. -/
def Parts.rearrangeInPlace (parts : Parts) (options : Options)
    (projections : List (List Attribute)) : Logged (Plan × Count) := do
  let start ← Search.start options parts.scans parts.predicates
  let final ← start.stepsInPlace options projections parts.products
  match final.plan? with
  | none => Logged.fail .emptyPlan
  | some plan =>
    let filtered ← stackUnplaced plan final.pending
    let (whole, output) ← (projections.foldl Plan.narrowed filtered).annotated
    Logged.report (.rearranged whole output.tuples)
    return (whole, output.tuples)

/-- The plan rearranged for a lower estimated cost. The plan as given and the rearranged one are
compared with their estimates in place; the one that is returned loses them. -/
def Plan.optimiseInPlace (options : Options) (plan : Plan) : Logged Plan := do
  let (original, output) ← plan.clearOutputs.annotated
  let parts := plan.parts
  let (rearranged, cost) ← parts.rearrangeInPlace options (parts.outerProjections output)
  if output.tuples < cost then
    Logged.report (.kept original output.tuples cost)
    return original.clearOutputs
  else
    return rearranged.clearOutputs

end RelPlan
