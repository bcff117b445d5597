import RelPlan.Optimise.Parts
import RelPlan.Optimise.Search

/-!
# Rearranging a plan

`Plan.optimise` takes a plan apart, puts selections on the scans they concern, searches for a
join order, and puts the projections back on top. The rearranged plan is used unless it is
estimated to cost more than the plan as given. Plans are estimated aside: what is rearranged, and
the result, carries no estimates. `Plan.optimiseInPlace` does the same with estimates in place.
-/

namespace RelPlan

/-! ### Selections on scans -/

/-- Stack predicates on a plan, reporting each before it is placed. -/
def pushAll (plan : Plan) (predicates : List Predicate) : Logged Plan :=
  predicates.foldlM (fun plan p => do
    Logged.report (.pushed p plan)
    return plan.filtered p) plan

/-- The search before its first step: every base relation is scanned, under the predicates it can
evaluate alone if selections are pushed; the other predicates are pending. -/
def Search.start (options : Options) (scans : List BaseRelation) (predicates : List Predicate) :
    Logged Search := do
  if options.pushSelections then
    let pool ← scans.mapM fun r =>
      pushAll (.read r) (predicates.filter fun p => p.Within r.relation)
    return {
      combined := none
      pool := pool
      pending := predicates.filter fun p => ¬ ∃ r ∈ scans, p.Within r.relation }
  else
    return { combined := none, pool := scans.map Plan.read, pending := predicates }

/-- Stack the predicates the search has left over on top of a plan. -/
def stackUnplaced (plan : Plan) (predicates : List Predicate) : Logged Plan :=
  predicates.foldlM (fun plan p => do
    Logged.report (.unplaced p)
    return plan.filtered p) plan

/-! ### The whole plan -/

/-- The projections to put back on top. If a plan projects only below its products and joins, the
attributes it puts out take their place. -/
def Parts.outerProjections (parts : Parts) (output : Relation) : List (List Attribute) :=
  if parts.projections.isEmpty ∧ 0 < parts.innerProjections then [output.attributes]
  else parts.projections

/-- The rearranged plan and its cost. -/
def Parts.rearrange (parts : Parts) (options : Options) (projections : List (List Attribute)) :
    Logged (Plan × Count) := do
  let start ← Search.start options parts.scans parts.predicates
  let final ← start.steps options projections parts.products
  match final.plan? with
  | none => Logged.fail .emptyPlan
  | some plan =>
    let filtered ← stackUnplaced plan final.pending
    let whole := projections.foldl Plan.narrowed filtered
    let output ← whole.estimated
    Logged.report (.rearranged whole output.tuples)
    return (whole, output.tuples)

/-- The plan rearranged for a lower estimated cost. -/
def Plan.optimise (options : Options) (plan : Plan) : Logged Plan := do
  let given := plan.clearOutputs
  let output ← given.estimated
  let parts := plan.parts
  let (rearranged, cost) ← parts.rearrange options (parts.outerProjections output)
  if output.tuples < cost then
    Logged.report (.kept given output.tuples cost)
    return given
  else
    return rearranged

end RelPlan
