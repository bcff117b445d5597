import RelPlan.Optimise.InPlace
import RelPlan.Plan.Tree
import RelPlan.Query.Canonical
import RelPlan.Query.Parser

/-!
# Explaining a query

A query is explained by its canonical plan and the optimised one, both with estimates.
-/

namespace RelPlan

/-- The two plans of a query, with estimates. -/
structure Explanation where
  /-- The plan the query spells out. -/
  canonical : Plan
  /-- The plan rearranged for a lower estimated cost. -/
  optimised : Plan

namespace Explanation

/-- The tuple count estimated for a plan; nothing counts as zero. -/
def costOf (p : Plan) : Count := (p.output.map Relation.tuples).getD 0

/-- The cost of the canonical plan. -/
def canonicalCost (e : Explanation) : Count := costOf e.canonical

/-- The cost of the optimised plan. -/
def optimisedCost (e : Explanation) : Count := costOf e.optimised

/-- Both plans in indented form, with a ruled line between them. -/
def render (indent : Nat) (e : Explanation) : String :=
  e.canonical.render indent ++ String.ofList (List.replicate 40 '-') ++ "\n"
    ++ e.optimised.render indent

end Explanation

namespace Query

/-- The canonical plan of the query that a text spells out. -/
def canonicalPlanOf (c : Catalogue) (text : String) : Logged Plan := do
  let q ← Logged.ofExcept (parse text)
  q.canonicalPlan c

/-- Explain the query that a text spells out. -/
def explain (c : Catalogue) (options : Options) (text : String) : Logged Explanation := do
  let plan ← canonicalPlanOf c text
  let rearranged ← plan.optimiseInPlace options
  let (canonical, _) ← plan.annotated
  let (optimised, _) ← rearranged.annotated
  let e : Explanation := ⟨canonical, optimised⟩
  Logged.report <|
    .explained e.canonicalCost e.optimisedCost optimised.scans.length canonical.depth
      optimised.depth
  if ¬ optimised.containsJoin ∧ 1 < optimised.scans.length then
    Logged.report .productsKept
  return e

end Query

end RelPlan
