import RelPlan.Predicate

/-!
# Needed attributes

What must stay visible while a plan is put together: every attribute that a predicate still to be
applied names, and every attribute that a projection lists.
-/

namespace RelPlan

/-- The attributes that pending predicates and projections name, each name once, by first
occurrence: predicates come before projections. -/
def neededAttributes (projections : List (List Attribute)) (pending : List Predicate) :
    List Attribute :=
  firstByName (pending.flatMap Predicate.attributes ++ projections.flatten)

/-- A name is needed exactly when a pending predicate or a projection names it. -/
theorem mem_names_neededAttributes {projections : List (List Attribute)}
    {pending : List Predicate} {n : String} :
    n ∈ namesOf (neededAttributes projections pending) ↔
      (∃ p ∈ pending, n ∈ namesOf p.attributes) ∨ ∃ as ∈ projections, n ∈ namesOf as := by
  rw [neededAttributes, mem_namesOf_firstByName, namesOf_append, List.mem_append]
  refine or_congr ?_ ?_
  · simp only [namesOf, List.mem_map, List.mem_flatMap]
    grind
  · simp only [namesOf, List.mem_map, List.mem_flatten]
    grind

end RelPlan
