import RelPlan.Proofs.Plan.Contents

/-!
# Every node of a plan

`Plan.Everywhere P` says that `P` holds of every node of a tree, a node being taken with the tree
below it. `Plan.scanFilters` lists the base relations that are read, each with the predicates of the
selections directly above its scan. Both are followed through stacks of selections and projections.
-/

namespace RelPlan.Plan

/-! ### Properties of every node -/

/-- Every node of the tree, taken with what is below it, has the property. -/
def Everywhere (P : Plan → Prop) : Plan → Prop
  | scan r o => P (scan r o)
  | select p i o => P (select p i o) ∧ i.Everywhere P
  | project as i o => P (project as i o) ∧ i.Everywhere P
  | product l r o => P (product l r o) ∧ l.Everywhere P ∧ r.Everywhere P
  | join p l r o => P (join p l r o) ∧ l.Everywhere P ∧ r.Everywhere P

instance decidableEverywhere {P : Plan → Prop} [DecidablePred P] :
    (x : Plan) → Decidable (x.Everywhere P)
  | scan r o => inferInstanceAs (Decidable (P (scan r o)))
  | select p i o =>
    have := decidableEverywhere (P := P) i
    inferInstanceAs (Decidable (P (select p i o) ∧ i.Everywhere P))
  | project as i o =>
    have := decidableEverywhere (P := P) i
    inferInstanceAs (Decidable (P (project as i o) ∧ i.Everywhere P))
  | product l r o =>
    have := decidableEverywhere (P := P) l
    have := decidableEverywhere (P := P) r
    inferInstanceAs (Decidable (P (product l r o) ∧ l.Everywhere P ∧ r.Everywhere P))
  | join p l r o =>
    have := decidableEverywhere (P := P) l
    have := decidableEverywhere (P := P) r
    inferInstanceAs (Decidable (P (join p l r o) ∧ l.Everywhere P ∧ r.Everywhere P))

variable {P : Plan → Prop} {x : Plan}

theorem Everywhere.root (h : x.Everywhere P) : P x := by
  cases x with
  | scan => exact h
  | select => exact h.1
  | project => exact h.1
  | product => exact h.1
  | join => exact h.1

/-- Selections on top add nothing to a property that every one of them has. -/
theorem Everywhere.foldl_filtered {ps : List Predicate} (hP : ∀ p ∈ ps, ∀ i, P (filtered i p))
    (h : x.Everywhere P) : (ps.foldl filtered x).Everywhere P := by
  induction ps generalizing x with
  | nil => exact h
  | cons p ps ih =>
    rw [List.forall_mem_cons] at hP
    exact ih hP.2 ⟨hP.1 x, h⟩

/-- Projections on top add nothing to a property that every one of them has. -/
theorem Everywhere.foldl_narrowed {lists : List (List Attribute)}
    (hP : ∀ as ∈ lists, ∀ i, P (narrowed i as)) (h : x.Everywhere P) :
    (lists.foldl narrowed x).Everywhere P := by
  induction lists generalizing x with
  | nil => exact h
  | cons as lists ih =>
    rw [List.forall_mem_cons] at hP
    exact ih hP.2 ⟨hP.1 x, h⟩

/-- A property that does not depend on what the tree carries stays where the tree is cleared. -/
theorem Everywhere.clearOutputs (hP : ∀ x, P x → P x.clearOutputs) (h : x.Everywhere P) :
    x.clearOutputs.Everywhere P := by
  induction x with
  | scan => exact hP _ h
  | select _ _ _ ih => exact ⟨hP _ h.1, ih h.2⟩
  | project _ _ _ ih => exact ⟨hP _ h.1, ih h.2⟩
  | product _ _ _ ihl ihr => exact ⟨hP _ h.1, ihl h.2.1, ihr h.2.2⟩
  | join _ _ _ _ ihl ihr => exact ⟨hP _ h.1, ihl h.2.1, ihr h.2.2⟩

/-! ### Selections directly above scans -/

/-- The base relations from left to right, each with the predicates of the selections directly
above its scan, the lowest first. The predicates in `above` are those of selections directly above
the plan. -/
def filtersUnder : List Predicate → Plan → List (BaseRelation × List Predicate)
  | above, scan r _ => [(r, above)]
  | above, select p i _ => i.filtersUnder (p :: above)
  | _, project _ i _ => i.filtersUnder []
  | _, product l r _ => l.filtersUnder [] ++ r.filtersUnder []
  | _, join _ l r _ => l.filtersUnder [] ++ r.filtersUnder []

/-- The base relations from left to right, each with the predicates of the unbroken chain of
selections directly above its scan, the lowest first. -/
def scanFilters (p : Plan) : List (BaseRelation × List Predicate) := p.filtersUnder []

theorem filtersUnder_foldl_filtered (above ps : List Predicate) (x : Plan) :
    (ps.foldl filtered x).filtersUnder above = x.filtersUnder (ps ++ above) := by
  induction ps generalizing x with
  | nil => rfl
  | cons p ps ih => exact ih (x.filtered p)

@[simp] theorem scanFilters_foldl_narrowed (lists : List (List Attribute)) (x : Plan) :
    (lists.foldl narrowed x).scanFilters = x.scanFilters := by
  induction lists generalizing x with
  | nil => rfl
  | cons as lists ih => exact ih (x.narrowed as)

end RelPlan.Plan
