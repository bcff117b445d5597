import RelPlan.Proofs.Optimise.Assembly
import RelPlan.Proofs.Plan.Nodes

/-!
# The names that projections list

Unless the plan is returned as given, optimising leaves projections that list only names which the
predicates of the plan or its outermost projections name (`Plan.optimise_lists`): an input is
narrowed to what is needed at that point, and nothing becomes needed on the way. So whatever holds
of these names holds of every name that the result lists.
-/

namespace RelPlan

/-- If the root is a projection, every name that it lists has the property. -/
def Plan.Lists (P : String → Prop) : Plan → Prop
  | .project as _ _ => ∀ n ∈ namesOf as, P n
  | _ => True

variable {P : String → Prop}

theorem Plan.Unnarrowed.everywhere_lists {x : Plan} (h : x.Unnarrowed) :
    x.Everywhere (Plan.Lists P) := by
  induction x with
  | scan => trivial
  | select _ _ _ ih => exact ⟨trivial, ih h⟩
  | project => exact h.elim
  | product _ _ _ ihl ihr => exact ⟨trivial, ihl h.1, ihr h.2⟩
  | join _ _ _ _ ihl ihr => exact ⟨trivial, ihl h.1, ihr h.2⟩

theorem Plan.Everywhere.of_mem_projections {x : Plan} (h : x.Everywhere (Plan.Lists P)) :
    ∀ as ∈ x.projections, ∀ n ∈ namesOf as, P n := by
  induction x with
  | scan => exact List.forall_mem_nil _
  | select _ _ _ ih => exact ih h.2
  | project as i o ih =>
    rw [projections, List.forall_mem_append, List.forall_mem_singleton]
    exact ⟨ih h.2, h.1⟩
  | product => exact List.forall_mem_nil _
  | join => exact List.forall_mem_nil _

namespace Situation

variable {σ : Situation} {l r x : Plan}

theorem lists_side (hσ : ∀ needed, σ.needed? = some needed → ∀ n ∈ namesOf needed, P n)
    (h : x.Everywhere (Plan.Lists P)) : (σ.side x).Everywhere (Plan.Lists P) := by
  refine σ.side_cases h fun needed hneeded => ⟨?_, h⟩
  intro n hn
  rw [Estimate.namesOf_filter (· ∈ namesOf needed), List.mem_filter, decide_eq_true_eq] at hn
  exact hσ needed hneeded n hn.2

theorem lists_combination (hσ : ∀ needed, σ.needed? = some needed → ∀ n ∈ namesOf needed, P n)
    (hl : l.Everywhere (Plan.Lists P)) (hr : r.Everywhere (Plan.Lists P)) :
    (σ.combination l r).Everywhere (Plan.Lists P) := by
  rw [combination, Placement.combine_eq]
  refine Plan.Everywhere.foldl_filtered (fun _ _ _ => trivial) ?_
  rw [Placement.core]
  cases (σ.placement l r).joinOn <;> exact ⟨trivial, lists_side hσ hl, lists_side hσ hr⟩

end Situation

namespace Search

variable {s t : Search} {projections : List (List Attribute)} {options : Options} {c : Choice}
  {x : Plan}

/-- What holds at every point of a search if the names that are needed at its start have the
property. -/
structure Lists (P : String → Prop) (projections : List (List Attribute)) (s : Search) : Prop where
  /-- The projections at hand list names with the property. -/
  plans : ∀ x ∈ s.plans, x.Everywhere (Plan.Lists P)
  /-- The names that are still needed have the property. -/
  needed : ∀ n, s.Needs projections n → P n

/-- At the start there are no projections at hand. -/
theorem Lists.initial {scans : List BaseRelation} {ps : List Predicate}
    (h : ∀ n ∈ namesOf (neededAttributes projections ps), P n) :
    (initial options scans ps).Lists P projections where
  plans x hx := (unnarrowed_initial x hx).everywhere_lists
  needed := by
    intro n hn
    refine h n (mem_names_neededAttributes.2 ?_)
    exact (needs_iff.1 hn).imp_left fun ⟨p, hp, hn⟩ => ⟨p, mem_of_mem_pending_initial hp, hn⟩

/-- **Step**: taking a choice narrows inputs to names that are needed. -/
theorem Lists.after (h : s.Lists P projections) (hc : c ∈ s.choices) :
    (s.after (s.situation options projections) c).Lists P projections where
  plans := by
    have hσ : ∀ needed, (s.situation options projections).needed? = some needed →
        ∀ n ∈ namesOf needed, P n := by
      intro needed hneeded n hn
      rw [needed?_situation_eq_some hneeded] at hn
      exact h.needed n hn
    refine Sound.forall_mem_after hc h.plans ?_
    exact Situation.lists_combination hσ (h.plans _ (Sound.left_mem hc))
      (h.plans _ (Sound.right_mem hc))
  needed n hn := h.needed n (Needs.of_after rfl hn)

theorem Lists.whole (h : s.Lists P projections) (hx : x ∈ s.plans) :
    (s.whole projections x).Everywhere (Plan.Lists P) := by
  refine Plan.Everywhere.foldl_narrowed ?_
    (Plan.Everywhere.foldl_filtered (fun _ _ _ => trivial) (h.plans x hx))
  intro as has _ n hn
  exact h.needed n (needs_iff.2 (Or.inr ⟨as, has, hn⟩))

end Search

namespace Plan

variable {p q : Plan} {options : Options}

/-- A plan over distinct names is returned as given, without estimates, or rearranged; then what
holds of all names in the predicates and the outermost projections of the plan as given holds of all
names that the projections of the result list. -/
theorem optimise_lists (hd : p.Distinct) (h : (p.optimise options).result = .ok q)
    (hP : ∀ n ∈ namesOf (neededAttributes p.outermost p.predicates), P n) :
    q = p.clearOutputs ∨ q.Everywhere (Lists P) := by
  obtain ⟨hp, t, x, hrun, -, hx, -, ⟨-, rfl⟩ | ⟨-, rfl⟩⟩ := hd.optimise_cases h
  · exact Or.inl rfl
  · have hlists : t.Lists P p.outermost :=
      (hp.sound_search hd options).of_run (fun hs _ hc => hs.after hc) (.initial hP)
        (length_plans_search options p) hrun
    exact Or.inr (hlists.whole (hx ▸ List.mem_singleton_self x))

end Plan

end RelPlan
