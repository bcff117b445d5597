import RelPlan.Proofs.Optimise.Assembly

/-!
# What an optimised plan costs

Here nothing is assumed of the plan that is optimised: base relations may share attribute names, a
value count may be zero, nodes may carry old estimates. A step of the search may then fail, and
what is known is what its success tells. A step takes the candidate of one of its choices
(`Search.exists_candidate_of_step`), so what holds of the inputs of every candidate and of its plan
holds of the plans at hand throughout a run (`Search.forall_mem_of_run`). The result of optimising
can be estimated, and does not cost more than the plan as given
(`Plan.exists_outcome_le_of_optimise`).
-/

namespace RelPlan

/-! ### Candidates -/

namespace Situation

variable {s : Situation}

/-- What is narrowed is the input itself, or the input under one projection. -/
theorem narrow_cases {x y : Plan} {r : Relation} (h : (s.narrow x).result = .ok (y, r)) :
    y = x ∨ ∃ kept, y = x.narrowed kept := by
  rw [narrow, Logged.result_bind_eq_ok_iff] at h
  obtain ⟨schema, -, h⟩ := h
  split at h
  · cases h
    exact Or.inl rfl
  · next kept _ =>
    rw [Logged.result_bind_eq_ok_iff] at h
    obtain ⟨_, -, h⟩ := h
    cases h
    exact Or.inr ⟨kept, rfl⟩

/-- A candidate is a combination of its narrowed inputs, and costs what that is estimated at. -/
theorem candidate_eq_ok {l r : Plan} {c : Candidate} (h : (s.candidate l r).result = .ok c) :
    ∃ l' ls r' rs output, (s.narrow l).result = .ok (l', ls) ∧ (s.narrow r).result = .ok (r', rs) ∧
      c.plan = (place ls rs s.pending).combine l' r' ∧ c.applied = (place ls rs s.pending).applied ∧
      c.plan.estimated.result = .ok output ∧ c.cost = output.tuples := by
  rw [candidate, Logged.result_bind_eq_ok_iff] at h
  obtain ⟨⟨l', ls⟩, hl, h⟩ := h
  rw [Logged.result_bind_eq_ok_iff] at h
  obtain ⟨⟨r', rs⟩, hr, h⟩ := h
  rw [Logged.result_bind_eq_ok_iff] at h
  obtain ⟨output, ho, h⟩ := h
  cases h
  exact ⟨l', ls, r', rs, output, hl, hr, rfl, rfl, ho, rfl⟩

end Situation

/-! ### Steps and runs -/

namespace Search

variable {s t : Search} {options : Options} {projections : List (List Attribute)}

/-- The cheapest choice is one of the choices, and comes with its candidate. -/
theorem mem_of_cheapest {σ : Situation} {choices : List Choice} {best : Candidate} {c : Choice}
    (h : (cheapest σ choices).result = .ok (some (best, c))) :
    c ∈ choices ∧ (σ.candidate c.left c.right).result = .ok best := by
  rw [cheapest, Logged.result_foldlM] at h
  refine of_foldlM_eq_ok (P := fun o => ∀ best c, o = some (best, c) →
    c ∈ choices ∧ (σ.candidate c.left c.right).result = .ok best) ?_ ?_ h best c rfl
  · intro best c hc
    cases hc
  · intro o ho choice hm o' h' best c hc
    rw [Logged.result_bind_eq_ok_iff] at h'
    obtain ⟨candidate, hcand, h'⟩ := h'
    cases h'
    split at hc
    · cases hc
      exact ⟨hm, hcand⟩
    · exact ho best c hc

/-- A step that succeeds takes the cheapest choice. -/
theorem exists_cheapest_of_step {k : Nat} (h : (s.step options projections k).result = .ok t) :
    ∃ best c, (cheapest (s.situation options projections) s.choices).result =
        .ok (some (best, c)) ∧
      t = ⟨some best.plan, eraseAll c.used s.pool, eraseAll best.applied s.pending⟩ := by
  rw [step, Logged.result_bind_eq_ok_iff] at h
  obtain ⟨o, ho, h⟩ := h
  cases o with
  | none => cases h
  | some chosen =>
    obtain ⟨best, c⟩ := chosen
    cases h
    exact ⟨best, c, ho, rfl⟩

/-- A step that succeeds takes the candidate of a choice. -/
theorem exists_candidate_of_step {k : Nat} (h : (s.step options projections k).result = .ok t) :
    ∃ c ∈ s.choices, ∃ best,
      ((s.situation options projections).candidate c.left c.right).result = .ok best ∧
      t = ⟨some best.plan, eraseAll c.used s.pool, eraseAll best.applied s.pending⟩ := by
  obtain ⟨best, c, hcheapest, ht⟩ := exists_cheapest_of_step h
  obtain ⟨hc, hbest⟩ := mem_of_cheapest hcheapest
  exact ⟨c, hc, best, hbest, ht⟩

/-- **Step**: what holds of the plans at hand, and of a candidate if it holds of its inputs, holds
of the plans at hand after a step. -/
theorem forall_mem_of_step {P : Plan → Prop}
    (hP : ∀ {σ : Situation} {l r : Plan} {c : Candidate}, P l → P r →
      (σ.candidate l r).result = .ok c → P c.plan)
    (hs : ∀ x ∈ s.plans, P x) {k : Nat} (h : (s.step options projections k).result = .ok t) :
    ∀ x ∈ t.plans, P x := by
  obtain ⟨c, hc, best, hbest, rfl⟩ := exists_candidate_of_step h
  have hperm := plans_perm_of_mem_choices hc
  intro x hx
  rcases List.mem_cons.1 hx with rfl | hx
  · exact hP (hs _ (Sound.left_mem hc)) (hs _ (Sound.right_mem hc)) hbest
  · exact hs x (hperm.mem_iff.2 (List.mem_cons_of_mem _ (List.mem_cons_of_mem _ hx)))

/-- **Run**: it then holds of the plans at hand at the end of a run as well. -/
theorem forall_mem_of_run {P : Plan → Prop}
    (hP : ∀ {σ : Situation} {l r : Plan} {c : Candidate}, P l → P r →
      (σ.candidate l r).result = .ok c → P c.plan)
    (hs : ∀ x ∈ s.plans, P x) {n : Nat} (h : run options projections n s = .ok t) :
    ∀ x ∈ t.plans, P x := by
  induction n generalizing s with
  | zero =>
    cases h
    exact hs
  | succ n ih =>
    rw [run, bind_eq_ok_iff] at h
    obtain ⟨u, hu, h⟩ := h
    exact ih (forall_mem_of_step hP hs hu) h

/-- The plan that a search came to is at hand. -/
theorem mem_plans_of_plan? {x : Plan} (h : s.plan? = some x) : x ∈ s.plans := by
  obtain ⟨combined, pool, pending⟩ := s
  cases combined with
  | none => exact List.mem_of_mem_head? h
  | some y =>
    cases h
    exact List.mem_cons_self

end Search

/-! ### The whole plan -/

/-- A rearranged plan is what a run of the search came to, completed; its cost is its estimated
tuple count. -/
theorem Parts.rearrange_eq_ok {parts : Parts} {options : Options}
    {projections : List (List Attribute)} {w : Plan} {cost : Count}
    (h : (parts.rearrange options projections).result = .ok (w, cost)) :
    ∃ t x r, Search.run options projections parts.products
        (.initial options parts.scans parts.predicates) = .ok t ∧
      t.plan? = some x ∧ w = t.whole projections x ∧
      w.estimated.result = .ok r ∧ cost = r.tuples := by
  rw [rearrange, Logged.result_bind_eq_ok_iff] at h
  obtain ⟨start, hstart, h⟩ := h
  rw [Search.result_start] at hstart
  cases hstart
  rw [Logged.result_bind_eq_ok_iff] at h
  obtain ⟨t, ht, h⟩ := h
  rw [Search.result_steps] at ht
  cases hx : t.plan? with
  | none =>
    rw [hx] at h
    cases h
  | some x =>
    rw [hx] at h
    dsimp only at h
    rw [Logged.result_bind_eq_ok_iff] at h
    obtain ⟨filtered, hf, h⟩ := h
    rw [result_stackUnplaced] at hf
    cases hf
    rw [Logged.result_bind_eq_ok_iff] at h
    obtain ⟨r, hr, h⟩ := h
    cases h
    exact ⟨t, x, r, ht, hx, rfl, hr, rfl⟩

namespace Plan

variable {p q : Plan} {options : Options}

/-- The result of optimising: the rearranged plan, or the plan as given if that costs less. -/
theorem optimise_eq_ok (h : (p.optimise options).result = .ok q) :
    ∃ r w cost, p.estimated.result = .ok r ∧
      (p.parts.rearrange options (p.parts.outerProjections r)).result = .ok (w, cost) ∧
      q = if r.tuples < cost then p.clearOutputs else w := by
  rw [optimise, Logged.result_bind_eq_ok_iff] at h
  obtain ⟨r, hr, h⟩ := h
  rw [Logged.result_bind_eq_ok_iff] at h
  obtain ⟨⟨w, cost⟩, hw, h⟩ := h
  refine ⟨r, w, cost, ?_, hw, ?_⟩
  · rw [estimated, Estimation.result_logged, outcome_clearOutputs] at hr
    exact hr
  · dsimp only at h
    split_ifs at h ⊢ with hc
    · cases h
      rfl
    · cases h
      rfl

/-- What a plan is optimised to can be estimated as well as the plan, and at no more tuples. -/
theorem exists_outcome_le_of_optimise (h : (p.optimise options).result = .ok q) :
    ∃ r s, p.estimate.outcome = .ok r ∧ q.estimate.outcome = .ok s ∧ s.tuples ≤ r.tuples := by
  obtain ⟨r, w, cost, hr, hw, hq⟩ := optimise_eq_ok h
  obtain ⟨-, -, s, -, -, -, hs, rfl⟩ := Parts.rearrange_eq_ok hw
  split_ifs at hq with hc
  · subst hq
    exact ⟨r, r, hr, p.outcome_clearOutputs.trans hr, Nat.le_refl _⟩
  · subst hq
    exact ⟨r, s, hr, hs, Nat.le_of_not_lt hc⟩

/-! ### A plan with shared names, old estimates and a count of no values -/

/-- As many readings as can be counted; no sensor has a value. -/
def readings : BaseRelation :=
  ⟨"readings", ⟨.clamp countLimit, [⟨"id", .clamp 5⟩, ⟨"sensor", 0⟩]⟩⟩

/-- Where the sensors are; they have an attribute name in common with the readings. -/
def sensors : BaseRelation := ⟨"sensors", ⟨.clamp 12, [⟨"id", .clamp 3⟩, ⟨"place", .clamp 7⟩]⟩⟩

/-- Readings by place, with old estimates at some nodes. -/
def readingsByPlace : Plan :=
  project [⟨"id", 1⟩] (select (.equality ⟨"sensor", 0⟩ ⟨"place", 1⟩)
    (product (read readings) (scan sensors (some ⟨1, []⟩)) (some ⟨0, []⟩))
    none) (some ⟨0, [⟨"id", 0⟩]⟩)

/-- The sensors joined to the readings. -/
def readingsJoined : Plan :=
  ((read readings).joined (read sensors) (.equality ⟨"sensor", 0⟩ ⟨"place", 1⟩)).narrowed
    [⟨"id", 1⟩]

end Plan

end RelPlan
