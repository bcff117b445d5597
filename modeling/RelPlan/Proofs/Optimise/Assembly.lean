import RelPlan.Proofs.Optimise.Start

/-!
# The rearranged plan

A run of the search over the parts of a resolved plan ends with one plan, and the leftover
predicates and the projections fit on top of it (`Search.Provided.resolved_whole`). Over distinct
names the result does the work of the plan that was taken apart (`Search.Sound.rearranges`), as
`Plan.Rearranges` says: it reads the same base relations, applies the same predicates and shows the
same names. What `Plan.optimise` returns is either that plan or the plan as given
(`Plan.Distinct.optimise_cases`).
-/

namespace RelPlan

/-! ### What the search came to -/

/-- A search with one plan at hand has come to that plan. -/
theorem Search.plan?_of_plans {s : Search} {x : Plan} (h : s.plans = [x]) : s.plan? = some x := by
  obtain ⟨combined, pool, pending⟩ := s
  cases combined with
  | none =>
    obtain rfl : pool = [x] := h
    rfl
  | some y =>
    obtain ⟨rfl, -⟩ := List.cons.inj h
    rfl

/-- The plan a search came to, under the predicates it left over and under projections. -/
def Search.whole (projections : List (List Attribute)) (s : Search) (x : Plan) : Plan :=
  projections.foldl Plan.narrowed (s.pending.foldl Plan.filtered x)

/-- If the search comes to a plan that can be completed, the completed plan is the rearranged
one. -/
theorem Parts.result_rearrange {parts : Parts} {options : Options}
    {projections : List (List Attribute)} {t : Search} {x : Plan}
    (hrun : Search.run options projections parts.products
      (.initial options parts.scans parts.predicates) = .ok t)
    (hx : t.plans = [x]) (hw : (t.whole projections x).Resolved) :
    (parts.rearrange options projections).result =
      .ok (t.whole projections x, (t.whole projections x).schema.tuples) := by
  refine Logged.result_bind_eq_ok_iff.2 ⟨_, Search.result_start _ _ _, ?_⟩
  refine Logged.result_bind_eq_ok_iff.2 ⟨t, (Search.result_steps _ _ _ _).trans hrun, ?_⟩
  rw [Search.plan?_of_plans hx]
  refine Logged.result_bind_eq_ok_iff.2 ⟨_, result_stackUnplaced _ _, ?_⟩
  exact Logged.result_bind_eq_ok_iff.2 ⟨_, hw.outcome, rfl⟩

/-! ### Doing the same work -/

namespace Plan

/-- The plan `w` does the work of `p`: it can be estimated, reads the same base relations, applies
the same predicates, shows the same names, and carries no estimates. -/
structure Rearranges (w p : Plan) : Prop where
  /-- Every name that `w` uses is there. -/
  resolved : w.Resolved
  /-- The base relations of `p` are read, each as often. -/
  scans : w.scans.Perm p.scans
  /-- The predicates of `p` are applied, each as often. -/
  predicates : (w.predicates.map Predicate.unsided).Perm (p.predicates.map Predicate.unsided)
  /-- The names that `p` shows are shown. -/
  visible : ∀ n, n ∈ w.visible ↔ n ∈ p.visible
  /-- No node has an estimate. -/
  bare : w.Bare

/-- A plan as given does its own work. -/
theorem Resolved.rearranges_clearOutputs {p : Plan} (h : p.Resolved) :
    p.clearOutputs.Rearranges p where
  resolved := by rwa [resolved_iff, outcome_clearOutputs, ← resolved_iff]
  scans := .of_eq p.scans_clearOutputs
  predicates := by rw [predicates_clearOutputs]
  visible n := by rw [visible_clearOutputs]
  bare := p.bare_clearOutputs

/-! ### The projections on top -/

/-- The projections that are put back on top of a plan. -/
def outermost (p : Plan) : List (List Attribute) := p.parts.outerProjections p.schema

theorem outerProjections_eq_outermost {p : Plan} {output : Relation}
    (h : p.estimated.result = .ok output) : p.parts.outerProjections output = p.outermost := by
  rw [outermost, schema_of_outcome h]

theorem outermost_eq (p : Plan) : p.outermost =
    if p.projections = [] ∧ 0 < p.parts.innerProjections then [p.schema.attributes]
    else p.projections := by
  rw [outermost, Parts.outerProjections, projections_parts]
  simp

/-- There is nothing to put back exactly when the plan does not project. -/
theorem outermost_eq_nil_iff {p : Plan} : p.outermost = [] ↔ p.Unnarrowed := by
  rw [outermost_eq, unnarrowed_iff_parts]
  split
  · next h => simp [h, Nat.ne_of_gt h.2]
  · next h =>
    have hi : p.projections = [] → p.parts.innerProjections = 0 := fun hp =>
      Nat.eq_zero_of_not_pos fun hi => h ⟨hp, hi⟩
    exact ⟨fun hp => ⟨hp, hi hp⟩, And.left⟩

/-- Projections that are there are put back as they are. -/
theorem outermost_of_ne_nil {p : Plan} (h : p.projections ≠ []) : p.outermost = p.projections := by
  rw [outermost_eq, if_neg fun hp => h hp.1]

/-- What is put back lists names of the base relations. -/
theorem Resolved.namesOf_outermost {p : Plan} (h : p.Resolved) :
    ∀ as ∈ p.outermost, ∀ n ∈ namesOf as, n ∈ p.baseNames := by
  rw [outermost_eq]
  split
  · rw [List.forall_mem_singleton]
    intro n hn
    rw [← Relation.names, h.names_schema] at hn
    exact mem_baseNames_of_mem_visible hn
  · exact h.namesOf_projections

/-- What is put back fits on every plan that shows the names it lists, and restores the names that
are shown. -/
theorem Resolved.foldl_outermost {p x : Plan} (h : p.Resolved) (hx : x.Resolved)
    (hs : ∀ as ∈ p.outermost, ∀ n ∈ namesOf as, n ∈ x.visible)
    (hu : p.Unnarrowed → ∀ n, n ∈ x.visible ↔ n ∈ p.visible) :
    (p.outermost.foldl narrowed x).Resolved ∧
      ∀ n, n ∈ (p.outermost.foldl narrowed x).visible ↔ n ∈ p.visible := by
  rw [← outermost_eq_nil_iff] at hu
  by_cases hin : p.projections = [] ∧ 0 < p.parts.innerProjections
  · rw [outermost_eq, if_pos hin] at hs ⊢
    rw [List.forall_mem_singleton] at hs
    have hp : ∀ n, n ∈ namesOf p.schema.attributes ↔ n ∈ p.visible := fun n => by
      rw [← Relation.names, h.names_schema]
    refine ⟨⟨hx, hs⟩, fun n => ?_⟩
    show n ∈ (x.narrowed p.schema.attributes).visible ↔ _
    rw [mem_visible_project, ← hp]
    exact and_iff_right_of_imp (hs n)
  · rw [outermost_eq, if_neg hin] at hs hu ⊢
    obtain ⟨hr, hv⟩ := h.foldl_narrowed hx hs
    refine ⟨hr, ?_⟩
    by_cases hp : p.projections = []
    · rw [hp]
      exact hu hp
    · exact hv hp

end Plan

/-! ### The end of a run -/

section Completed

variable {p : Plan} {t : Search} {x : Plan}

/-- The leftover predicates fit on top of the only plan at hand. -/
theorem Search.Provided.resolved_foldl_pending (h : t.Provided p.outermost) (hx : t.plans = [x]) :
    (t.pending.foldl Plan.filtered x).Resolved :=
  Plan.resolved_foldl_filtered.2 ⟨h.resolved x (hx ▸ List.mem_singleton_self x), fun q hq _ hn =>
    h.mem_visible_of_plans hx (needs_iff.2 (Or.inl ⟨q, hq, hn⟩))⟩

/-- What the projections on top list is shown. -/
theorem Search.Provided.mem_visible_of_outermost (h : t.Provided p.outermost) (hx : t.plans = [x]) :
    ∀ as ∈ p.outermost, ∀ n ∈ namesOf as, n ∈ (t.pending.foldl Plan.filtered x).visible := by
  intro as has n hn
  rw [Plan.visible_foldl_filtered]
  exact h.mem_visible_of_plans hx (needs_iff.2 (Or.inr ⟨as, has, hn⟩))

/-- The only plan at hand can be completed. -/
theorem Search.Provided.resolved_whole (h : t.Provided p.outermost) (hp : p.Resolved)
    (hx : t.plans = [x]) : (t.whole p.outermost x).Resolved := by
  have hfiltered := h.resolved_foldl_pending hx
  by_cases hu : p.Unnarrowed
  · rw [whole, Plan.outermost_eq_nil_iff.2 hu]
    exact hfiltered
  · exact (hp.foldl_outermost hfiltered (h.mem_visible_of_outermost hx) fun h => absurd h hu).1

end Completed

/-- A sound search that accounts for the parts of a plan and has one plan at hand comes to a
rearranged plan. -/
theorem Search.Sound.rearranges {p : Plan} {t : Search} {x : Plan} (h : t.Sound p.outermost)
    (hp : p.Resolved) (hx : t.plans = [x]) (hs : t.scans.Perm p.scans)
    (hc : (t.predicates.map Predicate.unsided).Perm (p.predicates.map Predicate.unsided)) :
    (t.whole p.outermost x).Rearranges p := by
  have hmem : x ∈ t.plans := hx ▸ List.mem_singleton_self x
  have hscans : t.scans = x.scans := by simp [Search.scans, hx]
  have hpreds : t.predicates = x.predicates ++ t.pending := by simp [Search.predicates, hx]
  have hunnarrowed : p.Unnarrowed →
      ∀ n, n ∈ (t.pending.foldl Plan.filtered x).visible ↔ n ∈ p.visible := by
    intro hu n
    have hxu := h.unnarrowed (Plan.outermost_eq_nil_iff.2 hu) x hmem
    rw [Plan.visible_foldl_filtered, hxu.mem_visible_iff, hu.mem_visible_iff]
    exact ((hscans ▸ hs).flatMap_right _).mem_iff
  obtain ⟨hr, hv⟩ := hp.foldl_outermost (h.provided.resolved_foldl_pending hx)
    (h.provided.mem_visible_of_outermost hx) hunnarrowed
  refine ⟨hr, ?_, ?_, hv, Plan.Bare.foldl_narrowed (h.bare x hmem).foldl_filtered⟩
  · rw [Search.whole, Plan.scans_foldl_narrowed, Plan.scans_foldl_filtered, ← hscans]
    exact hs
  · rw [Search.whole, Plan.predicates_foldl_narrowed, Plan.predicates_foldl_filtered, ← hpreds]
    exact hc

/-! ### Optimising -/

namespace Plan

/-- The search over the parts of a plan, before its first step. -/
def search (options : Options) (p : Plan) : Search := .initial options p.scans p.predicates

theorem Resolved.sound_search {p : Plan} (h : p.Resolved) (hd : p.Distinct) (options : Options) :
    (p.search options).Sound p.outermost :=
  .initial hd h.inside_baseNames h.namesOf_outermost

theorem length_plans_search (options : Options) (p : Plan) :
    (p.search options).plans.length = p.parts.products + 1 := by
  rw [search, Search.length_plans_initial, products_parts]
  have := List.length_pos_of_ne_nil p.scans_ne_nil
  omega

/-- Over distinct names the search always comes to a rearranged plan. -/
theorem Resolved.exists_whole {p : Plan} (h : p.Resolved) (hd : p.Distinct) (options : Options) :
    ∃ t x, Search.run options p.outermost p.parts.products (p.search options) = .ok t ∧
      t.Sound p.outermost ∧ t.plans = [x] ∧ (t.whole p.outermost x).Rearranges p ∧
      (p.parts.rearrange options p.outermost).result =
        .ok (t.whole p.outermost x, (t.whole p.outermost x).schema.tuples) := by
  obtain ⟨t, hrun, ht, hone, hscans, hpreds⟩ :=
    (h.sound_search hd options).exists_run options (length_plans_search options p)
  obtain ⟨x, hx⟩ := List.length_eq_one_iff.1 hone
  have hw := ht.rearranges h hx (hscans.trans (.of_eq Search.scans_initial))
    (hpreds.trans ((Search.predicates_initial_perm hd).map _))
  refine ⟨t, x, hrun, ht, hx, hw, ?_⟩
  refine Parts.result_rearrange ?_ hx hw.resolved
  rw [scans_parts, predicates_parts]
  exact hrun

/-- A plan that cannot be estimated is not optimised, and for the same reason. -/
theorem optimise_error {options : Options} {p : Plan} {e : PlanError}
    (h : p.estimate.outcome = .error e) : (p.optimise options).result = .error e := by
  rw [optimise, Logged.result_bind, estimated, Estimation.result_logged, outcome_clearOutputs, h]
  rfl

/-- A plan that can be estimated is optimised to its rearrangement, unless that costs more. -/
theorem Resolved.result_optimise {p w : Plan} {options : Options} {cost : Count}
    (h : p.Resolved) (hw : (p.parts.rearrange options p.outermost).result = .ok (w, cost)) :
    (p.optimise options).result = .ok (if p.schema.tuples < cost then p.clearOutputs else w) := by
  rw [optimise, Logged.result_bind, estimated, Estimation.result_logged, outcome_clearOutputs,
    h.outcome]
  show Logged.result (p.parts.rearrange options p.outermost >>= _) = _
  rw [Logged.result_bind, hw]
  show Logged.result (if p.schema.tuples < cost then _ else _) = _
  split <;> rfl

/-- Over distinct names a plan that can be estimated is optimised. -/
theorem Resolved.exists_optimise {p : Plan} (h : p.Resolved) (hd : p.Distinct)
    (options : Options) : ∃ q, (p.optimise options).result = .ok q := by
  obtain ⟨t, x, -, -, -, -, hw⟩ := h.exists_whole hd options
  exact ⟨_, h.result_optimise hw⟩

/-- What a plan over distinct names is optimised to: the plan as given if the rearrangement costs
more, else the rearrangement. -/
theorem Distinct.optimise_cases {p q : Plan} {options : Options} (hd : p.Distinct)
    (h : (p.optimise options).result = .ok q) :
    p.Resolved ∧ ∃ t x, Search.run options p.outermost p.parts.products (p.search options) = .ok t ∧
      t.Sound p.outermost ∧ t.plans = [x] ∧ (t.whole p.outermost x).Rearranges p ∧
      (p.schema.tuples < (t.whole p.outermost x).schema.tuples ∧ q = p.clearOutputs ∨
        ¬ p.schema.tuples < (t.whole p.outermost x).schema.tuples ∧
          q = t.whole p.outermost x) := by
  have hr : p.Resolved := by
    rw [resolved_iff]
    cases he : p.estimate.outcome with
    | ok s => exact ⟨s, rfl⟩
    | error e =>
      rw [optimise_error he] at h
      cases h
  obtain ⟨t, x, hrun, ht, hx, hw, hres⟩ := hr.exists_whole hd options
  refine ⟨hr, t, x, hrun, ht, hx, hw, ?_⟩
  rw [hr.result_optimise hres, Except.ok.injEq] at h
  split at h
  · next hc => exact Or.inl ⟨hc, h.symm⟩
  · next hc => exact Or.inr ⟨hc, h.symm⟩

/-- What a plan over distinct names is optimised to does the work of the plan. -/
theorem Distinct.rearranges_optimise {p q : Plan} {options : Options} (hd : p.Distinct)
    (h : (p.optimise options).result = .ok q) : q.Rearranges p := by
  obtain ⟨hr, t, x, -, -, -, hw, ⟨-, rfl⟩ | ⟨-, rfl⟩⟩ := hd.optimise_cases h
  · exact hr.rearranges_clearOutputs
  · exact hw

/-- On a plan without projections at the top, the projections are the ones that are put there. -/
theorem projections_whole_of_topless {t : Search} {x : Plan} (h : x.projections = [])
    (projections : List (List Attribute)) :
    (t.whole projections x).projections = projections := by
  rw [Search.whole, projections_foldl_narrowed, projections_foldl_filtered, h, List.nil_append]

/-- The projections of a rearranged plan are the ones that were put on top. -/
theorem projections_whole {p x : Plan} {t : Search} (ht : t.Sound p.outermost)
    (hx : t.plans = [x]) : (t.whole p.outermost x).projections = p.outermost :=
  projections_whole_of_topless (ht.topless x (hx ▸ List.mem_singleton_self x)) _

end Plan

end RelPlan
