import RelPlan.Proofs.Optimise.Provided
import RelPlan.Proofs.Warnings

/-!
# Predicates left over

Predicates that the search leaves pending are stacked on top of the plan it came to, each with a
warning, and these are all the warnings that optimising gives (`Parts.warnings_rearrange`). For a
plan that can be estimated, whatever names its base relations share, there are none after a run with
one step or more, nor if selections are pushed (`Plan.Resolved.pending_of_run`). So no selection is
stacked and no warning is given unless the plan reads one base relation only and selections are not
pushed (`Plan.optimise_places_predicates`).
-/

namespace RelPlan

/-! ### What gives no warning -/

theorem Situation.calm_narrow (σ : Situation) (x : Plan) : (σ.narrow x).Calm := by
  refine x.calm_estimated.bind fun schema _ => ?_
  cases σ.retained? schema with
  | none => exact Logged.calm_pure _
  | some kept => exact (Plan.calm_estimated _).bind fun _ _ => Logged.calm_pure _

theorem Situation.calm_candidate (σ : Situation) (l r : Plan) : (σ.candidate l r).Calm := by
  refine (σ.calm_narrow l).bind fun left _ => (σ.calm_narrow r).bind fun right _ => ?_
  refine (Plan.calm_estimated _).bind fun output _ => ?_
  exact (Logged.calm_report .trace rfl (by decide)).bind fun _ _ => Logged.calm_pure _

namespace Search

variable (options : Options) (projections : List (List Attribute))

theorem calm_step (s : Search) (k : Nat) : (s.step options projections k).Calm := by
  have hcheapest : (cheapest (s.situation options projections) s.choices).Calm := by
    refine Logged.calm_foldlM (fun best c => ?_) _ _
    exact (Situation.calm_candidate _ _ _).bind fun _ _ => Logged.calm_pure _
  refine hcheapest.bind fun chosen _ => ?_
  cases chosen with
  | none => rfl
  | some chosen =>
    exact (Logged.calm_report .debug rfl (by decide)).bind fun _ _ => Logged.calm_pure _

theorem calm_steps (s : Search) (n : Nat) : (s.steps options projections n).Calm :=
  Logged.calm_foldlM (fun s k => s.calm_step options projections (k + 1)) _ _

theorem calm_start (scans : List BaseRelation) (ps : List Predicate) :
    (start options scans ps).Calm := by
  unfold start
  split
  · refine Logged.Calm.bind ?_ fun pool _ => Logged.calm_pure _
    refine Logged.calm_mapM (fun r => Logged.calm_foldlM (fun x p => ?_) _ _) _
    exact (Logged.calm_report .debug rfl (by decide)).bind fun _ _ => Logged.calm_pure _
  · exact Logged.calm_pure _

end Search

/-! ### What gives a warning -/

/-- Every predicate that is stacked for want of a place gives a warning. -/
theorem warnings_stackUnplaced (x : Plan) (ps : List Predicate) :
    (stackUnplaced x ps).warnings = ps.map Event.unplaced := by
  induction ps generalizing x with
  | nil => rfl
  | cons p ps ih =>
    have hp : (Logged.report (.unplaced p) >>= fun _ => pure (x.filtered p)).result =
        .ok (x.filtered p) := rfl
    rw [stackUnplaced, List.foldlM_cons, Logged.warnings_bind_of_ok hp]
    exact congrArg (Event.unplaced p :: ·) (ih (x.filtered p))

namespace Parts

variable {parts : Parts} {options : Options} {projections : List (List Attribute)}

/-- Where the search fails, rearranging gives no warning. -/
theorem calm_rearrange_of_error {e : PlanError}
    (h : Search.run options projections parts.products
      (.initial options parts.scans parts.predicates) = .error e) :
    (parts.rearrange options projections).Calm := by
  refine (Search.calm_start options _ _).bind fun start hstart => ?_
  rw [Search.result_start] at hstart
  cases hstart
  have hsteps := (Search.result_steps options projections parts.products _).trans h
  exact (Logged.warnings_bind_of_error hsteps).trans (Search.calm_steps options projections _ _)

/-- Where the search comes to a plan, the warnings of rearranging are those for the predicates it
left over. -/
theorem warnings_rearrange {t : Search} {x : Plan}
    (h : Search.run options projections parts.products
      (.initial options parts.scans parts.predicates) = .ok t) (hx : t.plan? = some x) :
    (parts.rearrange options projections).warnings = t.pending.map Event.unplaced := by
  have hsteps := (Search.result_steps options projections parts.products _).trans h
  rw [rearrange, Logged.warnings_bind_of_ok (Search.result_start _ _ _), Search.calm_start,
    Logged.warnings_bind_of_ok hsteps, Search.calm_steps, hx]
  show Logged.warnings (stackUnplaced x t.pending >>= _) = _
  rw [← warnings_stackUnplaced x]
  -- What is done after stacking gives no warning.
  refine Logged.warnings_bind_of_calm fun filtered _ => ?_
  refine (Plan.calm_estimated _).bind fun output _ => ?_
  exact (Logged.calm_report .debug rfl (by decide)).bind fun _ _ => Logged.calm_pure _

end Parts

namespace Plan

variable {p : Plan} {options : Options} {t : Search}

/-- The warnings of optimising are those of rearranging. -/
theorem Resolved.warnings_optimise (h : p.Resolved) :
    (p.optimise options).warnings = (p.parts.rearrange options p.outermost).warnings := by
  have hgiven : p.clearOutputs.estimated.result = .ok p.schema :=
    p.outcome_clearOutputs.trans h.outcome
  rw [optimise, Logged.warnings_bind_of_ok hgiven, Plan.calm_estimated]
  show Logged.warnings (p.parts.rearrange options p.outermost >>= _) = _
  refine Logged.warnings_bind_of_calm fun w _ => ?_
  dsimp only
  split
  · exact (Logged.calm_report .debug rfl (by decide)).bind fun _ _ => Logged.calm_pure _
  · exact Logged.calm_pure _

/-! ### What is left over -/

theorem Resolved.provided_search (h : p.Resolved) (options : Options) :
    (p.search options).Provided p.outermost :=
  .initial h.inside_baseNames h.namesOf_outermost

/-- If selections are pushed, every plan at hand is closed throughout a run. -/
theorem Resolved.closed_plans_of_run (h : p.Resolved) (hpush : options.pushSelections = true)
    {k : Nat} (hrun : Search.run options p.outermost k (p.search options) = .ok t) :
    ∀ x ∈ t.plans, t.Closed x :=
  (h.provided_search options).closed_plans (Search.closed_initial hpush p.scans p.predicates) hrun

/-- What is combined is closed throughout a run. -/
theorem Resolved.closed_combined_of_run (h : p.Resolved) {k : Nat}
    (hrun : Search.run options p.outermost k (p.search options) = .ok t) :
    ∀ x ∈ t.combined, t.Closed x := by
  refine (h.provided_search options).closed_combined (fun x hx => ?_) hrun
  rw [search, Search.combined_initial] at hx
  cases hx

/-- The search stays provided throughout a run. -/
theorem Resolved.provided_of_run (h : p.Resolved) {k : Nat}
    (hrun : Search.run options p.outermost k (p.search options) = .ok t) :
    t.Provided p.outermost :=
  ((h.provided_search options).of_run (P := fun _ => True) (fun _ _ _ => trivial) trivial hrun).1

/-- A run over a plan ends with one plan at hand. -/
theorem exists_plans_of_run
    (hrun : Search.run options p.outermost p.parts.products (p.search options) = .ok t) :
    ∃ x, t.plans = [x] := by
  have hlen := Search.length_plans_of_run hrun
  rw [length_plans_search] at hlen
  exact List.length_eq_one_iff.1 (by omega)

/-- What a run over a plan leaves over: nothing if a step was taken or selections are pushed, else
all predicates. -/
theorem Resolved.pending_of_run (h : p.Resolved)
    (hrun : Search.run options p.outermost p.parts.products (p.search options) = .ok t) :
    t.pending =
      if options.pushSelections = true ∨ 1 ≤ p.parts.products then [] else p.parts.predicates := by
  obtain ⟨x, hx⟩ := exists_plans_of_run hrun
  have ht := h.provided_of_run hrun
  by_cases hpush : options.pushSelections = true
  · rw [if_pos (Or.inl hpush)]
    have hmem : x ∈ t.plans := hx ▸ List.mem_singleton_self x
    exact ht.pending_eq_nil hx (h.closed_plans_of_run hpush hrun x hmem)
  by_cases hone : 1 ≤ p.parts.products
  · rw [if_pos (Or.inr hone)]
    -- What is left is what the last step combined.
    obtain ⟨y, hy⟩ := List.length_eq_one_iff.1 (Search.length_combined_of_run hrun hone)
    have hxy : x = y := by
      rw [Search.plans, hy] at hx
      exact (List.cons.inj hx).1.symm
    have hcombined : t.combined = some x := by
      rw [hxy]
      exact Option.toList_eq_singleton_iff.1 hy
    exact ht.pending_eq_nil hx (h.closed_combined_of_run hrun x hcombined)
  · rw [if_neg (fun h => h.elim hpush hone)]
    have hzero : p.parts.products = 0 := by omega
    rw [hzero] at hrun
    cases hrun
    rw [search, Search.initial, if_neg hpush, predicates_parts]

/-- The search over the parts of a plan, start and steps together. -/
theorem result_start_steps (options : Options) (p : Plan) (projections : List (List Attribute))
    (k : Nat) :
    (Search.start options p.parts.scans p.parts.predicates >>= fun start =>
      start.steps options projections k).result =
        Search.run options projections k (p.search options) := by
  rw [Logged.result_bind, Search.result_start, scans_parts, predicates_parts]
  exact Search.result_steps options projections k _

/-- Where the search fails, optimising gives no warning. -/
theorem Resolved.warnings_of_run_error (h : p.Resolved) {e : PlanError}
    (hrun : Search.run options p.outermost p.parts.products (p.search options) = .error e) :
    (p.optimise options).warnings = [] := by
  rw [h.warnings_optimise]
  apply Parts.calm_rearrange_of_error (e := e)
  rw [scans_parts, predicates_parts]
  exact hrun

/-- Where the search succeeds, the warnings are those for what it left over. -/
theorem Resolved.warnings_of_run (h : p.Resolved)
    (hrun : Search.run options p.outermost p.parts.products (p.search options) = .ok t) :
    (p.optimise options).warnings = t.pending.map Event.unplaced := by
  obtain ⟨x, hx⟩ := exists_plans_of_run hrun
  rw [h.warnings_optimise]
  refine Parts.warnings_rearrange ?_ (Search.plan?_of_plans hx)
  rw [scans_parts, predicates_parts]
  exact hrun

/-- What the search came to is completed to the rearranged plan. -/
theorem eq_whole_of_run
    (hrun : Search.run options p.outermost p.parts.products (p.search options) = .ok t)
    {w : Plan} {cost : Count}
    (hw : (p.parts.rearrange options p.outermost).result = .ok (w, cost)) :
    ∃ x, t.plan? = some x ∧ w = t.whole p.outermost x := by
  obtain ⟨u, x, -, hrun', hx, rfl, -⟩ := Parts.rearrange_eq_ok hw
  rw [scans_parts, predicates_parts, ← search, hrun] at hrun'
  cases hrun'
  exact ⟨x, hx, rfl⟩

/-- **Placement**: let a plan be such that it can be estimated. If it has a product or a join, then
nothing is pending when the search has succeeded, so that the rearranged plan is what the search
came to under the projections alone; and no warning is given, whether the search succeeds or not. If
it has none, the search succeeds, and something is pending after it exactly if selections are not
pushed and there is a predicate; that is stacked under the projections, and the warnings are those
for it. -/
theorem optimise_places_predicates {output : Relation} (options : Options)
    (h : p.estimated.result = .ok output) :
    (1 ≤ p.parts.products →
      (∀ t, (Search.start options p.parts.scans p.parts.predicates >>= fun start =>
          start.steps options (p.parts.outerProjections output) p.parts.products).result = .ok t →
        t.pending = [] ∧
        ∀ w cost, (p.parts.rearrange options (p.parts.outerProjections output)).result =
            .ok (w, cost) →
          ∃ x, t.plan? = some x ∧ w = (p.parts.outerProjections output).foldl narrowed x) ∧
      eventsAt .warn (p.optimise options).events = []) ∧
    (p.parts.products = 0 →
      ∃ t, (Search.start options p.parts.scans p.parts.predicates >>= fun start =>
          start.steps options (p.parts.outerProjections output) p.parts.products).result = .ok t ∧
        (t.pending ≠ [] ↔ options.pushSelections = false ∧ p.parts.predicates ≠ []) ∧
        (∀ w cost, (p.parts.rearrange options (p.parts.outerProjections output)).result =
            .ok (w, cost) →
          ∃ x, t.plan? = some x ∧
            w = (p.parts.outerProjections output).foldl narrowed (t.pending.foldl filtered x)) ∧
        eventsAt .warn (p.optimise options).events = t.pending.map .unplaced) := by
  have hr : p.Resolved := resolved_iff.2 ⟨output, h⟩
  rw [outerProjections_eq_outermost h, result_start_steps]
  constructor
  · intro hone
    have hnone : ∀ t, Search.run options p.outermost p.parts.products (p.search options) = .ok t →
        t.pending = [] := by
      intro t hrun
      rw [hr.pending_of_run hrun, if_pos (Or.inr hone)]
    constructor
    · intro t hrun
      refine ⟨hnone t hrun, fun w cost hw => ?_⟩
      obtain ⟨x, hx, rfl⟩ := eq_whole_of_run hrun hw
      refine ⟨x, hx, ?_⟩
      rw [Search.whole, hnone t hrun]
      rfl
    · show (p.optimise options).warnings = []
      cases hrun : Search.run options p.outermost p.parts.products (p.search options) with
      | error e => exact hr.warnings_of_run_error hrun
      | ok t =>
        rw [hr.warnings_of_run hrun, hnone t hrun]
        rfl
  · intro hzero
    have hrun : Search.run options p.outermost p.parts.products (p.search options) =
        .ok (p.search options) := by
      rw [hzero]
      rfl
    refine ⟨p.search options, hrun, ?_, fun w cost => eq_whole_of_run hrun, hr.warnings_of_run hrun⟩
    rw [hr.pending_of_run hrun, hzero]
    by_cases hpush : options.pushSelections = true
    · simp [hpush]
    · simp [hpush]

/-- The readings and the sensors have an attribute name in common. -/
theorem readingsByPlace_placed :
    readingsByPlace.estimated.result = .ok readingsByPlace.schema ∧
      1 ≤ readingsByPlace.parts.products ∧
      (∃ t, (Search.start ⟨false, true⟩ readingsByPlace.parts.scans
            readingsByPlace.parts.predicates >>= fun start =>
          start.steps ⟨false, true⟩ (readingsByPlace.parts.outerProjections readingsByPlace.schema)
            readingsByPlace.parts.products).result = .ok t ∧ t.pending = []) ∧
      eventsAt .warn (readingsByPlace.optimise ⟨false, true⟩).events = [] := by
  have h : readingsByPlace.estimated.result = .ok readingsByPlace.schema := by decide
  have hone : 1 ≤ readingsByPlace.parts.products := by decide
  have hq : (readingsByPlace.optimise ⟨false, true⟩).result = .ok readingsJoined := by decide
  obtain ⟨hloop, hcalm⟩ := (optimise_places_predicates ⟨false, true⟩ h).1 hone
  refine ⟨h, hone, ?_, hcalm⟩
  -- The search succeeds because optimising does.
  obtain ⟨r, w, cost, hres, hw, -⟩ := optimise_eq_ok hq
  obtain ⟨t, -, -, hrun, -⟩ := Parts.rearrange_eq_ok hw
  obtain rfl : readingsByPlace.schema = r := schema_of_outcome hres
  rw [scans_parts, predicates_parts] at hrun
  have hsteps := (result_start_steps ⟨false, true⟩ readingsByPlace _ _).trans hrun
  exact ⟨t, hsteps, (hloop t hsteps).1⟩

end Plan

end RelPlan
