import RelPlan.Optimise.InPlace
import RelPlan.Proofs.Optimise.Erasure

/-!
# Estimating in place or aside

The optimiser that estimates in place goes the way of the one that estimates aside. If the
estimates are removed from what it works on and from the plans it reports (`Logged.erase`), every
part of it is the corresponding part of the other one: `Situation.erase_candidateInPlace` for a
candidate, `Search.erase_stepInPlace` for a step, `Search.erase_stepsInPlace` for a run. So both
come to the same plan and to the same log (`Plan.result_optimiseInPlace`,
`Plan.lines_optimiseInPlace`). The plan that is returned carries no estimates, although all plans
that were compared did, and costs what they were compared by (`Plan.tuples_optimiseInPlace_le`).
-/

namespace RelPlan

/-! ### Estimating -/

namespace Plan

/-- To go on from a plan that is estimated in place is, without the estimates, to go on from the
relation that is estimated for it aside. -/
theorem erase_annotated_bind {α β : Type} {f : α → β} {k : Plan × Relation → Logged α}
    {k' : Relation → Logged β} {p p' : Plan} (hp : p.clearOutputs = p')
    (hk : ∀ x r, x.clearOutputs = p' → (k (x, r)).erase f = k' r) :
    (p.annotated >>= k).erase f = p'.estimated >>= k' := by
  -- Both go on from the same outcome; the tree beside it differs from `p` in estimates alone.
  have haside : p.annotated >>= k = p.estimated >>= fun r => k (p.estimate.plan, r) := by
    show Logged.andThen ⟨p.estimate.outcome.map _, _⟩ k = Logged.andThen ⟨p.estimate.outcome, _⟩ _
    cases p.estimate.outcome <;> rfl
  rw [haside, ← hp, estimated_clearOutputs]
  exact Logged.erase_bind p.erase_estimated fun r => hk _ r (p.clearOutputs_estimate.trans hp)

end Plan

/-! ### Candidates -/

namespace Situation

variable (s : Situation)

theorem erase_narrowInPlace (x : Plan) :
    (s.narrowInPlace x).erase (Prod.map Plan.clearOutputs id) = s.narrow x.clearOutputs := by
  rw [narrowInPlace, narrow]
  refine Plan.erase_annotated_bind x.clearOutputs_clearOutputs fun side schema hside => ?_
  dsimp only
  cases s.retained? schema with
  | none => exact congrArg (fun side => pure (side, schema)) hside
  | some kept =>
    dsimp only
    rw [← bind_pure (Plan.annotated _)]
    refine Plan.erase_annotated_bind (congrArg (Plan.narrowed · kept) hside) fun y narrowed hy => ?_
    exact congrArg (fun y => pure (y, narrowed)) hy

/-- **Candidates** that are costed in place are, without their estimates, those that are costed
aside. -/
theorem erase_candidateInPlace (l r : Plan) :
    (s.candidateInPlace l r).erase Candidate.clearOutputs =
      s.candidate l.clearOutputs r.clearOutputs := by
  rw [candidateInPlace, candidate]
  refine Logged.erase_bind (s.erase_narrowInPlace l) ?_
  rintro ⟨left, leftSchema⟩
  refine Logged.erase_bind (s.erase_narrowInPlace r) ?_
  rintro ⟨right, rightSchema⟩
  refine Plan.erase_annotated_bind (Placement.clearOutputs_combine _ _ _) fun plan output hplan => ?_
  exact congrArg (fun plan => Logged.report (.costed plan output.tuples) >>= fun _ =>
    pure (Candidate.mk plan output.tuples _)) hplan

end Situation

/-! ### Steps and runs -/

namespace Search

/-- The same choice is taken in place as aside. -/
theorem erase_cheapestInPlace (σ : Situation) (choices : List Choice) :
    (cheapestInPlace σ choices).erase
        (Option.map (Prod.map Candidate.clearOutputs Choice.clearOutputs)) =
      cheapest σ (choices.map Choice.clearOutputs) :=
  erase_least (g := fun c => σ.candidate c.left c.right)
    (fun c => σ.erase_candidateInPlace c.left c.right) choices

variable (options : Options) (projections : List (List Attribute))

/-- **Step**: a step in place is, without the estimates, a step aside. -/
theorem erase_stepInPlace (s : Search) (k : Nat) :
    (s.stepInPlace options projections k).erase clearOutputs =
      s.clearOutputs.step options projections k := by
  have hsituation : s.clearOutputs.situation options projections =
      s.situation options projections := rfl
  rw [stepInPlace, step, hsituation, choices_clearOutputs]
  refine Logged.erase_bind (erase_cheapestInPlace _ _) fun chosen => ?_
  cases chosen with
  | none => rfl
  | some chosen =>
    obtain ⟨best, choice⟩ := chosen
    -- The plan committed to lost its estimates already; erasure leaves it as it is.
    have hsearch : clearOutputs
        ⟨some best.plan.clearOutputs, eraseAll choice.used s.pool, eraseAll best.applied s.pending⟩ =
        ⟨some best.plan.clearOutputs, eraseAll choice.used s.clearOutputs.pool,
          eraseAll best.applied s.pending⟩ :=
      congrArg₂ (fun plan pool => Search.mk (some plan) pool _) best.plan.clearOutputs_clearOutputs
        (eraseAll_map _ _ _).symm
    exact congrArg (fun t => Logged.report (.committed k best.plan.clearOutputs best.cost) >>=
      fun _ => pure t) hsearch

/-- **Run**: steps in place are, without the estimates, steps aside. -/
theorem erase_stepsInPlace (n : Nat) (s : Search) :
    (s.stepsInPlace options projections n).erase clearOutputs =
      s.clearOutputs.steps options projections n := by
  rw [stepsInPlace, steps]
  refine Logged.erase_foldlM (fun s k => ?_) (List.range n) s
  exact s.erase_stepInPlace options projections (k + 1)

/-- Nothing at the start of a search carries an estimate. -/
theorem erase_start (scans : List BaseRelation) (ps : List Predicate) :
    (start options scans ps).erase clearOutputs = start options scans ps := by
  have hpush : ∀ (x : Plan) (ps : List Predicate),
      (pushAll x ps).erase Plan.clearOutputs = pushAll x.clearOutputs ps := fun x ps =>
    Logged.erase_foldlM (fun _ _ => rfl) ps x
  rw [start]
  split
  · exact Logged.erase_bind (Logged.erase_mapM (fun r => hpush (.read r) _) scans) fun pool => rfl
  · have hreads : (scans.map Plan.read).map Plan.clearOutputs = scans.map Plan.read :=
      List.map_map
    exact congrArg (fun pool => pure (Search.mk none pool ps)) hreads

end Search

/-! ### The whole plan -/

theorem erase_stackUnplaced (x : Plan) (ps : List Predicate) :
    (stackUnplaced x ps).erase Plan.clearOutputs = stackUnplaced x.clearOutputs ps :=
  Logged.erase_foldlM (fun _ _ => rfl) ps x

namespace Plan

theorem clearOutputs_foldl_narrowed (projections : List (List Attribute)) (x : Plan) :
    (projections.foldl narrowed x).clearOutputs = projections.foldl narrowed x.clearOutputs :=
  (List.foldl_hom clearOutputs fun _ _ => rfl).symm

end Plan

theorem Parts.erase_rearrangeInPlace (parts : Parts) (options : Options)
    (projections : List (List Attribute)) :
    (parts.rearrangeInPlace options projections).erase (Prod.map Plan.clearOutputs id) =
      parts.rearrange options projections := by
  rw [rearrangeInPlace, rearrange]
  refine Logged.erase_bind (Search.erase_start _ _ _) fun start => ?_
  refine Logged.erase_bind (Search.erase_stepsInPlace _ _ _ start) fun final => ?_
  rw [final.plan?_clearOutputs]
  cases final.plan? with
  | none => rfl
  | some plan =>
    refine Logged.erase_bind (erase_stackUnplaced plan final.pending) fun filtered => ?_
    refine Plan.erase_annotated_bind (Plan.clearOutputs_foldl_narrowed _ _)
      fun whole output hwhole => ?_
    exact congrArg (fun whole => Logged.report (.rearranged whole output.tuples) >>= fun _ =>
      pure (whole, output.tuples)) hwhole

namespace Plan

/-- **Refinement**: optimising in place is, without the estimates, optimising aside. -/
theorem erase_optimiseInPlace (options : Options) (p : Plan) :
    (p.optimiseInPlace options).erase clearOutputs = p.optimise options := by
  rw [optimiseInPlace, optimise]
  refine erase_annotated_bind p.clearOutputs_clearOutputs fun original output horiginal => ?_
  refine Logged.erase_bind (Parts.erase_rearrangeInPlace _ _ _) ?_
  rintro ⟨rearranged, cost⟩
  dsimp only [Prod.map, id]
  split_ifs with hcost
  · rw [← horiginal]
    exact congrArg (fun x => Logged.report (.kept original.clearOutputs output.tuples cost) >>=
      fun _ => pure x) original.clearOutputs_clearOutputs
  · exact congrArg pure rearranged.clearOutputs_clearOutputs

end Plan

/-! ### What is compared and what is returned -/

namespace Plan

/-- A plan that is estimated in place carries an estimate at every node, and changes in nothing
else. -/
theorem annotated_eq_ok {p x : Plan} {s : Relation} (h : p.annotated.result = .ok (x, s)) :
    x.Everywhere Carries ∧ x.clearOutputs = p.clearOutputs ∧ x.estimate.outcome = .ok s := by
  cases hs : p.estimate.outcome with
  | error e =>
    rw [annotated, hs] at h
    cases h
  | ok r =>
    rw [annotated, hs] at h
    cases h
    exact ⟨carries_estimate hs, p.clearOutputs_estimate, p.outcome_estimate.trans hs⟩

end Plan

/-- The rearranged plan carries an estimate at every node; its cost is what is estimated for its
root. -/
theorem Parts.rearrangeInPlace_eq_ok {parts : Parts} {options : Options}
    {projections : List (List Attribute)} {w : Plan} {cost : Count}
    (h : (parts.rearrangeInPlace options projections).result = .ok (w, cost)) :
    w.Everywhere Plan.Carries ∧ ∃ s, w.estimate.outcome = .ok s ∧ cost = s.tuples := by
  rw [rearrangeInPlace, Logged.result_bind_eq_ok_iff] at h
  obtain ⟨start, -, h⟩ := h
  rw [Logged.result_bind_eq_ok_iff] at h
  obtain ⟨final, -, h⟩ := h
  cases hx : final.plan? with
  | none =>
    rw [hx] at h
    cases h
  | some x =>
    rw [hx] at h
    dsimp only at h
    rw [Logged.result_bind_eq_ok_iff] at h
    obtain ⟨filtered, -, h⟩ := h
    rw [Logged.result_bind_eq_ok_iff] at h
    obtain ⟨⟨whole, s⟩, hwhole, h⟩ := h
    cases h
    obtain ⟨hcarries, -, hs⟩ := Plan.annotated_eq_ok hwhole
    exact ⟨hcarries, s, hs, rfl⟩

namespace Plan

variable {p q : Plan} {options : Options}

/-- Two plans are compared, the plan as given and the rearranged one; both carry an estimate at
every node. What is returned is one of them without its estimates. -/
theorem optimiseInPlace_eq_ok (h : (p.optimiseInPlace options).result = .ok q) :
    ∃ (x w : Plan) (r s : Relation), x.Everywhere Carries ∧ w.Everywhere Carries ∧
      x.clearOutputs = p.clearOutputs ∧ x.estimate.outcome = .ok r ∧ w.estimate.outcome = .ok s ∧
      q = if r.tuples < s.tuples then x.clearOutputs else w.clearOutputs := by
  rw [optimiseInPlace, Logged.result_bind_eq_ok_iff] at h
  obtain ⟨⟨x, r⟩, hx, h⟩ := h
  rw [Logged.result_bind_eq_ok_iff] at h
  obtain ⟨⟨w, cost⟩, hw, h⟩ := h
  obtain ⟨hxc, hclear, hr⟩ := annotated_eq_ok hx
  obtain ⟨hwc, s, hs, rfl⟩ := Parts.rearrangeInPlace_eq_ok hw
  refine ⟨x, w, r, s, hxc, hwc, hclear.trans p.clearOutputs_clearOutputs, hr, hs, ?_⟩
  dsimp only at h
  split_ifs at h ⊢ with hc
  · cases h
    rfl
  · cases h
    rfl

theorem bare_of_optimiseInPlace (h : (p.optimiseInPlace options).result = .ok q) : q.Bare := by
  obtain ⟨x, w, r, s, -, -, -, -, -, rfl⟩ := optimiseInPlace_eq_ok h
  split_ifs with hc
  · exact x.bare_clearOutputs
  · exact w.bare_clearOutputs

/-- Estimating in place or aside, the same plan is returned. -/
theorem result_optimiseInPlace (options : Options) (p : Plan) :
    (p.optimiseInPlace options).result = (p.optimise options).result := by
  rw [← erase_optimiseInPlace]
  show _ = (p.optimiseInPlace options).result.map clearOutputs
  cases hq : (p.optimiseInPlace options).result with
  | error e => rfl
  | ok q => exact congrArg Except.ok (bare_iff_clearOutputs_eq.1 (bare_of_optimiseInPlace hq)).symm

/-- Estimating in place or aside, the same is logged. -/
theorem lines_optimiseInPlace (options : Options) (p : Plan) :
    (p.optimiseInPlace options).events.map Event.line =
      (p.optimise options).events.map Event.line := by
  rw [← erase_optimiseInPlace]
  show _ = ((p.optimiseInPlace options).events.map Event.clearOutputs).map Event.line
  rw [List.map_map]
  exact List.map_congr_left fun e _ => e.line_clearOutputs.symm

/-- **Cost**: whatever a plan is optimised to carries no estimates, can be estimated, and is not
estimated at more tuples than the plan. -/
theorem tuples_optimiseInPlace_le (h : (p.optimiseInPlace options).result = .ok q) :
    q.Bare ∧ ∃ r s, p.estimated.result = .ok r ∧ q.estimated.result = .ok s ∧
      s.tuples ≤ r.tuples := by
  refine ⟨bare_of_optimiseInPlace h, ?_⟩
  obtain ⟨x, w, r, s, -, -, hx, hr, hs, rfl⟩ := optimiseInPlace_eq_ok h
  have hp : p.estimated.result = .ok r := (outcome_congr hx).symm.trans hr
  -- What is estimated for the two plans without their estimates is what they were compared by.
  split_ifs with hc
  · exact ⟨r, r, hp, x.outcome_clearOutputs.trans hr, Nat.le_refl _⟩
  · exact ⟨r, s, hp, w.outcome_clearOutputs.trans hs, Nat.le_of_not_lt hc⟩

theorem tuples_readingsJoined_le :
    (readingsByPlace.optimiseInPlace ⟨true, true⟩).result = .ok readingsJoined ∧
      readingsJoined.Bare ∧ ∃ r s, readingsByPlace.estimated.result = .ok r ∧
        readingsJoined.estimated.result = .ok s ∧ s.tuples ≤ r.tuples := by
  have h : (readingsByPlace.optimiseInPlace ⟨true, true⟩).result = .ok readingsJoined := by decide
  exact ⟨h, tuples_optimiseInPlace_le h⟩

end Plan

end RelPlan
