import RelPlan.Proofs.Erase
import RelPlan.Proofs.Optimise.Cost
import RelPlan.Proofs.Plan.Places

/-!
# Old estimates do not matter

The estimates that a plan carries are left over from earlier work and may be wrong. Removing them
commutes with everything the search for a join order does: narrowing an input, costing a candidate,
choosing, and taking a step. So the search goes the same way whatever the plans at hand carry, and
reports the same but for what they carry (`Search.erase_steps`). Estimating and optimising come to
the same for two plans that differ in nothing but what they carry (`Plan.estimate_optimise_congr`).
-/

namespace RelPlan

/-! ### Candidates -/

/-- The candidate with the estimates removed from its plan. -/
def Candidate.clearOutputs (c : Candidate) : Candidate := { c with plan := c.plan.clearOutputs }

namespace Plan

theorem clearOutputs_foldl_filtered (ps : List Predicate) (x : Plan) :
    (ps.foldl filtered x).clearOutputs = ps.foldl filtered x.clearOutputs :=
  (List.foldl_hom clearOutputs fun _ _ => rfl).symm

end Plan

theorem Placement.clearOutputs_combine (placement : Placement) (l r : Plan) :
    (placement.combine l r).clearOutputs = placement.combine l.clearOutputs r.clearOutputs := by
  rw [combine, combine, Plan.clearOutputs_foldl_filtered]
  cases placement.joinOn <;> rfl

namespace Situation

variable (s : Situation)

/-- An input is narrowed in the same way whatever it carries. -/
theorem erase_narrow (x : Plan) :
    (s.narrow x).erase (Prod.map Plan.clearOutputs id) = s.narrow x.clearOutputs := by
  rw [narrow, narrow, x.estimated_clearOutputs]
  refine Logged.erase_bind x.erase_estimated fun schema => ?_
  dsimp only [id]
  cases s.retained? schema with
  | none => rfl
  | some kept =>
    have h : (x.clearOutputs.narrowed kept).estimated = (x.narrowed kept).estimated :=
      (x.narrowed kept).estimated_clearOutputs
    dsimp only
    rw [h]
    exact Logged.erase_bind (x.narrowed kept).erase_estimated fun narrowed => rfl

/-- Two inputs have the same candidate whatever they carry. -/
theorem erase_candidate (l r : Plan) :
    (s.candidate l r).erase Candidate.clearOutputs =
      s.candidate l.clearOutputs r.clearOutputs := by
  rw [candidate, candidate]
  refine Logged.erase_bind (s.erase_narrow l) ?_
  rintro ⟨left, leftSchema⟩
  refine Logged.erase_bind (s.erase_narrow r) ?_
  rintro ⟨right, rightSchema⟩
  have hplan := (place leftSchema rightSchema s.pending).clearOutputs_combine left right
  dsimp only [Prod.map, id]
  rw [← hplan, Plan.estimated_clearOutputs]
  exact Logged.erase_bind (Plan.erase_estimated _) fun output => rfl

end Situation

/-! ### Choices -/

/-- The choice with the estimates removed from its inputs. -/
def Choice.clearOutputs (c : Choice) : Choice :=
  { c with left := c.left.clearOutputs, right := c.right.clearOutputs }

/-- Which choice is kept does not depend on the estimates in the plans. -/
theorem map_ite_beats (candidate : Candidate) (choice : Choice)
    (best : Option (Candidate × Choice)) :
    (if candidate.Beats (best.map Prod.fst) then some (candidate, choice) else best).map
        (Prod.map Candidate.clearOutputs Choice.clearOutputs) =
      if candidate.clearOutputs.Beats
          ((best.map (Prod.map Candidate.clearOutputs Choice.clearOutputs)).map Prod.fst)
        then some (candidate.clearOutputs, choice.clearOutputs)
        else best.map (Prod.map Candidate.clearOutputs Choice.clearOutputs) := by
  have hbeats : candidate.clearOutputs.Beats ((best.map (Prod.map Candidate.clearOutputs
      Choice.clearOutputs)).map Prod.fst) ↔ candidate.Beats (best.map Prod.fst) := by
    cases best <;> simp [Candidate.Beats, Candidate.clearOutputs]
  by_cases hb : candidate.Beats (best.map Prod.fst)
  · rw [if_pos hb, if_pos (hbeats.2 hb)]
    rfl
  · rw [if_neg hb, if_neg (mt hbeats.1 hb)]

namespace Search

/-- The search with the estimates removed from the plans at hand. -/
def clearOutputs (s : Search) : Search where
  combined := s.combined.map Plan.clearOutputs
  pool := s.pool.map Plan.clearOutputs
  pending := s.pending

theorem choices_clearOutputs (s : Search) :
    s.clearOutputs.choices = s.choices.map Choice.clearOutputs :=
  s.choices_mapPlans Plan.clearOutputs

theorem plan?_clearOutputs (s : Search) :
    s.clearOutputs.plan? = s.plan?.map Plan.clearOutputs :=
  s.plan?_mapPlans Plan.clearOutputs

/-- The first of the cheapest choices, if `f` gives the candidate of a choice. -/
def least (f : Choice → Logged Candidate) (choices : List Choice) :
    Logged (Option (Candidate × Choice)) :=
  choices.foldlM (fun best choice => do
    let candidate ← f choice
    return if candidate.Beats (best.map Prod.fst) then some (candidate, choice) else best) none

/-- The same choice is taken if the candidates are the same but for estimates. -/
theorem erase_least {f g : Choice → Logged Candidate}
    (h : ∀ c, (f c).erase Candidate.clearOutputs = g c.clearOutputs) (choices : List Choice) :
    (least f choices).erase (Option.map (Prod.map Candidate.clearOutputs Choice.clearOutputs)) =
      least g (choices.map Choice.clearOutputs) := by
  rw [least, least, List.foldlM_map]
  -- the best choice so far is carried along, with its candidate
  refine Logged.erase_foldlM (fun best choice => ?_) choices none
  refine Logged.erase_bind (h choice) fun candidate => ?_
  exact congrArg pure (map_ite_beats candidate choice best)

/-- The same choice is taken among the choices without estimates. -/
theorem erase_cheapest (σ : Situation) (choices : List Choice) :
    (cheapest σ choices).erase
        (Option.map (Prod.map Candidate.clearOutputs Choice.clearOutputs)) =
      cheapest σ (choices.map Choice.clearOutputs) :=
  erase_least (g := fun c => σ.candidate c.left c.right)
    (fun c => σ.erase_candidate c.left c.right) choices

/-! ### Steps and runs -/

variable (options : Options) (projections : List (List Attribute))

/-- A step goes the same way whatever the plans at hand carry. -/
theorem erase_step (s : Search) (k : Nat) :
    (s.step options projections k).erase clearOutputs =
      s.clearOutputs.step options projections k := by
  have hsituation : s.clearOutputs.situation options projections =
      s.situation options projections := rfl
  rw [step, step, hsituation, choices_clearOutputs]
  refine Logged.erase_bind (erase_cheapest _ _) fun chosen => ?_
  cases chosen with
  | none => rfl
  | some chosen =>
    obtain ⟨best, choice⟩ := chosen
    exact congrArg (fun pool => Logged.report (.committed k best.plan.clearOutputs best.cost) >>=
      fun _ => pure (Search.mk _ pool _)) (eraseAll_map _ _ _).symm

/-- The search goes the same way whatever the plans at hand carry. -/
theorem erase_steps (n : Nat) (s : Search) :
    (s.steps options projections n).erase clearOutputs =
      s.clearOutputs.steps options projections n := by
  rw [steps, steps]
  refine Logged.erase_foldlM (fun s k => ?_) (List.range n) s
  exact s.erase_step options projections (k + 1)

theorem result_steps_clearOutputs (n : Nat) (s : Search) :
    (s.clearOutputs.steps options projections n).result =
      (s.steps options projections n).result.map clearOutputs :=
  congrArg Logged.result (s.erase_steps options projections n).symm

end Search

/-! ### Whole plans -/

namespace Plan

variable {p q : Plan}

theorem optimise_clearOutputs (options : Options) (p : Plan) :
    p.clearOutputs.optimise options = p.optimise options := by
  rw [optimise, optimise, clearOutputs_clearOutputs, parts_clearOutputs]

/-- **Old estimates**: two plans that differ only in the estimates they carry are estimated and
optimised alike. Estimating changes no operator; if it succeeds, it leaves at every place what
estimating the part at that place alone leaves, so that estimating once more changes nothing. The
search, too, goes the same way whatever the plans at hand carry. -/
theorem estimate_optimise_congr (h : p.clearOutputs = q.clearOutputs) :
    p.estimated = q.estimated ∧
    (p.estimate.plan.clearOutputs = p.clearOutputs ∧
      q.estimate.plan.clearOutputs = q.clearOutputs) ∧
    (∀ r, p.estimated.result = .ok r →
      p.estimate.plan = q.estimate.plan ∧ p.estimate.plan.estimate.plan = p.estimate.plan ∧
      ∀ path n, p.at? path = some n →
        ∃ t, n.estimated.result = .ok t ∧ n.estimate.plan.output = some t ∧
          p.estimate.plan.at? path = some n.estimate.plan) ∧
    (∀ options, p.optimise options = q.optimise options) ∧
    ∀ options projections k (s t : Search), s.clearOutputs = t.clearOutputs →
      (s.steps options projections k).result.map Search.clearOutputs =
        (t.steps options projections k).result.map Search.clearOutputs := by
  refine ⟨estimated_congr h, ⟨p.clearOutputs_estimate, q.clearOutputs_estimate⟩, ?_, ?_, ?_⟩
  · intro r hr
    refine ⟨plan_estimate_congr h hr, estimate_plan_estimate hr, fun path n hn => ?_⟩
    obtain ⟨⟨t, ht⟩, hplan⟩ := estimate_at? hr hn
    exact ⟨t, ht, output_estimate ht, hplan⟩
  · intro options
    rw [← optimise_clearOutputs, h, optimise_clearOutputs]
  · intro options projections k s t hst
    rw [← Search.result_steps_clearOutputs, hst, Search.result_steps_clearOutputs]

/-- Readings by place, with other old estimates, none of them right. -/
def readingsByPlaceAged : Plan :=
  project [⟨"id", 1⟩] (select (.equality ⟨"sensor", 0⟩ ⟨"place", 1⟩)
    (product (scan readings (some ⟨.clamp 9, []⟩)) (read sensors) none)
    (some ⟨.clamp 2, [⟨"place", 0⟩]⟩)) none

theorem readingsByPlaceAged_congr :
    readingsByPlaceAged.clearOutputs = readingsByPlace.clearOutputs ∧
      readingsByPlaceAged.estimated = readingsByPlace.estimated ∧
      (∃ r, readingsByPlaceAged.estimated.result = .ok r) ∧
      readingsByPlaceAged.estimate.plan = readingsByPlace.estimate.plan ∧
      ∀ options, readingsByPlaceAged.optimise options = readingsByPlace.optimise options := by
  have h : readingsByPlaceAged.clearOutputs = readingsByPlace.clearOutputs := by decide
  obtain ⟨hsame, -, hplan, hoptimise, -⟩ := estimate_optimise_congr h
  have hr : ∃ r, readingsByPlaceAged.estimated.result = .ok r := ⟨_, rfl⟩
  exact ⟨h, hsame, hr, (hplan _ hr.choose_spec).1, hoptimise⟩

end Plan

end RelPlan
