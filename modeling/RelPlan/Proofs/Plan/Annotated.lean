import RelPlan.Explain
import RelPlan.Proofs.Plan.Nodes

/-!
# Estimates in place

Estimating a plan writes estimates into its nodes and changes nothing else
(`Plan.clearOutputs_estimate`). If it succeeds, every node carries the relation that is estimated
for the tree below it (`Plan.Carries`, `Plan.carries_estimate`), whatever it carried before. Nodes
with one input and nodes with two are treated once each, as functions of their inputs.
-/

namespace RelPlan

namespace Estimation

variable {e : Estimation} {rebuild : Plan → Plan} {next : Plan → Estimation}

/-- What holds of the node around the input, and of the plan left by the second part, holds of the
plan left by the sequence. -/
theorem plan_andThen {P : Plan → Prop} (hr : P (rebuild e.plan)) (hn : P (next e.plan).plan) :
    P (e.andThen rebuild next).plan := by
  cases h : e.outcome with
  | error err => rwa [andThen_of_error h]
  | ok r => rwa [plan_andThen_of_ok h]

/-- A sequence succeeds if both parts do, and leaves the plan of the second one. -/
theorem andThen_eq_ok {r : Relation} (h : (e.andThen rebuild next).outcome = .ok r) :
    (∃ a, e.outcome = .ok a) ∧ (next e.plan).outcome = .ok r ∧
      (e.andThen rebuild next).plan = (next e.plan).plan := by
  rw [outcome_andThen, bind_eq_ok_iff] at h
  obtain ⟨a, ha, h⟩ := h
  exact ⟨⟨a, ha⟩, h, plan_andThen_of_ok ha⟩

end Estimation

namespace Plan

/-! ### Nothing else changes -/

theorem clearOutputs_estimateRoot (p : Plan) :
    p.estimateRoot.plan.clearOutputs = p.clearOutputs := by
  unfold estimateRoot
  cases p.rootOutput with
  | error => rfl
  | ok r => cases p <;> rfl

/-- Estimating a node behind its only input. -/
theorem clearOutputs_unary {i : Plan} (node : Plan → Plan)
    (h : (node i.estimate.plan).clearOutputs = (node i).clearOutputs) :
    (i.estimate.andThen node fun i' => (node i').estimateRoot).plan.clearOutputs =
      (node i).clearOutputs := by
  refine Estimation.plan_andThen (P := fun x => x.clearOutputs = _) h ?_
  rw [clearOutputs_estimateRoot, h]

/-- Estimating a node behind its two inputs. -/
theorem clearOutputs_binary {l r : Plan} (node : Plan → Plan → Plan)
    (hl : (node l.estimate.plan r).clearOutputs = (node l r).clearOutputs)
    (hr : (node l.estimate.plan r.estimate.plan).clearOutputs = (node l r).clearOutputs) :
    (l.estimate.andThen (node · r) fun l' =>
      r.estimate.andThen (node l') fun r' => (node l' r').estimateRoot).plan.clearOutputs =
      (node l r).clearOutputs := by
  refine Estimation.plan_andThen (P := fun x => x.clearOutputs = _) hl ?_
  refine Estimation.plan_andThen (P := fun x => x.clearOutputs = _) hr ?_
  rw [clearOutputs_estimateRoot, hr]

/-- Estimating changes nothing but estimates, also where it fails. -/
theorem clearOutputs_estimate (p : Plan) : p.estimate.plan.clearOutputs = p.clearOutputs := by
  induction p with
  | scan r o => exact clearOutputs_estimateRoot _
  | select p i o ih => exact clearOutputs_unary (select p · o) (by simp only [clearOutputs, ih])
  | project as i o ih => exact clearOutputs_unary (project as · o) (by simp only [clearOutputs, ih])
  | product l r o ihl ihr =>
    exact clearOutputs_binary (product · · o) (by simp only [clearOutputs, ihl])
      (by simp only [clearOutputs, ihl, ihr])
  | join p l r o ihl ihr =>
    exact clearOutputs_binary (join p · · o) (by simp only [clearOutputs, ihl])
      (by simp only [clearOutputs, ihl, ihr])

/-- Estimating a second time has the same outcome. -/
theorem outcome_estimate (p : Plan) : p.estimate.plan.estimate.outcome = p.estimate.outcome := by
  rw [← outcome_clearOutputs, clearOutputs_estimate, outcome_clearOutputs]

theorem scans_estimate (p : Plan) : p.estimate.plan.scans = p.scans := by
  rw [← scans_clearOutputs, clearOutputs_estimate, scans_clearOutputs]

/-! ### Every node is estimated -/

theorem plan_estimateRoot {p : Plan} {r : Relation} (h : p.estimateRoot.outcome = .ok r) :
    p.estimateRoot.plan = p.withOutput (some r) := by
  rw [outcome_estimateRoot] at h
  rw [estimateRoot, h]

theorem plan_unary {i : Plan} {s : Relation} (node : Plan → Plan)
    (h : (i.estimate.andThen node fun i' => (node i').estimateRoot).outcome = .ok s) :
    (∃ a, i.estimate.outcome = .ok a) ∧
      (i.estimate.andThen node fun i' => (node i').estimateRoot).plan =
        (node i.estimate.plan).withOutput (some s) := by
  obtain ⟨hi, hnode, hplan⟩ := Estimation.andThen_eq_ok h
  exact ⟨hi, hplan.trans (plan_estimateRoot hnode)⟩

theorem plan_binary {l r : Plan} {s : Relation} (node : Plan → Plan → Plan)
    (h : (l.estimate.andThen (node · r) fun l' =>
      r.estimate.andThen (node l') fun r' => (node l' r').estimateRoot).outcome = .ok s) :
    (∃ a, l.estimate.outcome = .ok a) ∧ (∃ b, r.estimate.outcome = .ok b) ∧
      (l.estimate.andThen (node · r) fun l' =>
        r.estimate.andThen (node l') fun r' => (node l' r').estimateRoot).plan =
        (node l.estimate.plan r.estimate.plan).withOutput (some s) := by
  obtain ⟨hl, hright, hplan⟩ := Estimation.andThen_eq_ok h
  obtain ⟨hr, hnode, hplan'⟩ := Estimation.andThen_eq_ok hright
  exact ⟨hl, hr, (hplan.trans hplan').trans (plan_estimateRoot hnode)⟩

/-- The root carries the relation that is estimated for the plan. -/
def Carries (p : Plan) : Prop := ∃ r, p.output = some r ∧ p.estimate.outcome = .ok r

theorem root_carries_estimate {p : Plan} {s : Relation} (h : p.estimate.outcome = .ok s) :
    p.estimate.plan.Carries :=
  ⟨s, output_estimate h, p.outcome_estimate.trans h⟩

/-- A plan that was estimated carries its estimate at every node. -/
theorem carries_estimate {p : Plan} {s : Relation} (h : p.estimate.outcome = .ok s) :
    p.estimate.plan.Everywhere Carries := by
  have hroot := root_carries_estimate h
  induction p generalizing s with
  | scan r o => exact hroot
  | select p i o ih =>
    obtain ⟨⟨a, hi⟩, hplan⟩ := plan_unary (select p · o) h
    rw [estimate, hplan] at hroot ⊢
    exact ⟨hroot, ih hi (root_carries_estimate hi)⟩
  | project as i o ih =>
    obtain ⟨⟨a, hi⟩, hplan⟩ := plan_unary (project as · o) h
    rw [estimate, hplan] at hroot ⊢
    exact ⟨hroot, ih hi (root_carries_estimate hi)⟩
  | product l r o ihl ihr =>
    obtain ⟨⟨a, hl⟩, ⟨b, hr⟩, hplan⟩ := plan_binary (product · · o) h
    rw [estimate, hplan] at hroot ⊢
    exact ⟨hroot, ihl hl (root_carries_estimate hl), ihr hr (root_carries_estimate hr)⟩
  | join p l r o ihl ihr =>
    obtain ⟨⟨a, hl⟩, ⟨b, hr⟩, hplan⟩ := plan_binary (join p · · o) h
    rw [estimate, hplan] at hroot ⊢
    exact ⟨hroot, ihl hl (root_carries_estimate hl), ihr hr (root_carries_estimate hr)⟩

end Plan

end RelPlan
