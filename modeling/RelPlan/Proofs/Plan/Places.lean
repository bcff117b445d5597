import RelPlan.Plan.Path
import RelPlan.Proofs.Plan.Annotated

/-!
# Estimates at the places of a plan

If a plan can be estimated, so can the plan at any place in it, and estimating the whole leaves
there what estimating that part alone leaves (`Plan.estimate_at?`). What estimating leaves does not
depend on the estimates that were in the tree before, nor does what it reports
(`Plan.plan_estimate_congr`, `Plan.estimated_congr`).
-/

namespace RelPlan

variable {p q n : Plan} {s : Relation}

namespace Plan

/-! ### The part of a plan at a place -/

@[simp] theorem inputs_withOutput (p : Plan) (o : Option Relation) :
    (p.withOutput o).inputs = p.inputs := by
  cases p <;> rfl

/-- A plan that can be estimated has inputs that can be, and they are estimated in place. -/
theorem inputs_estimate (h : p.estimate.outcome = .ok s) :
    (∀ i ∈ p.inputs, ∃ t, i.estimate.outcome = .ok t) ∧
      p.estimate.plan.inputs = p.inputs.map fun i => i.estimate.plan := by
  cases p with
  | scan r o => exact ⟨nofun, rfl⟩
  | select p i o =>
    obtain ⟨hi, hplan⟩ := plan_unary (select p · o) h
    rw [estimate, hplan, inputs_withOutput]
    exact ⟨List.forall_mem_singleton.2 hi, rfl⟩
  | project as i o =>
    obtain ⟨hi, hplan⟩ := plan_unary (project as · o) h
    rw [estimate, hplan, inputs_withOutput]
    exact ⟨List.forall_mem_singleton.2 hi, rfl⟩
  | product l r o =>
    obtain ⟨hl, hr, hplan⟩ := plan_binary (product · · o) h
    rw [estimate, hplan, inputs_withOutput]
    exact ⟨List.forall_mem_cons.2 ⟨hl, List.forall_mem_singleton.2 hr⟩, rfl⟩
  | join p l r o =>
    obtain ⟨hl, hr, hplan⟩ := plan_binary (join p · · o) h
    rw [estimate, hplan, inputs_withOutput]
    exact ⟨List.forall_mem_cons.2 ⟨hl, List.forall_mem_singleton.2 hr⟩, rfl⟩

/-- Estimating a plan estimates the plan at every place in it. -/
theorem estimate_at? (h : p.estimate.outcome = .ok s) {path : List Nat} (hn : p.at? path = some n) :
    (∃ t, n.estimate.outcome = .ok t) ∧ p.estimate.plan.at? path = some n.estimate.plan := by
  induction path generalizing p s with
  | nil =>
    cases hn
    exact ⟨⟨s, h⟩, rfl⟩
  | cons k path ih =>
    obtain ⟨hinputs, hplan⟩ := inputs_estimate h
    rw [at?, Option.bind_eq_some_iff] at hn
    obtain ⟨i, hi, hn⟩ := hn
    obtain ⟨t, ht⟩ := hinputs i (List.mem_of_getElem? hi)
    rw [at?, hplan, List.getElem?_map, hi]
    exact ih ht hn

/-! ### What was in the tree before -/

/-- The outcome is that of the same tree with other estimates in it. -/
theorem outcome_congr (h : p.clearOutputs = q.clearOutputs) :
    p.estimate.outcome = q.estimate.outcome := by
  rw [← outcome_clearOutputs, h, outcome_clearOutputs]

theorem Carries.output_eq (hp : p.Carries) (hq : q.Carries) (h : p.clearOutputs = q.clearOutputs) :
    p.output = q.output := by
  obtain ⟨r, hr, hpr⟩ := hp
  obtain ⟨t, ht, hqt⟩ := hq
  have hrt : Except.ok r = Except.ok t := hpr.symm.trans ((outcome_congr h).trans hqt)
  rw [hr, ht, Except.ok.inj hrt]

/-- A tree that carries its estimate at every node is known by its operators. -/
theorem eq_of_carries (hp : p.Everywhere Carries) (hq : q.Everywhere Carries)
    (h : p.clearOutputs = q.clearOutputs) : p = q := by
  have ho := hp.root.output_eq hq.root h
  induction p generalizing q with
  | scan r o =>
    cases q <;> simp only [clearOutputs, scan.injEq, reduceCtorEq, and_true] at h
    exact congrArg₂ scan h ho
  | select p i o ih =>
    cases q <;> simp only [clearOutputs, select.injEq, reduceCtorEq, and_true] at h
    obtain ⟨rfl, hi⟩ := h
    obtain rfl := ih hp.2 hq.2 hi (hp.2.root.output_eq hq.2.root hi)
    exact congrArg (select p i) ho
  | project as i o ih =>
    cases q <;> simp only [clearOutputs, project.injEq, reduceCtorEq, and_true] at h
    obtain ⟨rfl, hi⟩ := h
    obtain rfl := ih hp.2 hq.2 hi (hp.2.root.output_eq hq.2.root hi)
    exact congrArg (project as i) ho
  | product l r o ihl ihr =>
    cases q <;> simp only [clearOutputs, product.injEq, reduceCtorEq, and_true] at h
    obtain ⟨hl, hr⟩ := h
    obtain rfl := ihl hp.2.1 hq.2.1 hl (hp.2.1.root.output_eq hq.2.1.root hl)
    obtain rfl := ihr hp.2.2 hq.2.2 hr (hp.2.2.root.output_eq hq.2.2.root hr)
    exact congrArg (product l r) ho
  | join p l r o ihl ihr =>
    cases q <;> simp only [clearOutputs, join.injEq, reduceCtorEq, and_true] at h
    obtain ⟨rfl, hl, hr⟩ := h
    obtain rfl := ihl hp.2.1 hq.2.1 hl (hp.2.1.root.output_eq hq.2.1.root hl)
    obtain rfl := ihr hp.2.2 hq.2.2 hr (hp.2.2.root.output_eq hq.2.2.root hr)
    exact congrArg (join p l r) ho

/-- If it succeeds, estimating leaves the same tree whatever estimates were in it. -/
theorem plan_estimate_congr (h : p.clearOutputs = q.clearOutputs)
    (hp : p.estimate.outcome = .ok s) : p.estimate.plan = q.estimate.plan := by
  have hq : q.estimate.outcome = .ok s := (outcome_congr h).symm.trans hp
  refine eq_of_carries (carries_estimate hp) (carries_estimate hq) ?_
  rw [clearOutputs_estimate, clearOutputs_estimate, h]

/-- Estimating a second time leaves the tree as it is. -/
theorem estimate_plan_estimate (h : p.estimate.outcome = .ok s) :
    p.estimate.plan.estimate.plan = p.estimate.plan :=
  plan_estimate_congr p.clearOutputs_estimate (p.outcome_estimate.trans h)

/-! ### What is reported -/

/-- What the root is estimated at, and whether that is reported, is up to its inputs. -/
theorem logged_estimateRoot (hr : p.rootOutput = q.rootOutput) (ho : p.operator = q.operator) :
    p.estimateRoot.logged = q.estimateRoot.logged := by
  unfold estimateRoot
  rw [hr, ho]
  cases q.rootOutput <;> rfl

end Plan

theorem Estimation.logged_andThen_congr {e e' : Estimation} {rebuild rebuild' : Plan → Plan}
    {next next' : Plan → Estimation} (h : e.logged = e'.logged)
    (hnext : ∀ r, e.outcome = .ok r → (next e.plan).logged = (next' e'.plan).logged) :
    (e.andThen rebuild next).logged = (e'.andThen rebuild' next').logged := by
  have hout : e.outcome = e'.outcome := congrArg Logged.result h
  have hev : e.events = e'.events := congrArg Logged.events h
  unfold andThen
  rw [← hout]
  cases he : e.outcome with
  | error err => exact congrArg (Logged.mk (.error err)) hev
  | ok r =>
    have hn := hnext r he
    refine Logged.ext ?_ ?_
    · exact (congrArg Logged.result hn :)
    · exact (congrArg₂ (· ++ ·) hev (congrArg Logged.events hn) :)

namespace Plan

/-- A node with one input is estimated as if its input and itself had carried nothing. -/
theorem logged_unary {i : Plan} (node node' : Plan → Plan)
    (hi : i.clearOutputs.estimated = i.estimated)
    (hr : ∀ x, (node' x).estimateRoot.logged = (node x).estimateRoot.logged) :
    (i.clearOutputs.estimate.andThen node' fun i' => (node' i').estimateRoot).logged =
      (i.estimate.andThen node fun i' => (node i').estimateRoot).logged := by
  refine Estimation.logged_andThen_congr hi fun t ht => ?_
  rw [plan_estimate_congr i.clearOutputs_clearOutputs ht]
  exact hr _

/-- Estimating reports the same, and comes to the same, for the tree without its estimates. -/
theorem estimated_clearOutputs (p : Plan) : p.clearOutputs.estimated = p.estimated := by
  induction p with
  | scan r o => rfl
  | select p i o ih =>
    exact logged_unary (select p · o) (select p · none) ih fun x => logged_estimateRoot rfl rfl
  | project as i o ih =>
    exact logged_unary (project as · o) (project as · none) ih fun x => logged_estimateRoot rfl rfl
  | product l r o ihl ihr =>
    refine Estimation.logged_andThen_congr ihl fun t ht => ?_
    rw [plan_estimate_congr l.clearOutputs_clearOutputs ht]
    exact logged_unary (product _ · o) (product _ · none) ihr fun x => logged_estimateRoot rfl rfl
  | join p l r o ihl ihr =>
    refine Estimation.logged_andThen_congr ihl fun t ht => ?_
    rw [plan_estimate_congr l.clearOutputs_clearOutputs ht]
    exact logged_unary (join p _ · o) (join p _ · none) ihr fun x => logged_estimateRoot rfl rfl

/-- Estimating reports the same, and comes to the same, for the tree with other estimates in it. -/
theorem estimated_congr (h : p.clearOutputs = q.clearOutputs) : p.estimated = q.estimated := by
  rw [← estimated_clearOutputs, h, estimated_clearOutputs]

end Plan

end RelPlan
