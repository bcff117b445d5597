import RelPlan.Estimate.Formula
import RelPlan.Logged

/-!
# Estimating a plan

`Plan.estimateRoot` estimates one node from the estimates its inputs carry. `Plan.estimate`
estimates a whole tree, inputs before the node above them and left before right, and stops at the
first node that fails: the nodes estimated until then carry new estimates, the others are as they
were. The outcome is given by the formulas alone (`outcome_scan` to `outcome_join`), whatever the
plan carried before (`outcome_clearOutputs`).
-/

namespace RelPlan

/-- What estimating leaves behind. -/
structure Estimation where
  /-- The plan, with the new estimates in place. -/
  plan : Plan
  /-- The relation estimated for the root, or why there is none. -/
  outcome : Except PlanError Relation
  /-- One event for every node that was estimated, in order. -/
  events : List Event

namespace Estimation

/-- An estimation as a computation: its outcome and its events. -/
def logged (e : Estimation) : Logged Relation := ⟨e.outcome, e.events⟩

@[simp] theorem result_logged (e : Estimation) : e.logged.result = e.outcome := rfl

@[simp] theorem events_logged (e : Estimation) : e.logged.events = e.events := rfl

/-- The estimation of a node whose input is estimated by `e`: `rebuild` puts the input back into
the node, and `next` goes on from the input if it could be estimated. -/
def andThen (e : Estimation) (rebuild : Plan → Plan) (next : Plan → Estimation) : Estimation :=
  match e.outcome with
  | .error err => ⟨rebuild e.plan, .error err, e.events⟩
  | .ok _ => { next e.plan with events := e.events ++ (next e.plan).events }

variable {e : Estimation} {rebuild : Plan → Plan} {next : Plan → Estimation}

theorem andThen_of_error {err : PlanError} (h : e.outcome = .error err) :
    e.andThen rebuild next = ⟨rebuild e.plan, .error err, e.events⟩ := by
  rw [andThen, h]

theorem outcome_andThen :
    (e.andThen rebuild next).outcome = e.outcome >>= fun _ => (next e.plan).outcome := by
  unfold andThen
  cases e.outcome <;> rfl

theorem plan_andThen_of_ok {r : Relation} (h : e.outcome = .ok r) :
    (e.andThen rebuild next).plan = (next e.plan).plan := by
  rw [andThen, h]

theorem forall_mem_events_andThen {P : Event → Prop} (he : ∀ x ∈ e.events, P x)
    (hn : ∀ i, ∀ x ∈ (next i).events, P x) : ∀ x ∈ (e.andThen rebuild next).events, P x := by
  unfold andThen
  cases e.outcome with
  | error err => exact he
  | ok r => exact List.forall_mem_append.2 ⟨he, hn e.plan⟩

end Estimation

namespace Plan

/-- The estimate that the input of an `operator` carries. -/
def carried (operator : Operator) (input : Plan) : Except PlanError Relation :=
  match input.output with
  | some r => .ok r
  | none => .error (.missingInput operator)

/-- The output of the root, computed from the estimates its inputs carry. -/
def rootOutput : Plan → Except PlanError Relation
  | scan r _ => .ok (Estimate.scan r)
  | select p i _ => do Estimate.select p (← i.carried .select)
  | project as i _ => do Estimate.project as (← i.carried .project)
  | product l r _ => do
    let left ← l.carried .product
    let right ← r.carried .product
    return Estimate.product left right
  | join p l r _ => do
    let left ← l.carried .join
    let right ← r.carried .join
    Estimate.join p left right

/-- Estimate the root alone; a plan whose root cannot be estimated stays as it is. -/
def estimateRoot (p : Plan) : Estimation :=
  match p.rootOutput with
  | .ok r => ⟨p.withOutput (some r), .ok r, [.estimated p.operator r]⟩
  | .error e => ⟨p, .error e, []⟩

/-- Estimate the whole tree. -/
def estimate : Plan → Estimation
  | scan r o => (scan r o).estimateRoot
  | select p i o => i.estimate.andThen (select p · o) fun i' => (select p i' o).estimateRoot
  | project as i o => i.estimate.andThen (project as · o) fun i' => (project as i' o).estimateRoot
  | product l r o =>
    l.estimate.andThen (product · r o) fun l' =>
      r.estimate.andThen (product l' · o) fun r' => (product l' r' o).estimateRoot
  | join p l r o =>
    l.estimate.andThen (join p · r o) fun l' =>
      r.estimate.andThen (join p l' · o) fun r' => (join p l' r' o).estimateRoot

/-- The relation estimated for a plan, together with the events of estimating it. -/
def estimated (p : Plan) : Logged Relation := p.estimate.logged

/-- The plan with its estimates in place, and the relation estimated for it. -/
def annotated (p : Plan) : Logged (Plan × Relation) :=
  let e := p.estimate
  ⟨e.outcome.map fun r => (e.plan, r), e.events⟩

/-! ### What estimating a tree comes to -/

theorem outcome_estimateRoot (p : Plan) : p.estimateRoot.outcome = p.rootOutput := by
  unfold estimateRoot
  cases p.rootOutput <;> rfl

/-- A root that was estimated carries its estimate. -/
theorem output_estimateRoot {p : Plan} {r : Relation} (h : p.rootOutput = .ok r) :
    p.estimateRoot.plan.output = some r := by
  rw [estimateRoot, h]
  exact p.output_withOutput _

theorem carried_of_output {operator : Operator} {input : Plan} {r : Relation}
    (h : input.output = some r) : input.carried operator = .ok r := by
  rw [carried, h]

/-- A tree that was estimated carries its estimate at the root. -/
theorem output_estimate {p : Plan} {r : Relation} (h : p.estimate.outcome = .ok r) :
    p.estimate.plan.output = some r := by
  have root {q : Plan} (hq : q.estimateRoot.outcome = .ok r) :
      q.estimateRoot.plan.output = some r := by
    rw [outcome_estimateRoot] at hq
    exact output_estimateRoot hq
  have unary {i : Plan} {rebuild : Plan → Plan} {next : Plan → Estimation}
      (hn : ∀ i', (next i').outcome = .ok r → (next i').plan.output = some r)
      (hi : (i.estimate.andThen rebuild next).outcome = .ok r) :
      (i.estimate.andThen rebuild next).plan.output = some r := by
    cases hc : i.estimate.outcome with
    | error e =>
      rw [Estimation.andThen_of_error hc] at hi
      cases hi
    | ok a =>
      rw [Estimation.plan_andThen_of_ok hc]
      rw [Estimation.outcome_andThen, hc] at hi
      exact hn _ hi
  cases p with
  | scan => exact root h
  | select => exact unary (fun _ => root) h
  | project => exact unary (fun _ => root) h
  | product => exact unary (fun _ => unary fun _ => root) h
  | join => exact unary (fun _ => unary fun _ => root) h

/-- A scan is estimated by its formula. -/
@[simp] theorem outcome_scan (r : BaseRelation) (o : Option Relation) :
    (scan r o).estimate.outcome = .ok (Estimate.scan r) := rfl

/-- A selection is estimated by its formula from the estimate of its input. -/
@[simp] theorem outcome_select (p : Predicate) (i : Plan) (o : Option Relation) :
    (select p i o).estimate.outcome = i.estimate.outcome >>= Estimate.select p := by
  rw [estimate, Estimation.outcome_andThen]
  cases hi : i.estimate.outcome with
  | error => rfl
  | ok r =>
    show (select p i.estimate.plan o).estimateRoot.outcome = Estimate.select p r
    rw [outcome_estimateRoot, rootOutput, carried_of_output (output_estimate hi)]
    rfl

/-- A projection is estimated by its formula from the estimate of its input. -/
@[simp] theorem outcome_project (as : List Attribute) (i : Plan) (o : Option Relation) :
    (project as i o).estimate.outcome = i.estimate.outcome >>= Estimate.project as := by
  rw [estimate, Estimation.outcome_andThen]
  cases hi : i.estimate.outcome with
  | error => rfl
  | ok r =>
    show (project as i.estimate.plan o).estimateRoot.outcome = Estimate.project as r
    rw [outcome_estimateRoot, rootOutput, carried_of_output (output_estimate hi)]
    rfl

/-- A product is estimated by its formula from the estimates of its inputs, left before right. -/
@[simp] theorem outcome_product (l r : Plan) (o : Option Relation) :
    (product l r o).estimate.outcome =
      l.estimate.outcome >>= fun a => r.estimate.outcome >>= fun b =>
        .ok (Estimate.product a b) := by
  rw [estimate, Estimation.outcome_andThen]
  cases hl : l.estimate.outcome with
  | error => rfl
  | ok a =>
    show (r.estimate.andThen _ _).outcome = _
    rw [Estimation.outcome_andThen]
    cases hr : r.estimate.outcome with
    | error => rfl
    | ok b =>
      show (product l.estimate.plan r.estimate.plan o).estimateRoot.outcome =
        .ok (Estimate.product a b)
      rw [outcome_estimateRoot, rootOutput, carried_of_output (output_estimate hl),
        carried_of_output (output_estimate hr)]
      rfl

/-- A join is estimated by its formula from the estimates of its inputs, left before right. -/
@[simp] theorem outcome_join (p : Predicate) (l r : Plan) (o : Option Relation) :
    (join p l r o).estimate.outcome =
      l.estimate.outcome >>= fun a => r.estimate.outcome >>= fun b => Estimate.join p a b := by
  rw [estimate, Estimation.outcome_andThen]
  cases hl : l.estimate.outcome with
  | error => rfl
  | ok a =>
    show (r.estimate.andThen _ _).outcome = _
    rw [Estimation.outcome_andThen]
    cases hr : r.estimate.outcome with
    | error => rfl
    | ok b =>
      show (join p l.estimate.plan r.estimate.plan o).estimateRoot.outcome = Estimate.join p a b
      rw [outcome_estimateRoot, rootOutput, carried_of_output (output_estimate hl),
        carried_of_output (output_estimate hr)]
      rfl

/-- Nothing is reported but that nodes were estimated. -/
theorem forall_mem_events_estimate {P : Event → Prop}
    (hP : ∀ operator r, P (.estimated operator r)) (p : Plan) : ∀ x ∈ p.estimate.events, P x := by
  have root (q : Plan) : ∀ x ∈ q.estimateRoot.events, P x := by
    unfold estimateRoot
    cases q.rootOutput with
    | error e => exact fun x hx => absurd hx List.not_mem_nil
    | ok r => exact List.forall_mem_singleton.2 (hP q.operator r)
  induction p with
  | scan r o => exact root _
  | select q i o ih => exact Estimation.forall_mem_events_andThen ih fun _ => root _
  | project as i o ih => exact Estimation.forall_mem_events_andThen ih fun _ => root _
  | product l r o ihl ihr =>
    exact Estimation.forall_mem_events_andThen ihl fun _ =>
      Estimation.forall_mem_events_andThen ihr fun _ => root _
  | join q l r o ihl ihr =>
    exact Estimation.forall_mem_events_andThen ihl fun _ =>
      Estimation.forall_mem_events_andThen ihr fun _ => root _

/-- The outcome does not depend on the estimates that a plan carries. -/
theorem outcome_clearOutputs (p : Plan) : p.clearOutputs.estimate.outcome = p.estimate.outcome := by
  induction p <;> simp_all [clearOutputs]

end Plan

end RelPlan
