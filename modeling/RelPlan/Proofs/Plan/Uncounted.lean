import RelPlan.Plan.Compact
import RelPlan.Plan.Path
import RelPlan.Proofs.Plan.Contents

/-!
# Value counts that are carried along

A predicate and a projection name attributes, and each of these comes with a value count of its
own, copied from where the attribute was found. `uncounted` forgets these copies, but not the
statistics of the base relations and not the estimates. Of a copy only the name is read: forgetting
commutes with the estimation of a plan (`Plan.estimate_uncounted`) and with taking it apart
(`Plan.parts_uncounted`).
-/

namespace RelPlan

/-! ### Attributes and predicates -/

/-- The attribute, its value count forgotten. -/
def Attribute.uncounted (a : Attribute) : Attribute := a.withValues 0

@[simp] theorem Attribute.name_uncounted (a : Attribute) : a.uncounted.name = a.name := rfl

@[simp] theorem namesOf_map_uncounted (as : List Attribute) :
    namesOf (as.map Attribute.uncounted) = namesOf as := by
  simp [namesOf]

theorem firstByName_map_uncounted (as : List Attribute) :
    firstByName (as.map Attribute.uncounted) = (firstByName as).map Attribute.uncounted := by
  induction as with
  | nil => rfl
  | cons a as ih =>
    rw [List.map_cons, firstByName, ih, List.filter_map]
    rfl

namespace Predicate

/-- The predicate, the value counts of its attributes forgotten. -/
def uncounted : Predicate → Predicate
  | literal a v => literal a.uncounted v
  | equality a b => equality a.uncounted b.uncounted

theorem attributes_uncounted (p : Predicate) :
    p.uncounted.attributes = p.attributes.map Attribute.uncounted := by
  cases p <;> rfl

@[simp] theorem text_uncounted (p : Predicate) : p.uncounted.text = p.text := by
  cases p <;> rfl

theorem within_uncounted {p : Predicate} {r : Relation} : p.uncounted.Within r ↔ p.Within r := by
  cases p <;> simp [uncounted]

theorem links_uncounted {p : Predicate} {l r : Relation} :
    p.uncounted.Links l r ↔ p.Links l r := by
  cases p <;> exact Iff.rfl

theorem uncounted_oriented (p : Predicate) (l : Relation) :
    (p.oriented l).uncounted = p.uncounted.oriented l := by
  have hname : p.uncounted.left.name = p.left.name := by cases p <;> rfl
  have hreversed : p.reversed.uncounted = p.uncounted.reversed := by cases p <;> rfl
  rw [oriented, oriented, hname]
  split
  · rfl
  · exact hreversed

end Predicate

/-! ### Errors -/

/-- The error, with the predicate it shows uncounted. -/
def PlanError.uncounted : PlanError → PlanError
  | invalidPredicate operator p => invalidPredicate operator p.uncounted
  | e => e

/-- A message shows no value counts. -/
theorem PlanError.message_uncounted (e : PlanError) : e.uncounted.message = e.message := by
  cases e with
  | invalidPredicate operator p =>
    exact congrArg (fun text => "invalid predicate for " ++ operator.name ++ ": " ++ text)
      p.text_uncounted
  | _ => rfl

theorem mapError_bind {ε ε' α β : Type} (g : ε → ε') (x : Except ε α) (f : α → Except ε β) :
    (x >>= f).mapError g = x.mapError g >>= fun a => (f a).mapError g := by
  cases x <;> rfl

/-! ### The formulas -/

theorem Relation.lookup_uncounted (r : Relation) (a : Attribute) :
    r.lookup a.uncounted = (r.lookup a).mapError PlanError.uncounted := by
  unfold lookup
  rw [a.name_uncounted]
  cases r.attribute? a.name <;> rfl

namespace Estimate

theorem select_uncounted (p : Predicate) (r : Relation) :
    select p.uncounted r = (select p r).mapError PlanError.uncounted := by
  cases p <;> simp only [select, Predicate.uncounted, Relation.lookup_uncounted, mapError_bind] <;>
    rfl

theorem project_uncounted (as : List Attribute) (r : Relation) :
    project (as.map Attribute.uncounted) r = (project as r).mapError PlanError.uncounted := by
  have hfind : (as.map Attribute.uncounted).find? (fun a => ¬ r.Has a.name) =
      (as.find? fun a => ¬ r.Has a.name).map Attribute.uncounted := List.find?_map
  rw [project, project, hfind, namesOf_map_uncounted]
  cases as.find? fun a => ¬ r.Has a.name <;> rfl

theorem join_uncounted (p : Predicate) (l r : Relation) :
    join p.uncounted l r = (join p l r).mapError PlanError.uncounted := by
  cases p with
  | literal a v => rfl
  | equality a b =>
    simp only [join, Predicate.uncounted, Relation.lookup_uncounted, mapError_bind]
    rfl

end Estimate

/-! ### Plans -/

namespace Plan

/-- The plan, with the value counts forgotten that its predicates and projections carry. The base
relations and the estimates stay as they are. -/
def uncounted : Plan → Plan
  | scan r o => scan r o
  | select p i o => select p.uncounted i.uncounted o
  | project as i o => project (as.map Attribute.uncounted) i.uncounted o
  | product l r o => product l.uncounted r.uncounted o
  | join p l r o => join p.uncounted l.uncounted r.uncounted o

@[simp] theorem output_uncounted (p : Plan) : p.uncounted.output = p.output := by
  cases p <;> rfl

@[simp] theorem scans_uncounted (p : Plan) : p.uncounted.scans = p.scans := by
  induction p <;> simp_all [uncounted, scans]

theorem compact_uncounted (p : Plan) : p.uncounted.compact = p.compact := by
  induction p <;> simp_all [uncounted, compact, headline]

theorem clearOutputs_uncounted (p : Plan) :
    p.uncounted.clearOutputs = p.clearOutputs.uncounted := by
  induction p <;> simp_all [uncounted, clearOutputs]

theorem inputs_uncounted (p : Plan) : p.uncounted.inputs = p.inputs.map uncounted := by
  cases p <;> rfl

theorem at?_uncounted (p : Plan) (path : List Nat) :
    p.uncounted.at? path = (p.at? path).map uncounted := by
  induction path generalizing p with
  | nil => rfl
  | cons k path ih =>
    rw [at?, at?, inputs_uncounted, List.getElem?_map]
    cases p.inputs[k]? with
    | none => rfl
    | some i => exact ih i

@[simp] theorem uncounted_foldl_filtered (ps : List Predicate) (x : Plan) :
    (ps.foldl filtered x).uncounted = (ps.map Predicate.uncounted).foldl filtered x.uncounted := by
  rw [List.foldl_map]
  exact (List.foldl_hom uncounted fun _ _ => rfl).symm

@[simp] theorem uncounted_foldl_narrowed (lists : List (List Attribute)) (x : Plan) :
    (lists.foldl narrowed x).uncounted =
      (lists.map (List.map Attribute.uncounted)).foldl narrowed x.uncounted := by
  rw [List.foldl_map]
  exact (List.foldl_hom uncounted fun _ _ => rfl).symm

end Plan

/-! ### Parts -/

/-- The parts, with the value counts forgotten that predicates and projections carry. -/
def Parts.uncounted (a : Parts) : Parts :=
  { a with
    predicates := a.predicates.map Predicate.uncounted
    projections := a.projections.map (List.map Attribute.uncounted) }

theorem Plan.partsFrom_uncounted (p : Plan) (above : Bool) :
    p.uncounted.partsFrom above = (p.partsFrom above).uncounted := by
  induction p generalizing above with
  | scan r o => rfl
  | select p i o ih => simp [uncounted, partsFrom, ih, Parts.uncounted, Parts.addPredicate]
  | project as i o ih =>
    cases above <;> simp [uncounted, partsFrom, ih, Parts.uncounted, Parts.addProjection]
  | product l r o ihl ihr =>
    show ((l.uncounted.partsFrom false).append (r.uncounted.partsFrom false)).addProduct =
      (((l.partsFrom false).append (r.partsFrom false)).addProduct).uncounted
    simp [ihl, ihr, Parts.uncounted, Parts.append, Parts.addProduct]
  | join p l r o ihl ihr =>
    show (((l.uncounted.partsFrom false).append
        (r.uncounted.partsFrom false)).addProduct.addPredicate p.uncounted) =
      (((l.partsFrom false).append (r.partsFrom false)).addProduct.addPredicate p).uncounted
    simp [ihl, ihr, Parts.uncounted, Parts.append, Parts.addProduct, Parts.addPredicate]

theorem Plan.parts_uncounted (p : Plan) : p.uncounted.parts = p.parts.uncounted :=
  p.partsFrom_uncounted true

/-! ### Estimating -/

/-- The estimation, with the plan and the error uncounted. -/
def Estimation.uncounted (e : Estimation) : Estimation where
  plan := e.plan.uncounted
  outcome := e.outcome.mapError PlanError.uncounted
  events := e.events

theorem Estimation.andThen_uncounted (e : Estimation) {rebuild rebuild' : Plan → Plan}
    {next next' : Plan → Estimation} (hr : ∀ x, rebuild' x.uncounted = (rebuild x).uncounted)
    (hn : ∀ x, next' x.uncounted = (next x).uncounted) :
    e.uncounted.andThen rebuild' next' = (e.andThen rebuild next).uncounted := by
  obtain ⟨plan, outcome, events⟩ := e
  cases outcome with
  | error err => exact congrArg (fun x => Estimation.mk x _ _) (hr plan)
  | ok r =>
    show { next' plan.uncounted with events := events ++ (next' plan.uncounted).events } = _
    rw [hn plan]
    rfl

namespace Plan

theorem rootOutput_uncounted (p : Plan) :
    p.uncounted.rootOutput = p.rootOutput.mapError PlanError.uncounted := by
  have hcarried : ∀ operator (i : Plan), i.uncounted.carried operator =
      (i.carried operator).mapError PlanError.uncounted := by
    intro operator i
    rw [carried, carried, output_uncounted]
    cases i.output <;> rfl
  cases p with
  | scan r o => rfl
  | select p i o =>
    simp only [uncounted, rootOutput, hcarried, mapError_bind, Estimate.select_uncounted]
  | project as i o =>
    simp only [uncounted, rootOutput, hcarried, mapError_bind, Estimate.project_uncounted]
  | product l r o =>
    simp only [uncounted, rootOutput, hcarried, mapError_bind]
    rfl
  | join p l r o =>
    simp only [uncounted, rootOutput, hcarried, mapError_bind, Estimate.join_uncounted]

theorem estimateRoot_uncounted (p : Plan) :
    p.uncounted.estimateRoot = p.estimateRoot.uncounted := by
  rw [estimateRoot, estimateRoot, rootOutput_uncounted]
  cases p.rootOutput with
  | error e => rfl
  | ok r => cases p <;> rfl

/-- **Estimating** reads the names alone: without the counts that predicates and projections carry,
the same is estimated at every node, the same is reported, and the outcome is the same. -/
theorem estimate_uncounted (p : Plan) : p.uncounted.estimate = p.estimate.uncounted := by
  induction p with
  | scan r o => exact estimateRoot_uncounted (scan r o)
  | select p i o ih =>
    show i.uncounted.estimate.andThen _ _ = _
    rw [ih]
    exact i.estimate.andThen_uncounted (fun _ => rfl) fun x =>
      estimateRoot_uncounted (select p x o)
  | project as i o ih =>
    show i.uncounted.estimate.andThen _ _ = _
    rw [ih]
    exact i.estimate.andThen_uncounted (fun _ => rfl) fun x =>
      estimateRoot_uncounted (project as x o)
  | product l r o ihl ihr =>
    show l.uncounted.estimate.andThen _ _ = _
    rw [ihl]
    refine l.estimate.andThen_uncounted (fun _ => rfl) fun x => ?_
    rw [ihr]
    exact r.estimate.andThen_uncounted (fun _ => rfl) fun y =>
      estimateRoot_uncounted (product x y o)
  | join p l r o ihl ihr =>
    show l.uncounted.estimate.andThen _ _ = _
    rw [ihl]
    refine l.estimate.andThen_uncounted (fun _ => rfl) fun x => ?_
    rw [ihr]
    exact r.estimate.andThen_uncounted (fun _ => rfl) fun y =>
      estimateRoot_uncounted (join p x y o)

/-- Plans that differ in carried counts alone are estimated to plans and outcomes that do. -/
theorem uncounted_estimate_congr {p q : Plan} (h : p.uncounted = q.uncounted) :
    p.estimate.uncounted = q.estimate.uncounted := by
  rw [← estimate_uncounted, h, estimate_uncounted]

end Plan

end RelPlan
