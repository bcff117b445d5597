import RelPlan.Proofs.Optimise.Preservation
import RelPlan.Proofs.Plan.Uncounted

/-!
# Only the statistics of base relations matter

Two searches whose plans and predicates differ at most in the value counts that are carried along
go the same way: the same inputs are narrowed, the same predicates placed, the same costs compared
and the same choices made (`Search.step_agree`), so that they end alike (`Search.run_agree`). What
they put together differs at most in carried counts again. So plans that differ in these counts
alone are estimated and optimised alike (`Plan.estimate_optimise_uncounted`).
-/

namespace RelPlan

variable {α β γ δ : Type}

/-! ### Outcomes that agree -/

/-- Both outcomes are errors that say the same, or both are values that `f` takes for the same. -/
def Agree (f : α → γ) : Except PlanError α → Except PlanError α → Prop
  | .ok a, .ok b => f a = f b
  | .error e, .error e' => e.uncounted = e'.uncounted ∧ e.message = e'.message
  | _, _ => False

theorem Agree.refl (f : α → γ) (x : Except PlanError α) : Agree f x x := by
  cases x with
  | error e => exact ⟨rfl, rfl⟩
  | ok a => exact rfl

/-- Outcomes that agree still do if fewer values are told apart. -/
theorem Agree.mono {f : α → γ} {g : α → δ} {x y : Except PlanError α} (h : Agree f x y)
    (hfg : ∀ a b, f a = f b → g a = g b) : Agree g x y := by
  cases x with
  | error e =>
    cases y with
    | error e' => exact h
    | ok b => exact h.elim
  | ok a =>
    cases y with
    | error e' => exact h.elim
    | ok b => exact hfg a b h

theorem Agree.exists_ok {f : α → γ} {x : Except PlanError α} {b : α} (h : Agree f x (.ok b)) :
    ∃ a, x = .ok a ∧ f a = f b := by
  cases x with
  | error e => exact h.elim
  | ok a => exact ⟨a, rfl, h⟩

/-- The second parts of two sequences agree if they do so for values that are taken for the same. -/
theorem Agree.bind {f : α → γ} {g : β → δ} {x y : Except PlanError α}
    {k k' : α → Except PlanError β} (h : Agree f x y)
    (hk : ∀ a b, f a = f b → Agree g (k a) (k' b)) : Agree g (x >>= k) (y >>= k') := by
  cases x with
  | error e =>
    cases y with
    | error e' => exact h
    | ok b => exact h.elim
  | ok a =>
    cases y with
    | error e' => exact h.elim
    | ok b => exact hk a b h

/-- Folds agree if every step keeps states that are taken for the same so. -/
theorem Agree.foldlM {e : β → γ} {g : α → δ} {f f' : β → α → Except PlanError β}
    (h : ∀ b c x y, e b = e c → g x = g y → Agree e (f b x) (f' c y)) {xs ys : List α}
    (hxy : xs.map g = ys.map g) {b c : β} (hbc : e b = e c) :
    Agree e (xs.foldlM f b) (ys.foldlM f' c) := by
  induction xs generalizing ys b c with
  | nil =>
    obtain rfl : ys = [] := List.map_eq_nil_iff.1 hxy.symm
    exact hbc
  | cons x xs ih =>
    cases ys with
    | nil => cases hxy
    | cons y ys =>
      obtain ⟨hx, hxs⟩ := List.cons.inj hxy
      rw [List.foldlM_cons, List.foldlM_cons]
      exact (h b c x y hbc hx).bind fun b c hbc => ih hxs hbc

/-- Outcomes that are the same but for the counts in an error agree. -/
theorem agree_of_mapError_eq {x y : Except PlanError α}
    (h : x.mapError PlanError.uncounted = y.mapError PlanError.uncounted) : Agree id x y := by
  cases x with
  | error e =>
    cases y with
    | error e' =>
      have he : e.uncounted = e'.uncounted := Except.error.inj h
      refine ⟨he, ?_⟩
      rw [← e.message_uncounted, he, e'.message_uncounted]
    | ok b => cases h
  | ok a =>
    cases y with
    | error e' => cases h
    | ok b => exact Except.ok.inj h

/-- **Estimating** plans that differ in carried counts alone comes to the same. -/
theorem Plan.estimated_agree {p q : Plan} (h : p.uncounted = q.uncounted) :
    Agree id p.estimated.result q.estimated.result :=
  agree_of_mapError_eq (congrArg Estimation.outcome (uncounted_estimate_congr h))

/-! ### Candidates -/

theorem neededAttributes_uncounted (projections : List (List Attribute)) (ps : List Predicate) :
    neededAttributes (projections.map (List.map Attribute.uncounted))
        (ps.map Predicate.uncounted) =
      (neededAttributes projections ps).map Attribute.uncounted := by
  rw [neededAttributes, neededAttributes, ← firstByName_map_uncounted]
  simp [List.flatMap_map, List.map_flatMap, List.map_flatten, Predicate.attributes_uncounted]

/-- The candidate with an uncounted plan. -/
def Candidate.uncounted (c : Candidate) : Candidate := { c with plan := c.plan.uncounted }

/-- The placement with uncounted predicates. -/
def Placement.uncounted (placement : Placement) : Placement :=
  { placement with
    joinOn := placement.joinOn.map Predicate.uncounted
    stacked := placement.stacked.map Predicate.uncounted }

/-- Predicates are placed by the names in them. -/
theorem placeFrom_uncounted (l r : Relation) (seeking : Bool) (i : Nat) (ps : List Predicate) :
    placeFrom l r seeking i (ps.map Predicate.uncounted) =
      (placeFrom l r seeking i ps).uncounted := by
  induction ps generalizing seeking i with
  | nil => rfl
  | cons p ps ih =>
    simp only [List.map_cons, placeFrom, Predicate.links_uncounted, Predicate.within_uncounted, ih]
    by_cases hlinks : seeking = true ∧ p.Links l r
    · simp [hlinks, Placement.uncounted, Predicate.uncounted_oriented]
    · by_cases hwithin : p.Within (l.beside r) <;>
        simp [hlinks, hwithin, Placement.uncounted]

theorem place_congr (l r : Relation) {ps qs : List Predicate}
    (h : ps.map Predicate.uncounted = qs.map Predicate.uncounted) :
    (place l r ps).uncounted = (place l r qs).uncounted := by
  rw [place, ← placeFrom_uncounted, h, placeFrom_uncounted]
  rfl

theorem Placement.uncounted_combine (placement : Placement) (l r : Plan) :
    (placement.combine l r).uncounted = placement.uncounted.combine l.uncounted r.uncounted := by
  rw [combine, combine, Plan.uncounted_foldl_filtered]
  obtain ⟨joinOn, stacked, applied⟩ := placement
  cases joinOn <;> rfl

namespace Situation

/-- The situation with uncounted predicates and needed attributes. -/
def uncounted (s : Situation) : Situation where
  pending := s.pending.map Predicate.uncounted
  needed? := s.needed?.map (List.map Attribute.uncounted)

/-- Inputs are narrowed by the names of the needed attributes. -/
theorem retained?_uncounted (s : Situation) (schema : Relation) :
    s.uncounted.retained? schema = s.retained? schema := by
  obtain ⟨pending, needed?⟩ := s
  cases needed? with
  | none => rfl
  | some needed =>
    rw [retained?, retained?]
    dsimp only [uncounted, Option.map]
    rw [namesOf_map_uncounted]

variable {s t : Situation} {x y l r l' r' : Plan}

theorem narrow_agree (hs : s.uncounted = t.uncounted) (h : x.uncounted = y.uncounted) :
    Agree (Prod.map Plan.uncounted id) (s.narrow x).result (t.narrow y).result := by
  rw [narrow, narrow, Logged.result_bind, Logged.result_bind]
  refine (Plan.estimated_agree h).bind fun schema schema' hschema => ?_
  obtain rfl : schema = schema' := hschema
  have hkept : s.retained? schema = t.retained? schema := by
    rw [← s.retained?_uncounted, hs, t.retained?_uncounted]
  rw [hkept]
  cases t.retained? schema with
  | none => exact congrArg (·, schema) h
  | some kept =>
    have hnarrowed : (x.narrowed kept).uncounted = (y.narrowed kept).uncounted :=
      congrArg (Plan.narrowed · _) h
    dsimp only
    rw [Logged.result_bind, Logged.result_bind]
    refine (Plan.estimated_agree hnarrowed).bind fun r r' hr => ?_
    exact congrArg₂ Prod.mk hnarrowed hr

/-- **Candidates** that differ in carried counts alone apply the same predicates and cost the
same. -/
theorem candidate_agree (hs : s.uncounted = t.uncounted) (hl : l.uncounted = l'.uncounted)
    (hr : r.uncounted = r'.uncounted) :
    Agree Candidate.uncounted (s.candidate l r).result (t.candidate l' r').result := by
  rw [candidate, candidate, Logged.result_bind, Logged.result_bind]
  refine (narrow_agree hs hl).bind fun left left' hleft => ?_
  rw [Logged.result_bind, Logged.result_bind]
  refine (narrow_agree hs hr).bind fun right right' hright => ?_
  obtain ⟨left, leftSchema⟩ := left
  obtain ⟨left', leftSchema'⟩ := left'
  obtain ⟨right, rightSchema⟩ := right
  obtain ⟨right', rightSchema'⟩ := right'
  obtain ⟨hl, rfl⟩ : left.uncounted = left'.uncounted ∧ leftSchema = leftSchema' :=
    Prod.mk.inj hleft
  obtain ⟨hr, rfl⟩ : right.uncounted = right'.uncounted ∧ rightSchema = rightSchema' :=
    Prod.mk.inj hright
  -- The two sides have the same schemas, and the same names are pending.
  have hplace := place_congr leftSchema rightSchema (Situation.mk.inj hs).1
  have hplan : ((place leftSchema rightSchema s.pending).combine left right).uncounted =
      ((place leftSchema rightSchema t.pending).combine left' right').uncounted := by
    rw [Placement.uncounted_combine, Placement.uncounted_combine, hplace, hl, hr]
  dsimp only
  rw [Logged.result_bind, Logged.result_bind]
  refine (Plan.estimated_agree hplan).bind fun output output' houtput => ?_
  obtain rfl : output = output' := houtput
  obtain ⟨-, -, happlied⟩ := Placement.mk.inj hplace
  exact congrArg₂ (fun plan => Candidate.mk plan output.tuples) hplan happlied

end Situation

/-! ### Choices -/

/-- Whether a candidate is better is a matter of costs. -/
theorem Candidate.beats_congr {c c' : Candidate} {best best' : Option Candidate}
    (hc : c.cost = c'.cost) (hb : best.map Candidate.cost = best'.map Candidate.cost) :
    c.Beats best ↔ c'.Beats best' := by
  have hcosts : ∀ (c : Candidate) (best : Option Candidate),
      c.Beats best ↔ ∀ cost ∈ best.map Candidate.cost, c.cost < cost := by
    intro c best
    cases best <;> simp [Candidate.Beats]
  rw [hcosts, hcosts, hc, hb]

/-- The choice with uncounted inputs. -/
def Choice.uncounted (c : Choice) : Choice := c.mapPlans Plan.uncounted

namespace Search

/-- The search with uncounted plans and predicates. -/
def uncounted (s : Search) : Search where
  combined := s.combined.map Plan.uncounted
  pool := s.pool.map Plan.uncounted
  pending := s.pending.map Predicate.uncounted

theorem choices_uncounted (s : Search) :
    s.uncounted.choices = s.choices.map Choice.uncounted :=
  s.choices_mapPlans Plan.uncounted

theorem plan?_uncounted (s : Search) : s.uncounted.plan? = s.plan?.map Plan.uncounted :=
  s.plan?_mapPlans Plan.uncounted

theorem situation_uncounted (s : Search) (options : Options)
    (projections : List (List Attribute)) :
    s.uncounted.situation options (projections.map (List.map Attribute.uncounted)) =
      (s.situation options projections).uncounted := by
  simp only [situation, Situation.uncounted, List.isEmpty_map]
  congr 1
  split
  · exact congrArg some (neededAttributes_uncounted projections s.pending)
  · rfl

/-- **Choices** that differ in carried counts alone are taken alike. -/
theorem cheapest_agree {σ τ : Situation} {cs ds : List Choice} (hσ : σ.uncounted = τ.uncounted)
    (hc : cs.map Choice.uncounted = ds.map Choice.uncounted) :
    Agree (Option.map (Prod.map Candidate.uncounted Choice.uncounted))
      (cheapest σ cs).result (cheapest τ ds).result := by
  rw [cheapest, cheapest, Logged.result_foldlM, Logged.result_foldlM]
  refine Agree.foldlM ?_ hc rfl
  intro best best' c d hbest hcd
  obtain ⟨hleft, hright, -⟩ := Choice.mk.inj hcd
  rw [Logged.result_bind, Logged.result_bind]
  refine (Situation.candidate_agree hσ hleft hright).bind fun x y hxy => ?_
  have hcosts : (best.map Prod.fst).map Candidate.cost =
      (best'.map Prod.fst).map Candidate.cost := by
    have h := congrArg (Option.map fun b => b.1.cost) hbest
    simpa [Function.comp_def, Candidate.uncounted] using h
  have hbeats := Candidate.beats_congr (Candidate.mk.inj hxy).2.1 hcosts
  -- Both folds keep the best choice so far, or both displace it.
  show (if _ then _ else _ : Option _).map _ = (if _ then _ else _ : Option _).map _
  by_cases hb : x.Beats (best.map Prod.fst)
  · rw [if_pos hb, if_pos (hbeats.1 hb)]
    exact congrArg some (Prod.ext hxy hcd)
  · rw [if_neg hb, if_neg (mt hbeats.2 hb)]
    exact hbest

/-! ### Steps and runs -/

variable {s t : Search} {options : Options} {projections projections' : List (List Attribute)}

/-- **Step**: searches that differ in carried counts alone take steps that differ in these alone. -/
theorem step_agree (h : s.uncounted = t.uncounted)
    (hp : projections.map (List.map Attribute.uncounted) =
      projections'.map (List.map Attribute.uncounted)) (k : Nat) :
    Agree uncounted (s.step options projections k).result
      (t.step options projections' k).result := by
  have hσ : (s.situation options projections).uncounted =
      (t.situation options projections').uncounted := by
    rw [← situation_uncounted, h, hp, situation_uncounted]
  have hc : s.choices.map Choice.uncounted = t.choices.map Choice.uncounted := by
    rw [← choices_uncounted, h, choices_uncounted]
  obtain ⟨-, hpool, hpending⟩ := Search.mk.inj h
  rw [step, step, Logged.result_bind, Logged.result_bind]
  refine (cheapest_agree hσ hc).bind fun best best' hbest => ?_
  cases best with
  | none =>
    cases best' with
    | none => exact Agree.refl _ _
    | some d => cases hbest
  | some c =>
    cases best' with
    | none => cases hbest
    | some d =>
      obtain ⟨hcandidate, hchoice⟩ := Prod.mk.inj (Option.some.inj hbest)
      obtain ⟨hplan, -, happlied⟩ := Candidate.mk.inj hcandidate
      obtain ⟨-, -, hused⟩ := Choice.mk.inj hchoice
      show uncounted _ = uncounted _
      simp only [uncounted, Option.map_some, hplan, ← eraseAll_map, hpool, hpending, happlied,
        hused]

/-- **Run**: searches that differ in carried counts alone come to the same but for these. -/
theorem run_agree (h : s.uncounted = t.uncounted)
    (hp : projections.map (List.map Attribute.uncounted) =
      projections'.map (List.map Attribute.uncounted)) (n : Nat) :
    Agree uncounted (run options projections n s) (run options projections' n t) := by
  induction n generalizing s t with
  | zero => exact h
  | succ n ih => exact (step_agree h hp 0).bind fun s t hst => ih hst

/-- A search starts with the same but for carried counts. -/
theorem initial_uncounted (options : Options) (scans : List BaseRelation) (ps : List Predicate) :
    initial options scans (ps.map Predicate.uncounted) = (initial options scans ps).uncounted := by
  have hleaf : ∀ r, leaf (ps.map Predicate.uncounted) r = (leaf ps r).uncounted := by
    intro r
    rw [leaf, leaf, Plan.uncounted_foldl_filtered, List.filter_map]
    simp only [Function.comp_def, Predicate.within_uncounted]
    rfl
  rw [initial, initial]
  split
  · simp [uncounted, hleaf, List.filter_map, Function.comp_def, Predicate.within_uncounted]
  · simp [uncounted, Function.comp_def, Plan.uncounted]

end Search

/-! ### Whole plans -/

/-- What is put back on top is the same but for carried counts. -/
theorem Parts.outerProjections_uncounted (a : Parts) (r : Relation) :
    (a.uncounted.outerProjections r).map (List.map Attribute.uncounted) =
      (a.outerProjections r).map (List.map Attribute.uncounted) := by
  have hempty : a.uncounted.projections.isEmpty = a.projections.isEmpty := List.isEmpty_map
  have hinner : a.uncounted.innerProjections = a.innerProjections := rfl
  rw [outerProjections, outerProjections, hempty, hinner]
  split
  · rfl
  · rw [uncounted, List.map_map]
    exact List.map_congr_left fun as _ => List.map_map

/-- **Rearranging** parts that differ in carried counts alone comes to the same but for these. -/
theorem Parts.rearrange_agree {a b : Parts} {projections projections' : List (List Attribute)}
    (options : Options) (h : a.uncounted = b.uncounted)
    (hp : projections.map (List.map Attribute.uncounted) =
      projections'.map (List.map Attribute.uncounted)) :
    Agree (Prod.map Plan.uncounted id) (a.rearrange options projections).result
      (b.rearrange options projections').result := by
  obtain ⟨hscans, hproducts, hpredicates, -, -⟩ := Parts.mk.inj h
  have hinitial : (Search.initial options a.scans a.predicates).uncounted =
      (Search.initial options b.scans b.predicates).uncounted := by
    rw [← Search.initial_uncounted, hscans, hpredicates, Search.initial_uncounted]
  rw [rearrange, rearrange, Logged.result_bind, Logged.result_bind, Search.result_start,
    Search.result_start]
  show Agree _ (Logged.result (_ >>= _)) (Logged.result (_ >>= _))
  rw [Logged.result_bind, Logged.result_bind, Search.result_steps, Search.result_steps, hproducts]
  refine (Search.run_agree hinitial hp b.products).bind fun s t hst => ?_
  have hplan : s.plan?.map Plan.uncounted = t.plan?.map Plan.uncounted := by
    rw [← Search.plan?_uncounted, hst, Search.plan?_uncounted]
  cases hs : s.plan? with
  | none =>
    cases ht : t.plan? with
    | none => exact Agree.refl _ _
    | some y => simp [hs, ht] at hplan
  | some x =>
    cases ht : t.plan? with
    | none => simp [hs, ht] at hplan
    | some y =>
      have hxy : x.uncounted = y.uncounted := by simpa [hs, ht] using hplan
      obtain ⟨-, -, hpending⟩ := Search.mk.inj hst
      have hwhole : (s.whole projections x).uncounted = (t.whole projections' y).uncounted := by
        rw [Search.whole, Search.whole, Plan.uncounted_foldl_narrowed,
          Plan.uncounted_foldl_narrowed, Plan.uncounted_foldl_filtered,
          Plan.uncounted_foldl_filtered, hp, hpending, hxy]
      dsimp only
      rw [Logged.result_bind, Logged.result_bind, result_stackUnplaced, result_stackUnplaced]
      show Agree _ (Logged.result (_ >>= _)) (Logged.result (_ >>= _))
      rw [Logged.result_bind, Logged.result_bind]
      refine (Plan.estimated_agree hwhole).bind fun output output' houtput => ?_
      exact congrArg₂ Prod.mk hwhole (congrArg Relation.tuples houtput)

namespace Plan

variable {p q : Plan}

/-- **Optimising** plans that differ in carried counts alone comes to the same but for these. -/
theorem optimise_agree (options : Options) (h : p.uncounted = q.uncounted) :
    Agree uncounted (p.optimise options).result (q.optimise options).result := by
  have hgiven : p.clearOutputs.uncounted = q.clearOutputs.uncounted := by
    rw [← clearOutputs_uncounted, h, clearOutputs_uncounted]
  have hparts : p.parts.uncounted = q.parts.uncounted := by
    rw [← parts_uncounted, h, parts_uncounted]
  rw [optimise, optimise, Logged.result_bind, Logged.result_bind]
  refine (estimated_agree hgiven).bind fun output output' houtput => ?_
  obtain rfl : output = output' := houtput
  have hp : (p.parts.outerProjections output).map (List.map Attribute.uncounted) =
      (q.parts.outerProjections output).map (List.map Attribute.uncounted) := by
    rw [← Parts.outerProjections_uncounted, hparts, Parts.outerProjections_uncounted]
  dsimp only
  rw [Logged.result_bind, Logged.result_bind]
  refine (Parts.rearrange_agree options hparts hp).bind fun w w' hw => ?_
  obtain ⟨hplan, hcost⟩ := Prod.mk.inj hw
  obtain ⟨w, cost⟩ := w
  obtain ⟨w', cost'⟩ := w'
  obtain rfl : cost = cost' := hcost
  dsimp only
  split
  · exact hgiven
  · exact hplan

/-- **Carried counts**: two plans that differ at most in the value counts that their predicates and
projections carry are estimated alike, at every node, and optimised alike: with the same error, or
to plans of one compact form over the same base relations, which again differ at most in carried
counts. -/
theorem estimate_optimise_uncounted (h : p.uncounted = q.uncounted) :
    Agree id p.estimated.result q.estimated.result ∧
    (∀ path, (p.estimate.plan.at? path).map output = (q.estimate.plan.at? path).map output) ∧
    ∀ options, Agree (fun w : Plan => (w.compact, w.scans, w.uncounted))
      (p.optimise options).result (q.optimise options).result := by
  refine ⟨estimated_agree h, fun path => ?_, fun options => ?_⟩
  · have hplan : p.estimate.plan.uncounted = q.estimate.plan.uncounted :=
      congrArg Estimation.plan (uncounted_estimate_congr h)
    have hat : ∀ w : Plan, (w.at? path).map output = (w.uncounted.at? path).map output := by
      intro w
      rw [at?_uncounted, Option.map_map]
      exact congrArg (Option.map · _) (funext fun n => n.output_uncounted.symm)
    rw [hat, hplan, ← hat]
  · refine (optimise_agree options h).mono fun w w' hw => ?_
    have hcompact : w.compact = w'.compact := by
      rw [← compact_uncounted, hw, compact_uncounted]
    have hscans : w.scans = w'.scans := by
      rw [← scans_uncounted, hw, scans_uncounted]
    exact Prod.ext hcompact (Prod.ext hscans hw)

/-- The shelves from which Ann's orders are fetched, where no count that is carried along is
right. -/
def shelvesMiscounted : Plan :=
  (((read stock).times (read orders)).filtered
    (.equality ⟨"goods", .clamp 9⟩ ⟨"item", 0⟩) |>.filtered
    (.literal ⟨"buyer", 1⟩ "Ann")).narrowed [⟨"shelf", .clamp 70⟩]

theorem shelvesMiscounted_optimise :
    shelvesMiscounted.uncounted = shelves.uncounted ∧
      shelvesMiscounted.estimated.result = .ok shelves.schema ∧
      ∃ w, (shelvesMiscounted.optimise ⟨true, true⟩).result = .ok w ∧
        w.compact = shelvesJoined.compact ∧ w.scans = shelvesJoined.scans ∧
        w.uncounted = shelvesJoined.uncounted := by
  have h : shelvesMiscounted.uncounted = shelves.uncounted := by decide
  have hr : shelves.estimated.result = .ok shelves.schema := by decide
  have hw : (shelves.optimise ⟨true, true⟩).result = .ok shelvesJoined := by decide
  obtain ⟨hestimated, -, hoptimised⟩ := estimate_optimise_uncounted h
  have hoptimised := hoptimised ⟨true, true⟩
  rw [hr] at hestimated
  rw [hw] at hoptimised
  obtain ⟨r, hr', rfl⟩ := hestimated.exists_ok
  obtain ⟨w, hw', hsame⟩ := hoptimised.exists_ok
  obtain ⟨hcompact, hsame⟩ := Prod.mk.inj hsame
  obtain ⟨hscans, huncounted⟩ := Prod.mk.inj hsame
  exact ⟨h, hr', w, hw', hcompact, hscans, huncounted⟩

end Plan

end RelPlan
