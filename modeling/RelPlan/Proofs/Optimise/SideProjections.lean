import RelPlan.Proofs.Optimise.Preservation
import RelPlan.Proofs.Optimise.Shape
import RelPlan.Proofs.Plan.Unprojected

/-!
# What pushing projections changes

A search that narrows its inputs and one that does not go the same way. The second one has at hand
the plans of the first without their projections (`Search.Sound.exists_run_unprojected`): a pending
predicate is placed alike, since its names are never dropped, and a choice costs the same, since
projections change no tuple count. So pushing projections adds projections below products and
joins and changes nothing else about what a plan is optimised to (`Plan.optimise_pushProjections`).
-/

namespace RelPlan

/-- The first of least cost, among what a map makes of a list. -/
theorem argmin_map_of_eq {α β : Type} {f : β → Nat} {f' : α → Nat} {g : α → β} {xs : List α}
    (h : ∀ x ∈ xs, f (g x) = f' x) :
    List.argmin f (xs.map g) = (List.argmin f' xs).map g := by
  induction xs with
  | nil => rfl
  | cons x xs ih =>
    rw [List.forall_mem_cons] at h
    rw [List.map_cons, List.argmin_cons, List.argmin_cons, ih h.2]
    cases hm : List.argmin f' xs with
    | none => rfl
    | some m =>
      have hfm := h.2 m (List.argmin_mem hm)
      simp only [Option.map_some, hfm, h.1]
      split <;> rfl

/-! ### Placements -/

/-- Predicates are placed alike between schemas that have the same of their names. -/
theorem placeFrom_congr {l r l' r' : Relation} {ps : List Predicate}
    (h : ∀ p ∈ ps, ∀ n ∈ p.names, (n ∈ l.names ↔ n ∈ l'.names) ∧ (n ∈ r.names ↔ n ∈ r'.names))
    (seeking : Bool) (i : Nat) :
    placeFrom l r seeking i ps = placeFrom l' r' seeking i ps := by
  induction ps generalizing seeking i with
  | nil => rfl
  | cons p ps ih =>
    rw [List.forall_mem_cons] at h
    have hlinks : p.Links l r ↔ p.Links l' r' :=
      Predicate.links_congr (fun n hn => (h.1 n hn).1) fun n hn => (h.1 n hn).2
    have hwithin : p.Within (l.beside r) ↔ p.Within (l'.beside r') := by
      simp only [Predicate.within_iff, Relation.names_beside, List.mem_append]
      exact forall₂_congr fun n hn => or_congr (h.1 n hn).1 (h.1 n hn).2
    have horiented : p.oriented l = p.oriented l' := by
      have hleft : p.left.name ∈ p.names := by
        cases p <;> simp [Predicate.left, Predicate.names, Predicate.attributes]
      have hhas : l.Has p.left.name ↔ l'.Has p.left.name := (h.1 _ hleft).1
      exact if_congr hhas rfl rfl
    simp only [placeFrom, hlinks, hwithin, horiented, ih h.2]

theorem Placement.unprojected_combine (placement : Placement) (l r : Plan) :
    (placement.combine l r).unprojected = placement.combine l.unprojected r.unprojected := by
  rw [combine, combine, Plan.unprojected_foldl_filtered]
  cases placement.joinOn <;> rfl

theorem Situation.unprojected_side (σ : Situation) (x : Plan) :
    (σ.side x).unprojected = x.unprojected :=
  σ.side_cases (P := fun y => y.unprojected = x.unprojected) rfl fun _ _ => rfl

namespace Search

variable {s : Search} {projections : List (List Attribute)} {push : Bool} {c : Choice} {l r : Plan}

/-! ### Choices -/

/-- If projections are not pushed, an input is taken as it is. -/
theorem side_of_not_pushed (s : Search) (x : Plan) :
    (s.situation ⟨push, false⟩ projections).side x = x :=
  Situation.side_of_needed?_none _ (by simp [situation]) x

/-- Two inputs of a choice read base relations without a common name. -/
theorem Sound.distinct_combination (h : s.Sound projections) (hc : c ∈ s.choices) (σ : Situation) :
    (σ.combination c.left c.right).Distinct := by
  have hd := BaseRelation.pairwise_apart_of_perm
    ((plans_perm_of_mem_choices hc).flatMap_right Plan.scans) h.distinct
  rw [List.flatMap_cons, List.flatMap_cons, ← List.append_assoc] at hd
  rw [Plan.Distinct, Situation.scans_combination]
  exact (List.pairwise_append.1 hd).1

theorem mem_choices_unprojected (hc : c ∈ s.choices) :
    c.mapPlans Plan.unprojected ∈ (s.mapPlans Plan.unprojected).choices := by
  rw [choices_mapPlans]
  exact List.mem_map_of_mem hc

namespace Sound

variable (h : s.Sound projections) (h' : (s.mapPlans Plan.unprojected).Sound projections)
include h h'

/-- The pending predicates are placed alike whether or not inputs are narrowed. -/
theorem placement_unprojected (hl : l ∈ s.plans) (hr : r ∈ s.plans) :
    ((s.mapPlans Plan.unprojected).situation ⟨push, false⟩ projections).placement
        l.unprojected r.unprojected =
      (s.situation ⟨push, true⟩ projections).placement l r := by
  -- A side shows those names of a pending predicate that its base relations have.
  have hside : ∀ {x : Plan}, x ∈ s.plans → ∀ p ∈ s.pending, ∀ n ∈ p.names,
      n ∈ (((s.mapPlans Plan.unprojected).situation ⟨push, false⟩ projections).side
        x.unprojected).schema.names ↔
      n ∈ ((s.situation ⟨push, true⟩ projections).side x).schema.names := by
    intro x hx p hp n hn
    have hneed : s.Needs projections n := needs_iff.2 (Or.inl ⟨p, hp, hn⟩)
    have hx' : x.unprojected ∈ (s.mapPlans Plan.unprojected).plans := by
      rw [plans_mapPlans]
      exact List.mem_map_of_mem hx
    rw [(Situation.resolved_side (h.resolved x hx)).names_schema,
      (Situation.resolved_side (h'.resolved _ hx')).names_schema,
      h.mem_visible_side_iff _ hx hneed, h'.mem_visible_side_iff _ hx' hneed,
      Plan.baseNames_unprojected]
  exact placeFrom_congr (fun p hp n hn => ⟨hside hl p hp n hn, hside hr p hp n hn⟩) true 0

/-- The same combination comes about, but for projections. -/
theorem combination_unprojected (push : Bool) (hl : l ∈ s.plans) (hr : r ∈ s.plans) :
    ((s.mapPlans Plan.unprojected).situation ⟨push, false⟩ projections).combination
        l.unprojected r.unprojected =
      ((s.situation ⟨push, true⟩ projections).combination l r).unprojected := by
  rw [Situation.combination, Situation.combination, h.placement_unprojected h' hl hr,
    Placement.unprojected_combine, Situation.unprojected_side, Situation.unprojected_side,
    side_of_not_pushed, side_of_not_pushed]

/-- A choice costs the same. -/
theorem cost_unprojected (hc : c ∈ s.choices) :
    cost ((s.mapPlans Plan.unprojected).situation ⟨push, false⟩ projections)
        (c.mapPlans Plan.unprojected) =
      cost (s.situation ⟨push, true⟩ projections) c := by
  have hc' := mem_choices_unprojected hc
  have hon : ((s.situation ⟨push, true⟩ projections).combination c.left c.right).Resolved :=
    Situation.resolved_combination (h.resolved _ (left_mem hc)) (h.resolved _ (right_mem hc))
      (h.disjoint (plans_perm_of_mem_choices hc))
  have hoff := Situation.resolved_combination
    (s := (s.mapPlans Plan.unprojected).situation ⟨push, false⟩ projections)
    (h'.resolved _ (left_mem hc')) (h'.resolved _ (right_mem hc'))
    (h'.disjoint (plans_perm_of_mem_choices hc'))
  have hsame := h.combination_unprojected h' push (left_mem hc) (right_mem hc)
  refine congrArg Count.toNat (hoff.tuples_eq_of_unprojected_eq hon
    (h'.distinct_combination hc' _) (h.distinct_combination hc _) ?_)
  exact (congrArg Plan.unprojected hsame).trans (Plan.unprojected_unprojected _)

/-- The same choice is the best one. -/
theorem best?_unprojected (push : Bool) :
    (s.mapPlans Plan.unprojected).best? ⟨push, false⟩ projections =
      (s.best? ⟨push, true⟩ projections).map (Choice.mapPlans Plan.unprojected) := by
  rw [best?, best?, choices_mapPlans]
  exact argmin_map_of_eq fun c hc => h.cost_unprojected h' hc

/-- Taking a choice leads to the same search, but for projections. -/
theorem after_unprojected (push : Bool) (hc : c ∈ s.choices) :
    (s.mapPlans Plan.unprojected).after
        ((s.mapPlans Plan.unprojected).situation ⟨push, false⟩ projections)
        (c.mapPlans Plan.unprojected) =
      (s.after (s.situation ⟨push, true⟩ projections) c).mapPlans Plan.unprojected := by
  have hc' := mem_choices_unprojected hc
  have hcombined := h.combination_unprojected h' push (left_mem hc) (right_mem hc)
  have hpending : ((s.mapPlans Plan.unprojected).situation ⟨push, false⟩ projections).unplaced
      c.left.unprojected c.right.unprojected =
        (s.situation ⟨push, true⟩ projections).unplaced c.left c.right := by
    rw [h.unplaced_eq (left_mem hc) (right_mem hc), ← Plan.baseNames_unprojected c.left,
      ← Plan.baseNames_unprojected c.right]
    exact h'.unplaced_eq (left_mem hc') (right_mem hc')
  show Search.mk (some _) (eraseAll c.used (s.pool.map Plan.unprojected)) _ = Search.mk _ _ _
  rw [eraseAll_map]
  exact congrArg₂ (fun x ps => Search.mk (some x) _ ps) hcombined hpending

/-- **Run**: a search that narrows its inputs and one that does not run to the same end, but for
projections. -/
theorem exists_run_unprojected (push : Bool) {n : Nat} (hn : s.plans.length = n + 1) :
    ∃ t, run ⟨push, true⟩ projections n s = .ok t ∧
      run ⟨push, false⟩ projections n (s.mapPlans Plan.unprojected) =
        .ok (t.mapPlans Plan.unprojected) := by
  induction n generalizing s with
  | zero => exact ⟨s, rfl, rfl⟩
  | succ n ih =>
    have hn' : (s.mapPlans Plan.unprojected).plans.length = n + 2 := by
      rw [plans_mapPlans, List.length_map, hn]
    obtain ⟨c, hc, hbest, hlen, hrun⟩ := h.exists_run_succ ⟨push, true⟩ hn
    obtain ⟨c', hc', hbest', -, hrun'⟩ := h'.exists_run_succ ⟨push, false⟩ hn'
    -- The second search takes the same choice.
    obtain rfl : c.mapPlans Plan.unprojected = c' := by
      rw [h.best?_unprojected h' push, hbest] at hbest'
      exact Option.some.inj hbest'
    have hnext := h'.after ⟨push, false⟩ hc'
    rw [h.after_unprojected h' push hc] at hnext hrun'
    rw [hrun, hrun']
    exact ih (h.after ⟨push, true⟩ hc) hnext hlen

end Sound

/-- Both searches start with the same plans, which do not project. -/
theorem initial_unprojected (push : Bool) (scans : List BaseRelation) (ps : List Predicate) :
    (initial ⟨push, true⟩ scans ps).mapPlans Plan.unprojected = initial ⟨push, false⟩ scans ps := by
  have hleaf : ∀ r, (leaf ps r).unprojected = leaf ps r := fun r =>
    Plan.unprojected_foldl_filtered _ _
  cases push <;>
    simp [initial, mapPlans, Function.comp_def, hleaf, Plan.unprojected]

end Search

namespace Plan

variable {p : Plan} {r : Relation}

/-- What a search came to, without the projections below products and joins. -/
theorem withoutInnerProjections_whole {t : Search} {x : Plan} (ht : t.Sound p.outermost)
    (hx : t.plans = [x]) : (t.whole p.outermost x).withoutInnerProjections =
      (t.mapPlans unprojected).whole p.outermost x.unprojected := by
  have htop := ht.topless x (hx ▸ List.mem_singleton_self x)
  rw [Search.whole, withoutInnerProjections_foldl_narrowed, withoutInnerProjections_foldl_filtered,
    withoutInnerProjections_of_projections_eq_nil htop]
  rfl

/-- With and without pushed projections a plan is rearranged alike, but for projections below
products and joins. -/
theorem Resolved.exists_rearranges_pushed (h : p.Resolved) (hd : p.Distinct) (push : Bool) :
    ∃ w₁ w₀ : Plan, w₁.Rearranges p ∧ w₀.Rearranges p ∧
      (p.parts.rearrange ⟨push, true⟩ p.outermost).result = .ok (w₁, w₁.schema.tuples) ∧
      (p.parts.rearrange ⟨push, false⟩ p.outermost).result = .ok (w₀, w₀.schema.tuples) ∧
      w₁.unprojected = w₀.unprojected ∧
      w₁.withoutInnerProjections = w₀.withoutInnerProjections := by
  obtain ⟨t, x, hrun, ht, hx, hw, hre⟩ := h.exists_whole hd ⟨push, true⟩
  obtain ⟨t₀, x₀, hrun₀, ht₀, hx₀, hw₀, hre₀⟩ := h.exists_whole hd ⟨push, false⟩
  -- The two searches come to the same plan, but for projections.
  have hsearch : (p.search ⟨push, true⟩).mapPlans unprojected = p.search ⟨push, false⟩ :=
    Search.initial_unprojected push _ _
  obtain rfl : t.mapPlans unprojected = t₀ := by
    have hsound : ((p.search ⟨push, true⟩).mapPlans unprojected).Sound p.outermost := by
      rw [hsearch]
      exact h.sound_search hd ⟨push, false⟩
    obtain ⟨u, hurun, hurun₀⟩ := (h.sound_search hd ⟨push, true⟩).exists_run_unprojected
      hsound push (length_plans_search _ p)
    rw [hrun, Except.ok.injEq] at hurun
    rw [hsearch, hrun₀, Except.ok.injEq] at hurun₀
    rw [hurun, hurun₀]
  obtain rfl : x.unprojected = x₀ := by
    rw [Search.plans_mapPlans, hx] at hx₀
    exact (List.cons.inj hx₀).1
  refine ⟨_, _, hw, hw₀, hre, hre₀, ?_, ?_⟩
  · simp [Search.whole, Search.mapPlans]
  · rw [withoutInnerProjections_whole ht hx, withoutInnerProjections_whole ht₀ hx₀,
      unprojected_unprojected]
    simp [Search.whole, Search.mapPlans]

/-- **Pushed projections**: a plan over distinct names that can be estimated is optimised to plans
of the same estimated tuple count whether or not projections are pushed. The rearranged plans cost
the same, so that either both of them are used or the plan is returned as given both times. Without
the projections below products and joins the two results are the same tree. -/
theorem optimise_pushProjections (hd : p.Distinct) (hr : p.estimated.result = .ok r)
    (push : Bool) :
    ∃ q₁ q₀ s₁ s₀, (p.optimise ⟨push, true⟩).result = .ok q₁ ∧
      (p.optimise ⟨push, false⟩).result = .ok q₀ ∧
      q₁.estimated.result = .ok s₁ ∧ q₀.estimated.result = .ok s₀ ∧ s₁.tuples = s₀.tuples ∧
      (∃ w₁ w₀ cost,
        (p.parts.rearrange ⟨push, true⟩ (p.parts.outerProjections r)).result = .ok (w₁, cost) ∧
        (p.parts.rearrange ⟨push, false⟩ (p.parts.outerProjections r)).result = .ok (w₀, cost) ∧
        (r.tuples < cost ∧ q₁ = p.clearOutputs ∧ q₀ = p.clearOutputs ∨
          ¬ r.tuples < cost ∧ q₁ = w₁ ∧ q₀ = w₀)) ∧
      q₁.withoutInnerProjections = q₀.withoutInnerProjections := by
  have hp : p.Resolved := resolved_iff.2 ⟨r, hr⟩
  obtain rfl : p.schema = r := schema_of_outcome hr
  obtain ⟨w₁, w₀, hw₁, hw₀, hre₁, hre₀, hsame, hinner⟩ := hp.exists_rearranges_pushed hd push
  have htuples : w₁.schema.tuples = w₀.schema.tuples :=
    hw₁.resolved.tuples_eq_of_unprojected_eq hw₀.resolved
      (BaseRelation.pairwise_apart_of_perm hw₁.scans.symm hd)
      (BaseRelation.pairwise_apart_of_perm hw₀.scans.symm hd) hsame
  have ho₁ := hp.result_optimise hre₁
  have ho₀ := hp.result_optimise hre₀
  rw [← htuples] at hre₀ ho₀
  by_cases hc : p.schema.tuples < w₁.schema.tuples
  · rw [if_pos hc] at ho₁ ho₀
    have hq := hp.rearranges_clearOutputs.resolved.outcome
    exact ⟨_, _, _, _, ho₁, ho₀, hq, hq, rfl,
      ⟨_, _, _, hre₁, hre₀, Or.inl ⟨hc, rfl, rfl⟩⟩, rfl⟩
  · rw [if_neg hc] at ho₁ ho₀
    exact ⟨_, _, _, _, ho₁, ho₀, hw₁.resolved.outcome, hw₀.resolved.outcome, htuples,
      ⟨_, _, _, hre₁, hre₀, Or.inr ⟨hc, rfl, rfl⟩⟩, hinner⟩

/-- The shelves from which Ann's orders are fetched, joined without narrowing an input. -/
def shelvesJoinedWide : Plan :=
  ((read stock).joined ((read orders).filtered (.literal ⟨"buyer", .clamp 4⟩ "Ann"))
    (.equality ⟨"item", .clamp 3⟩ ⟨"goods", .clamp 3⟩)).narrowed [⟨"shelf", .clamp 2⟩]

theorem shelvesJoined_pushProjections :
    shelves.Distinct ∧ shelves.estimated.result = .ok shelves.schema ∧
      (shelves.optimise ⟨true, true⟩).result = .ok shelvesJoined ∧
      (shelves.optimise ⟨true, false⟩).result = .ok shelvesJoinedWide ∧
      shelvesJoined.schema.tuples = shelvesJoinedWide.schema.tuples ∧
      shelvesJoined.withoutInnerProjections = shelvesJoinedWide.withoutInnerProjections := by
  have hd : shelves.Distinct := by decide
  have hr : shelves.estimated.result = .ok shelves.schema := by decide
  have hon : (shelves.optimise ⟨true, true⟩).result = .ok shelvesJoined := by decide
  have hoff : (shelves.optimise ⟨true, false⟩).result = .ok shelvesJoinedWide := by decide
  obtain ⟨q₁, q₀, s₁, s₀, h₁, h₀, hs₁, hs₀, htuples, -, htree⟩ :=
    optimise_pushProjections hd hr true
  obtain rfl : shelvesJoined = q₁ := Except.ok.inj (hon.symm.trans h₁)
  obtain rfl : shelvesJoinedWide = q₀ := Except.ok.inj (hoff.symm.trans h₀)
  exact ⟨hd, hr, hon, hoff,
    by rw [schema_of_outcome hs₁, schema_of_outcome hs₀, htuples], htree⟩

end Plan

end RelPlan
