import RelPlan.Proofs.Optimise.Assembly
import RelPlan.Proofs.Optimise.Settled
import RelPlan.Proofs.Plan.Nodes

/-!
# The shape of a rearranged plan

Unless it returns the plan as given, optimising over distinct names leaves a tree of one shape
(`Plan.optimise_shaped`): every product and join adds a single base relation, on its right; a join
goes from its left input to its right one; a product stands only where no predicate of the whole
plan ties its inputs together; and pushed selections stand directly above their scans.

The invariant of the search is `Search.Shaped`. Its point is that every predicate of the whole plan
is accounted for: it is pending, and then the sides show its names, so that it is seen when it ties
two of them together; or it belongs to a plan at hand, and then all its names are of that plan.
-/

namespace RelPlan

/-! ### Predicates that tie two lists of names together -/

namespace Predicate

/-- An equality with one name in each of the two lists, either way round. -/
def Across : Predicate → List String → List String → Prop
  | literal _ _, _, _ => False
  | equality a b, ns, ms => (a.name ∈ ns ∧ b.name ∈ ms) ∨ (b.name ∈ ns ∧ a.name ∈ ms)

instance : (p : Predicate) → (ns ms : List String) → Decidable (p.Across ns ms)
  | literal _ _, _, _ => inferInstanceAs (Decidable False)
  | equality a b, ns, ms =>
    inferInstanceAs (Decidable ((a.name ∈ ns ∧ b.name ∈ ms) ∨ (b.name ∈ ns ∧ a.name ∈ ms)))

variable {p q : Predicate} {ns ms ns' ms' : List String}

theorem links_iff_across {l r : Relation} : p.Links l r ↔ p.Across l.names r.names := by
  cases p <;> rfl

theorem across_of_unsided_eq (h : p.unsided = q.unsided) (hp : p.Across ns ms) :
    q.Across ns ms := by
  rcases unsided_eq_iff.1 h with rfl | rfl
  · exact hp
  · cases q with
    | literal => exact hp
    | equality a b => exact hp.symm

/-- A predicate that ties two lists together has a name in each. -/
theorem Across.exists_names (h : p.Across ns ms) :
    ∃ n ∈ p.names, ∃ m ∈ p.names, n ∈ ns ∧ m ∈ ms := by
  cases p with
  | literal => exact h.elim
  | equality a b =>
    rcases h with ⟨ha, hb⟩ | ⟨hb, ha⟩
    · exact ⟨a.name, by simp [names, attributes], b.name, by simp [names, attributes], ha, hb⟩
    · exact ⟨b.name, by simp [names, attributes], a.name, by simp [names, attributes], hb, ha⟩

/-- Only the names of the predicate matter. -/
theorem across_congr (hn : ∀ n ∈ p.names, n ∈ ns ↔ n ∈ ns') (hm : ∀ n ∈ p.names, n ∈ ms ↔ n ∈ ms') :
    p.Across ns ms ↔ p.Across ns' ms' := by
  cases p with
  | literal => rfl
  | equality a b =>
    have ha : a.name ∈ (equality a b).names := by simp [names, attributes]
    have hb : b.name ∈ (equality a b).names := by simp [names, attributes]
    simp only [Across, hn _ ha, hn _ hb, hm _ ha, hm _ hb]

theorem links_congr {l r l' r' : Relation} (hl : ∀ n ∈ p.names, l.Has n ↔ l'.Has n)
    (hr : ∀ n ∈ p.names, r.Has n ↔ r'.Has n) : p.Links l r ↔ p.Links l' r' := by
  rw [links_iff_across, links_iff_across]
  exact across_congr hl hr

end Predicate

/-! ### Nodes -/

/-- What the products and joins of a rearranged plan look like, if `ps` are the predicates of the
whole plan. The right input reads a single base relation. A product has no predicate with an
attribute in each input. A join is by an equality of an attribute in its left input and one in its
right input. -/
def Plan.Stepwise (ps : List Predicate) : Plan → Prop
  | .product l r _ => r.scans.length = 1 ∧ ∀ p ∈ ps, ¬ p.Across l.baseNames r.baseNames
  | .join p l r _ => r.scans.length = 1 ∧
      ∃ a b, p = .equality a b ∧ a.name ∈ l.baseNames ∧ b.name ∈ r.baseNames
  | _ => True

/-- Every base relation that is read is directly under selections by exactly those of the
predicates that it can evaluate alone, in their order from below. -/
def Plan.Pushed (ps : List Predicate) (x : Plan) : Prop :=
  x.scanFilters = x.scans.map fun r => (r, ps.filter fun p => p.Within r.relation)

namespace Situation

variable {σ : Situation} {ps : List Predicate} {l r x : Plan}

theorem stepwise_side (h : x.Everywhere (Plan.Stepwise ps)) :
    (σ.side x).Everywhere (Plan.Stepwise ps) :=
  σ.side_cases h fun _ _ => ⟨trivial, h⟩

@[simp] theorem scanFilters_side : (σ.side x).scanFilters = x.scanFilters :=
  σ.side_cases (P := fun y => y.scanFilters = x.scanFilters) rfl fun _ _ => rfl

@[simp] theorem scanFilters_combination :
    (σ.combination l r).scanFilters = l.scanFilters ++ r.scanFilters := by
  rw [← scanFilters_side (σ := σ) (x := l), ← scanFilters_side (σ := σ) (x := r)]
  rw [combination, Placement.combine_eq, Plan.scanFilters, Plan.filtersUnder_foldl_filtered,
    Placement.core]
  cases (σ.placement l r).joinOn <;> rfl

theorem pushed_combination (hl : l.Pushed ps) (hr : r.Pushed ps) :
    (σ.combination l r).Pushed ps := by
  rw [Plan.Pushed, scanFilters_combination, scans_combination, List.map_append, hl, hr]

/-- A combination of resolved inputs is a step if the right one reads a single base relation and no
predicate that was not placed ties the inputs together. -/
theorem stepwise_combination (hl : l.Resolved) (hr : r.Resolved)
    (hd : l.baseNames.Disjoint r.baseNames) (hone : r.scans.length = 1)
    (hnone : (σ.placement l r).joinOn = none → ∀ p ∈ ps, ¬ p.Across l.baseNames r.baseNames)
    (hsl : l.Everywhere (Plan.Stepwise ps)) (hsr : r.Everywhere (Plan.Stepwise ps)) :
    (σ.combination l r).Everywhere (Plan.Stepwise ps) := by
  have hres := resolved_combination (s := σ) hl hr hd
  rw [combination, Placement.combine_eq] at hres ⊢
  refine Plan.Everywhere.foldl_filtered (fun _ _ _ => trivial) ?_
  have hcore := (Plan.resolved_foldl_filtered.1 hres).1
  rw [Placement.core] at hcore ⊢
  cases hj : (σ.placement l r).joinOn with
  | none =>
    refine ⟨⟨?_, ?_⟩, stepwise_side hsl, stepwise_side hsr⟩
    · rw [scans_side, hone]
    · rw [baseNames_side, baseNames_side]
      exact hnone hj
  | some p =>
    rw [hj] at hcore
    obtain ⟨-, -, a, b, hp, ha, hb⟩ := hcore
    refine ⟨⟨?_, a, b, hp, ?_, ?_⟩, stepwise_side hsl, stepwise_side hsr⟩
    · rw [scans_side, hone]
    · exact Plan.mem_baseNames_of_mem_visible ha
    · exact Plan.mem_baseNames_of_mem_visible hb

end Situation

namespace Search

variable {s t : Search} {projections : List (List Attribute)} {options : Options} {l r : Plan}
  {p : Predicate} {ps : List Predicate}

/-! ### No predicate is passed over -/

/-- Two sides are linked by a pending predicate if their base relations are. -/
theorem Sound.links_sides_iff (h : s.Sound projections) (options : Options) (hl : l ∈ s.plans)
    (hr : r ∈ s.plans) (hp : p ∈ s.pending) :
    p.Links ((s.situation options projections).side l).schema
      ((s.situation options projections).side r).schema ↔
      p.Across l.baseNames r.baseNames := by
  have hneed : ∀ n ∈ p.names, s.Needs projections n := fun n hn => needs_iff.2 (Or.inl ⟨p, hp, hn⟩)
  rw [Predicate.links_iff_across, (Situation.resolved_side (h.resolved l hl)).names_schema,
    (Situation.resolved_side (h.resolved r hr)).names_schema]
  refine Predicate.across_congr ?_ ?_
  · intro n hn
    exact h.mem_visible_side_iff options hl (hneed n hn)
  · intro n hn
    exact h.mem_visible_side_iff options hr (hneed n hn)

/-- A predicate of a plan at hand ties no two plans at hand together: its names are of one plan. -/
theorem Sound.not_across_of_mem_predicates (h : s.Sound projections) {x : Plan} (hx : x ∈ s.plans)
    (hp : p ∈ x.predicates) {others : List Plan} (hlr : s.plans.Perm (l :: r :: others)) :
    ¬ p.Across l.baseNames r.baseNames := by
  intro ha
  have hl := hlr.mem_iff.2 List.mem_cons_self
  have hr := hlr.mem_iff.2 (List.mem_cons_of_mem l List.mem_cons_self)
  have hin := (h.resolved x hx).inside_baseNames p hp
  obtain ⟨n, hn, m, hm, hnl, hmr⟩ := ha.exists_names
  have hxl := h.eq_of_mem_baseNames hx hl (hin n hn) hnl
  have hxr := h.eq_of_mem_baseNames hx hr (hin m hm) hmr
  rw [← hxl, ← hxr] at hlr
  exact h.disjoint hlr (hin n hn) (hin n hn)

/-- If two plans are put together by a product, no predicate at hand ties them together. -/
theorem Sound.not_across_of_joinOn_eq_none (h : s.Sound projections) (options : Options)
    {others : List Plan} (hlr : s.plans.Perm (l :: r :: others))
    (hj : ((s.situation options projections).placement l r).joinOn = none) (hp : p ∈ s.predicates) :
    ¬ p.Across l.baseNames r.baseNames := by
  have hl := hlr.mem_iff.2 List.mem_cons_self
  have hr := hlr.mem_iff.2 (List.mem_cons_of_mem l List.mem_cons_self)
  rcases List.mem_append.1 hp with hp | hp
  · obtain ⟨x, hx, hp⟩ := List.mem_flatMap.1 hp
    exact h.not_across_of_mem_predicates hx hp hlr
  · rw [Situation.placement, joinOn_place, Option.map_eq_none_iff, List.find?_eq_none] at hj
    rw [← h.links_sides_iff options hl hr hp]
    simpa using hj p hp

/-! ### The invariant -/

/-- What holds at every point of the search for a plan with the predicates `ps`. -/
structure Shaped (ps : List Predicate) (s : Search) : Prop where
  /-- Every input that is not used yet reads a single base relation. -/
  single : ∀ x ∈ s.pool, x.scans.length = 1
  /-- The products and joins at hand are steps. -/
  stepwise : ∀ x ∈ s.plans, x.Everywhere (Plan.Stepwise ps)
  /-- Every predicate is pending or belongs to a plan at hand. -/
  accounted : (s.predicates.map Predicate.unsided).Perm (ps.map Predicate.unsided)

/-- The search starts in shape. -/
theorem Shaped.initial {scans : List BaseRelation} (hd : scans.Pairwise BaseRelation.Apart) :
    (initial options scans ps).Shaped ps where
  single x hx := by
    refine forall_mem_initial (P := fun y => y.scans.length = 1) ?_ x (List.mem_append_right _ hx)
    intro r _ qs _
    rw [Plan.scans_foldl_filtered]
    rfl
  stepwise := forall_mem_initial fun _ _ _ _ =>
    Plan.Everywhere.foldl_filtered (fun _ _ _ => trivial) trivial
  accounted := (predicates_initial_perm hd).map _

/-- **Step**: taking a choice keeps a sound search in shape. -/
theorem Shaped.after {c : Choice} (hs : s.Shaped ps) (h : s.Sound projections) (options : Options)
    (hc : c ∈ s.choices) : (s.after (s.situation options projections) c).Shaped ps := by
  have hperm := plans_perm_of_mem_choices hc
  have hl := Sound.left_mem hc
  have hr := Sound.right_mem hc
  have hright : c.right ∈ s.pool := by
    rcases mem_choices_iff.1 hc with ⟨-, -, j, -, -, hj, -⟩ | ⟨-, j, hj, -⟩
    · exact List.mem_of_getElem? hj
    · exact List.mem_of_getElem? hj
  refine ⟨fun x hx => hs.single x (mem_of_mem_eraseAll hx), ?_,
    (predicates_after_perm hc rfl).trans hs.accounted⟩
  refine Sound.forall_mem_after hc hs.stepwise ?_
  refine Situation.stepwise_combination (h.resolved _ hl) (h.resolved _ hr) (h.disjoint hperm)
    (hs.single _ hright) ?_ (hs.stepwise _ hl) (hs.stepwise _ hr)
  intro hj p hp ha
  obtain ⟨q, hq, he⟩ := Predicate.exists_mem_of_perm_unsided hs.accounted.symm hp
  exact h.not_across_of_joinOn_eq_none options hperm hj hq
    (Predicate.across_of_unsided_eq he.symm ha)

/-- If selections are pushed, every base relation starts under those that it can evaluate. -/
theorem pushed_initial (hpush : options.pushSelections = true) (scans : List BaseRelation)
    (ps : List Predicate) : ∀ x ∈ (initial options scans ps).plans, x.Pushed ps := by
  intro x hx
  rw [initial, if_pos hpush] at hx
  obtain ⟨r, -, rfl⟩ := List.mem_map.1 hx
  rw [Plan.Pushed, scans_leaf, leaf, Plan.scanFilters, Plan.filtersUnder_foldl_filtered,
    List.append_nil]
  rfl

end Search

namespace Plan

variable {p q : Plan} {options : Options}

/-- **Shape**: a plan over distinct names is returned as given, without estimates, or rearranged
step by step. If selections are pushed, each scan of the rearranged plan is directly under the
predicates that its base relation can evaluate, in their order in the parts of the plan. -/
theorem optimise_shaped (hd : p.Distinct) (h : (p.optimise options).result = .ok q) :
    q = p.clearOutputs ∨
      q.Everywhere (Stepwise p.parts.predicates) ∧
        (options.pushSelections = true → q.Pushed p.parts.predicates) := by
  obtain ⟨hp, t, x, hrun, ht, hx, -, ⟨-, rfl⟩ | ⟨-, rfl⟩⟩ := hd.optimise_cases h
  · exact Or.inl rfl
  · have hsound := hp.sound_search hd options
    have hlen := length_plans_search options p
    have hmem : x ∈ t.plans := hx ▸ List.mem_singleton_self x
    rw [predicates_parts]
    refine Or.inr ⟨?_, fun hpush => ?_⟩
    · have hshaped : t.Shaped p.predicates :=
        hsound.of_run (fun hs h hc => hs.after h options hc) (.initial hd) hlen hrun
      exact Everywhere.foldl_narrowed (fun _ _ _ => trivial)
        (Everywhere.foldl_filtered (fun _ _ _ => trivial) (hshaped.stepwise x hmem))
    · have hpushed : ∀ y ∈ t.plans, y.Pushed p.predicates :=
        hsound.of_run (P := fun s => ∀ y ∈ s.plans, y.Pushed p.predicates)
          (fun hs _ hc => Search.Sound.forall_mem_after hc hs (Situation.pushed_combination
            (hs _ (Search.Sound.left_mem hc)) (hs _ (Search.Sound.right_mem hc))))
          (Search.pushed_initial hpush p.scans p.predicates) hlen hrun
      have hpending : t.pending = [] :=
        ((Search.Settled.initial hpush p.scans p.predicates).of_run hsound hlen hrun
          ).pending_eq_nil ht hx
      rw [Search.whole, hpending, List.foldl_nil, Pushed, scanFilters_foldl_narrowed,
        scans_foldl_narrowed]
      exact hpushed x hmem

/-- The tills of a shop. -/
def tills : BaseRelation := ⟨"tills", ⟨.clamp 20, [⟨"till", .clamp 20⟩]⟩⟩

/-- Who bought what. -/
def sales : BaseRelation := ⟨"sales", ⟨.clamp 12, [⟨"buyer", .clamp 4⟩, ⟨"goods", .clamp 3⟩]⟩⟩

/-- What lies on which shelf. -/
def wares : BaseRelation := ⟨"wares", ⟨.clamp 6, [⟨"item", .clamp 3⟩, ⟨"shelf", .clamp 2⟩]⟩⟩

/-- Every till with every shelf from which Ann bought tea. -/
def teaByTill : Plan :=
  (((read tills).times (read sales)).times (read wares) |>.filtered
    (.literal ⟨"buyer", .clamp 4⟩ "Ann") |>.filtered
    (.equality ⟨"goods", .clamp 3⟩ ⟨"item", .clamp 3⟩) |>.filtered
    (.literal ⟨"goods", .clamp 3⟩ "tea")).narrowed [⟨"shelf", .clamp 2⟩, ⟨"till", .clamp 20⟩]

/-- Nothing ties the tills to the rest, which is put together first. -/
def teaRearranged : Plan :=
  (((((read sales).filtered (.literal ⟨"buyer", .clamp 4⟩ "Ann") |>.filtered
        (.literal ⟨"goods", .clamp 3⟩ "tea")).narrowed [⟨"goods", 1⟩]).joined
      (read wares) (.equality ⟨"goods", .clamp 3⟩ ⟨"item", .clamp 3⟩)).narrowed
        [⟨"shelf", .clamp 2⟩] |>.times (read tills)).narrowed
    [⟨"shelf", .clamp 2⟩, ⟨"till", .clamp 20⟩]

theorem teaRearranged_shaped :
    teaByTill.Distinct ∧ (teaByTill.optimise ⟨true, true⟩).result = .ok teaRearranged ∧
      teaRearranged.Everywhere (Stepwise teaByTill.parts.predicates) ∧
        teaRearranged.Pushed teaByTill.parts.predicates := by
  have hd : teaByTill.Distinct := by decide
  have h : (teaByTill.optimise ⟨true, true⟩).result = .ok teaRearranged := by decide
  have hne : teaRearranged ≠ teaByTill.clearOutputs := by decide
  obtain ⟨hsteps, hpushed⟩ := (optimise_shaped hd h).resolve_left hne
  exact ⟨hd, h, hsteps, hpushed rfl⟩

end Plan

end RelPlan
