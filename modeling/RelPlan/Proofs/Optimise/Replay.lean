import RelPlan.Proofs.Optimise.Rewind

/-!
# Replaying a run

A run of a settled search can be replayed from the plan it came to. Taken apart, that plan gives a
search which mirrors the first one, with the plans in the order in which they were combined, and
which runs to the same end (`Sound.exists_replay`). The replay is found backwards, from the end of
the run (`TakenApart.of_plans`) over one step after the other (`TakenApart.rewound`).
-/

namespace RelPlan.Search

variable {s t : Search} {projections : List (List Attribute)} {options : Options} {c : Choice}
  {x : Plan}

/-! ### Predicates beyond the plans at hand -/

/-- The predicates that no plan at hand can evaluate. -/
def beyond (s : Search) (ps : List Predicate) : List Predicate :=
  ps.filter fun p => ∀ y ∈ s.plans, ¬ p.Inside y.baseNames

theorem beyond_append (s : Search) (ps qs : List Predicate) :
    s.beyond (ps ++ qs) = s.beyond ps ++ s.beyond qs :=
  List.filter_append _ _

/-- What is beyond the plans at hand does not depend on their order. -/
theorem Mirrors.beyond_eq (h : t.Mirrors s) (ps : List Predicate) : t.beyond ps = s.beyond ps := by
  simp only [beyond, h.plans.mem_iff]

/-- The predicates of a plan at hand are not beyond it. -/
theorem Sound.beyond_predicates (h : s.Sound projections) {y : Plan} (hy : y ∈ s.plans) :
    s.beyond y.predicates = [] :=
  List.filter_eq_nil_iff.2 fun p hp hn =>
    of_decide_eq_true hn y hy ((h.resolved y hy).inside_baseNames p hp)

/-- Predicates outside the combination are beyond the plans at hand before the choice if they are
beyond them after it. -/
theorem Mirrors.beyond_eq_of_not_inside
    (ht : t.Mirrors (s.after (s.situation options projections) c)) (hc : c ∈ s.choices)
    {ps : List Predicate} (hps : ∀ p ∈ ps, ¬ p.Inside
      ((s.situation options projections).combination c.left c.right).baseNames) :
    s.beyond ps = t.beyond ps := by
  rw [ht.beyond_eq]
  refine List.filter_congr fun p hp => decide_eq_decide.2 ?_
  have hc' := plans_perm_of_mem_choices hc
  simp only [hc'.mem_iff, plans_after, List.forall_mem_cons]
  constructor
  · rintro ⟨-, -, ho⟩
    exact ⟨hps p hp, ho⟩
  · rintro ⟨hn, ho⟩
    exact ⟨fun hin => hn (hin.mono fun _ => Situation.mem_baseNames_combination _ _ _ (.inl rfl)),
      fun hin => hn (hin.mono fun _ => Situation.mem_baseNames_combination _ _ _ (.inr rfl)), ho⟩

/-! ### Taking a plan apart -/

/-- The search has what the plan `x` gives when it is taken apart: the base relations in their
order, every predicate on the plan at hand that can evaluate it, and the others pending. -/
structure TakenApart (x : Plan) (t : Search) : Prop where
  /-- The base relations stand in the order of the plan. -/
  scans : t.scans = x.scans
  /-- The predicates of what has been combined come first. -/
  first : ∀ y ∈ t.combined, ∃ ps, x.predicates = y.predicates ++ ps
  /-- A plan at hand has the predicates it can evaluate. -/
  own : ∀ y ∈ t.plans, (x.predicates.filter fun p => p.Inside y.baseNames) = y.predicates
  /-- The predicates that no plan at hand can evaluate are pending. -/
  rest : t.beyond x.predicates = t.pending

/-- The end of a run is the plan it came to. -/
theorem TakenApart.of_plans (h : s.Sound projections) (hs : s.Settled) (hx : s.plans = [x]) :
    TakenApart x s := by
  have hmem : x ∈ s.plans := hx ▸ List.mem_singleton_self x
  refine ⟨?_, ?_, ?_, ?_⟩
  · rw [Search.scans, hx, List.flatMap_singleton]
  · intro y hy
    have hy : y ∈ s.plans := List.mem_append_left _ (Option.mem_toList.2 hy)
    rw [hx, List.mem_singleton] at hy
    exact ⟨[], by rw [hy, List.append_nil]⟩
  · rw [hx, List.forall_mem_singleton]
    exact (h.resolved x hmem).filter_inside_baseNames
  · rw [hs.pending_eq_nil h hx, h.beyond_predicates hmem]

section Rewound

variable (h : s.Sound projections) (hs : s.Settled) (hc : c ∈ s.choices)
include h hs hc

/-- A placed predicate is not inside a plan at hand. -/
theorem not_inside_of_mem_placement {p : Predicate} {y : Plan} (hy : y ∈ s.plans)
    (hp : p ∈ ((s.situation options projections).placement c.left c.right).predicates) :
    ¬ p.Inside y.baseNames := by
  obtain ⟨q, hq, he, -⟩ :=
    h.inside_of_mem_placement hs (Sound.left_mem hc) (Sound.right_mem hc) hp
  exact fun hin => hs q hq y hy ((Predicate.inside_of_unsided_eq he _).2 hin)

/-- Of the predicates of a combination, the placed ones are beyond the plans at hand. -/
theorem beyond_combination :
    s.beyond ((s.situation options projections).combination c.left c.right).predicates =
      ((s.situation options projections).placement c.left c.right).predicates := by
  have hplaced :
      s.beyond ((s.situation options projections).placement c.left c.right).predicates =
        ((s.situation options projections).placement c.left c.right).predicates :=
    List.filter_eq_self.2 fun p hp => decide_eq_true fun y hy =>
      not_inside_of_mem_placement h hs hc hy hp
  rw [Situation.predicates_combination, beyond_append, beyond_append, hplaced,
    h.beyond_predicates (Sound.left_mem hc), h.beyond_predicates (Sound.right_mem hc)]
  rfl

/-- Of the predicates of a combination, an input can evaluate its own. -/
theorem filter_inside_combination {y : Plan} (hy : y = c.left ∨ y = c.right) :
    (((s.situation options projections).combination c.left c.right).predicates.filter
      fun p => p.Inside y.baseNames) = y.predicates := by
  have hl := h.resolved _ (Sound.left_mem hc)
  have hr := h.resolved _ (Sound.right_mem hc)
  have hd := h.disjoint (plans_perm_of_mem_choices hc)
  have hplaced : (((s.situation options projections).placement c.left c.right).predicates.filter
      fun p => p.Inside y.baseNames) = [] := by
    refine List.filter_eq_nil_iff.2 fun p hp => ?_
    rw [decide_eq_true_eq]
    refine not_inside_of_mem_placement h hs hc ?_ hp
    exact hy.elim (fun e => e ▸ Sound.left_mem hc) fun e => e ▸ Sound.right_mem hc
  rw [Situation.predicates_combination, List.filter_append, List.filter_append, hplaced]
  rcases hy with rfl | rfl
  · rw [hl.filter_inside_baseNames, hr.filter_inside_of_disjoint hd.symm]
    simp
  · rw [hr.filter_inside_baseNames, hl.filter_inside_of_disjoint hd]
    simp

/-- What an input can evaluate of a list of predicates, if the combination can evaluate its own
predicates of the list. -/
theorem filter_inside_input {ps : List Predicate} {y : Plan} (hy : y = c.left ∨ y = c.right)
    (hps : (ps.filter fun p => p.Inside
      ((s.situation options projections).combination c.left c.right).baseNames) =
        ((s.situation options projections).combination c.left c.right).predicates) :
    (ps.filter fun p => p.Inside y.baseNames) = y.predicates := by
  rw [← filter_inside_combination h hs hc hy, ← hps, List.filter_filter]
  refine List.filter_congr fun p _ => ?_
  rw [← Bool.decide_and, decide_eq_decide]
  exact (and_iff_left_of_imp fun hp =>
    hp.mono fun _ => Situation.mem_baseNames_combination _ _ _ hy).symm

/-- **Rewinding**: a plan taken apart to a mirror image of the end of a step is taken apart to the
rewound search. -/
theorem TakenApart.rewound (hx : TakenApart x t)
    (ht : t.Mirrors (s.after (s.situation options projections) c)) :
    TakenApart x (s.rewound (s.situation options projections) c t) := by
  have hplans := plans_rewound (t := t) hc (s.situation options projections)
  have hcombined : t.combined =
      some ((s.situation options projections).combination c.left c.right) := ht.combined
  have htplans : t.plans =
      (s.situation options projections).combination c.left c.right :: t.pool := by
    rw [plans, hcombined]
    rfl
  have hcomb : (s.situation options projections).combination c.left c.right ∈ t.plans :=
    htplans ▸ List.mem_cons_self
  have htsound := ht.sound (h.after options hc)
  obtain ⟨ps, hps⟩ := hx.first _ (Option.mem_def.2 hcombined)
  have hown := hx.own
  rw [htplans, List.forall_mem_cons] at hown
  refine ⟨?_, ?_, ?_, ?_⟩
  · rw [← hx.scans, Search.scans, Search.scans, hplans, htplans, List.flatMap_cons,
      List.flatMap_cons, List.flatMap_cons, Situation.scans_combination, List.append_assoc]
  · intro y hy
    rw [hps, Situation.predicates_combination]
    rcases mem_choices_iff.1 hc with ⟨hn, -⟩ | ⟨hn, -⟩
    · rw [combined_rewound, hn] at hy
      cases hy
    · rw [combined_rewound, hn] at hy
      cases hy
      exact ⟨_, by rw [List.append_assoc, List.append_assoc]⟩
  · rw [hplans, List.forall_mem_cons, List.forall_mem_cons]
    exact ⟨filter_inside_input h hs hc (.inl rfl) hown.1,
      filter_inside_input h hs hc (.inr rfl) hown.1, hown.2⟩
  · -- The predicates behind those of the combination are outside of it.
    have houtside : ∀ p ∈ ps, ¬ p.Inside
        ((s.situation options projections).combination c.left c.right).baseNames := by
      have hself := hown.1
      rw [hps, List.filter_append, (htsound.resolved _ hcomb).filter_inside_baseNames,
        List.append_right_eq_self, List.filter_eq_nil_iff] at hself
      exact fun p hp hin => hself p hp (decide_eq_true hin)
    have hrest := hx.rest
    rw [hps, beyond_append, htsound.beyond_predicates hcomb, List.nil_append] at hrest
    rw [(mirrors_rewound h hs hc ht).beyond_eq, hps, beyond_append, beyond_combination h hs hc,
      ht.beyond_eq_of_not_inside hc houtside, hrest, pending_rewound]

end Rewound

/-! ### Replay -/

/-- **Replay**: what a settled search came to is taken apart to a search that mirrors it and runs
to the same end. -/
theorem Sound.exists_replay (h : s.Sound projections) (hs : s.Settled) {n : Nat}
    (hn : s.plans.length = n + 1) {f : Search}
    (hrun : run options projections n s = .ok f) (hx : f.plans = [x]) :
    ∃ t : Search, t.Mirrors s ∧ TakenApart x t ∧ run options projections n t = .ok f := by
  induction n generalizing s with
  | zero =>
    obtain rfl : s = f := Except.ok.inj hrun
    exact ⟨s, .refl s, .of_plans h hs hx, rfl⟩
  | succ n ih =>
    obtain ⟨c, hc, hbest, hlen, hnext⟩ := h.exists_run_succ options hn
    obtain ⟨t, ht, htx, htrun⟩ := ih (h.after options hc) (hs.after h hc) hlen (hnext ▸ hrun)
    have hm := mirrors_rewound h hs hc ht
    refine ⟨_, hm, htx.rewound h hs hc ht, ?_⟩
    -- The rewound search takes the same choice first.
    obtain ⟨d, hdbest, hl, hr, hu⟩ := hm.best?_eq h hs hbest (plans_rewound hc _)
    obtain ⟨e, -, hebest, -, hagain⟩ :=
      (hm.sound h).exists_run_succ options (hm.plans.length_eq.trans hn)
    obtain rfl : d = e := Option.some.inj (hdbest.symm.trans hebest)
    rw [hagain, after_rewound h hs hc ht hl hr hu]
    exact htrun

/-- A search over single base relations to which a plan is taken apart is where its rearrangement
starts. -/
theorem TakenApart.eq_initial (hx : TakenApart x t)
    (hpush : options.pushSelections = true) (hcombined : t.combined = none)
    (hleaf : ∀ y ∈ t.plans, ∃ r qs, y = List.foldl Plan.filtered (.read r) qs) :
    t = initial options x.scans x.predicates := by
  obtain ⟨combined, pool, pending⟩ := t
  obtain rfl : combined = none := hcombined
  have hown : ∀ y ∈ pool, y.scans.map (leaf x.predicates) = [y] := by
    intro y hy
    obtain ⟨r, qs, rfl⟩ := hleaf y hy
    have hqs := hx.own _ hy
    rw [Plan.baseNames_foldl_filtered, Plan.baseNames_scan, Plan.predicates_foldl_filtered] at hqs
    rw [Plan.scans_foldl_filtered]
    show [leaf x.predicates r] = _
    simp only [leaf, Predicate.within_iff]
    exact congrArg (fun ps => [List.foldl Plan.filtered (.read r) ps]) hqs
  have hpool : pool = x.scans.map (leaf x.predicates) := by
    rw [← hx.scans]
    show pool = (pool.flatMap Plan.scans).map (leaf x.predicates)
    rw [List.map_flatMap, List.flatMap_congr hown, List.flatMap_singleton']
  have hpending : pending = x.predicates.filter fun p => ¬ ∃ r ∈ x.scans, p.Within r.relation := by
    rw [← hx.scans]
    refine hx.rest.symm.trans (List.filter_congr fun p _ => decide_eq_decide.2 ⟨?_, ?_⟩)
    · rintro hn ⟨r', hr', hw⟩
      obtain ⟨y, hy, hr'⟩ := List.mem_flatMap.1 hr'
      obtain ⟨r, qs, rfl⟩ := hleaf y hy
      rw [Plan.scans_foldl_filtered] at hr'
      obtain rfl : r' = r := List.mem_singleton.1 hr'
      refine hn _ hy ?_
      rw [Plan.baseNames_foldl_filtered, Plan.baseNames_scan]
      exact Predicate.within_iff.1 hw
    · intro hn y hy hin
      obtain ⟨r, qs, rfl⟩ := hleaf y hy
      rw [Plan.baseNames_foldl_filtered, Plan.baseNames_scan] at hin
      refine hn ⟨r, List.mem_flatMap.2 ⟨_, hy, ?_⟩, Predicate.within_iff.2 hin⟩
      rw [Plan.scans_foldl_filtered]
      exact List.mem_singleton_self r
  rw [initial, if_pos hpush, ← hpool, ← hpending]

end RelPlan.Search
