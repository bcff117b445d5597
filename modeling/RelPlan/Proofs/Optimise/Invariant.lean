import RelPlan.Optimise.Rearrangement
import RelPlan.Proofs.Optimise.Steps

/-!
# The invariant of the search

A search is `Provided` when the plans at hand are resolved and show every name that is still needed,
and `Sound` if besides they have no name in common. A sound search always has a next step
(`Sound.exists_step`), the step keeps it sound (`Sound.after`), and it keeps the base relations that
are read and the predicates that are applied or pending (`scans_after_perm`,
`predicates_after_perm`). By induction a sound search can be run until one plan is left
(`Sound.exists_run`).
-/

namespace RelPlan.Search

/-! ### What a search accounts for -/

/-- The base relations that the plans at hand read. -/
def scans (s : Search) : List BaseRelation := s.plans.flatMap Plan.scans

/-- The predicates of the plans at hand and the pending ones. -/
def predicates (s : Search) : List Predicate := s.plans.flatMap Plan.predicates ++ s.pending

/-- The attribute names of the base relations. -/
def baseNames (s : Search) : List String := s.plans.flatMap Plan.baseNames

variable {s : Search} {c : Choice} {σ : Situation}

/-- A choice among the plans at hand leaves all base relations at hand. -/
theorem scans_after_perm (h : c ∈ s.choices) : (s.after σ c).scans.Perm s.scans := by
  have hp := (plans_perm_of_mem_choices h).flatMap_right Plan.scans
  refine List.Perm.trans (.of_eq ?_) hp.symm
  simp [scans]

/-- A step turns pending predicates into predicates of a plan and loses none. -/
theorem predicates_after_perm (h : c ∈ s.choices) (hσ : σ.pending = s.pending) :
    ((s.after σ c).predicates.map Predicate.unsided).Perm
      (s.predicates.map Predicate.unsided) := by
  have hp := ((plans_perm_of_mem_choices h).flatMap_right Plan.predicates).map Predicate.unsided
  have hplaced := σ.unsided_placement_perm c.left c.right
  rw [List.map_append, hσ] at hplaced
  rw [predicates, predicates, List.map_append, List.map_append]
  refine List.Perm.trans ?_ (hp.symm.append hplaced)
  simp only [plans_after, pending_after, List.flatMap_cons, Situation.predicates_combination,
    List.map_append, List.append_assoc]
  refine List.Perm.append_left _ (List.Perm.append_left _ ?_)
  rw [← List.append_assoc, ← List.append_assoc]
  exact List.perm_append_comm.append_right _

/-! ### Soundness -/

variable (projections : List (List Attribute))

/-- A name that a pending predicate or a projection uses. -/
def Needs (s : Search) (n : String) : Prop := n ∈ namesOf (neededAttributes projections s.pending)

/-- What holds at every point of a search under `projections`, even if base relations have attribute
names in common. -/
structure Provided (s : Search) : Prop where
  /-- The plans at hand are resolved. -/
  resolved : ∀ x ∈ s.plans, x.Resolved
  /-- Every name that is needed is visible in a plan at hand. -/
  shown : ∀ n, s.Needs projections n → ∃ x ∈ s.plans, n ∈ x.visible

/-- What holds at every point of a search under `projections`. -/
structure Sound (s : Search) : Prop where
  /-- The plans at hand are resolved. -/
  resolved : ∀ x ∈ s.plans, x.Resolved
  /-- No two base relations at hand have an attribute name in common. -/
  distinct : s.scans.Pairwise BaseRelation.Apart
  /-- Every name that is needed is visible in a plan at hand. -/
  shown : ∀ n, s.Needs projections n → ∃ x ∈ s.plans, n ∈ x.visible
  /-- No projection stands at the top of a plan at hand. -/
  topless : ∀ x ∈ s.plans, x.projections = []
  /-- If there are no projections to come, there is none at hand. -/
  unnarrowed : projections = [] → ∀ x ∈ s.plans, x.Unnarrowed
  /-- The plans at hand carry no estimates. -/
  bare : ∀ x ∈ s.plans, x.Bare

variable {projections}

theorem needs_iff {n : String} : s.Needs projections n ↔
    (∃ p ∈ s.pending, n ∈ p.names) ∨ ∃ as ∈ projections, n ∈ namesOf as :=
  mem_names_neededAttributes

/-- What is pending after a step was pending before. -/
theorem mem_pending_of_after (hσ : σ.pending = s.pending) {p : Predicate}
    (hp : p ∈ (s.after σ c).pending) : p ∈ s.pending := by
  rw [pending_after, Situation.unplaced, hσ] at hp
  exact (List.mem_filter.1 hp).1

/-- An attribute that is not needed is not needed later. -/
theorem Needs.of_after {n : String} (hσ : σ.pending = s.pending)
    (h : (s.after σ c).Needs projections n) : s.Needs projections n := by
  rw [needs_iff] at h ⊢
  exact h.imp_left fun ⟨p, hp, hn⟩ => ⟨p, mem_pending_of_after hσ hp, hn⟩

variable (s) (options : Options)

@[simp] theorem pending_situation :
    (s.situation options projections).pending = s.pending := rfl

variable {s options}

theorem needed?_situation_eq_some {needed : List Attribute}
    (h : (s.situation options projections).needed? = some needed) :
    needed = neededAttributes projections s.pending := by
  unfold situation at h
  dsimp only at h
  split at h
  · exact (Option.some.inj h).symm
  · cases h

theorem needed?_situation_nil : (s.situation options []).needed? = none := by
  simp [situation]

namespace Provided

/-- If one plan is at hand, it shows every name that is needed. -/
theorem mem_visible_of_plans (h : s.Provided projections) {x : Plan} (hx : s.plans = [x])
    {n : String} (hn : s.Needs projections n) : n ∈ x.visible := by
  obtain ⟨y, hy, hv⟩ := h.shown n hn
  rw [hx, List.mem_singleton] at hy
  exact hy ▸ hv

/-- Needed names are not dropped from a side. -/
theorem mem_visible_side (h : s.Provided projections) (options : Options) {x : Plan}
    (hx : x ∈ s.plans) {n : String} (hn : s.Needs projections n) (hv : n ∈ x.visible) :
    n ∈ ((s.situation options projections).side x).visible :=
  Situation.mem_visible_side (h.resolved x hx) hv fun _ hneeded =>
    needed?_situation_eq_some hneeded ▸ hn

end Provided

namespace Sound

theorem provided (h : s.Sound projections) : s.Provided projections := ⟨h.resolved, h.shown⟩

/-- Two different plans at hand have no name in common. -/
theorem disjoint (h : s.Sound projections) {x y : Plan} {others : List Plan}
    (hp : s.plans.Perm (x :: y :: others)) : x.baseNames.Disjoint y.baseNames := by
  have hd := BaseRelation.pairwise_apart_of_perm (hp.flatMap_right Plan.scans) h.distinct
  rw [List.flatMap_cons, List.flatMap_cons, ← List.append_assoc] at hd
  exact (BaseRelation.pairwise_apart_append.1 (List.pairwise_append.1 hd).1).2.2

/-- Plans at hand with a common name are the same plan. -/
theorem eq_of_mem_baseNames (h : s.Sound projections) {x y : Plan} (hx : x ∈ s.plans)
    (hy : y ∈ s.plans) {n : String} (hnx : n ∈ x.baseNames) (hny : n ∈ y.baseNames) : x = y := by
  by_contra hxy
  obtain ⟨others, hp⟩ : ∃ others, s.plans.Perm (x :: y :: others) := by
    have hx' := List.perm_cons_erase hx
    have hy' : y ∈ s.plans.erase x := (List.mem_erase_of_ne (Ne.symm hxy)).2 hy
    exact ⟨_, hx'.trans ((List.perm_cons_erase hy').cons x)⟩
  exact h.disjoint hp hnx hny

/-- A needed name is visible in the plan whose base relations have it. -/
theorem mem_visible (h : s.Sound projections) {x : Plan} (hx : x ∈ s.plans) {n : String}
    (hn : s.Needs projections n) (hb : n ∈ x.baseNames) : n ∈ x.visible := by
  obtain ⟨y, hy, hv⟩ := h.shown n hn
  rwa [h.eq_of_mem_baseNames hx hy hb (Plan.mem_baseNames_of_mem_visible hv)]

/-- A side shows a needed name exactly when the base relations of its input have it. -/
theorem mem_visible_side_iff (h : s.Sound projections) (options : Options) {x : Plan}
    (hx : x ∈ s.plans) {n : String} (hn : s.Needs projections n) :
    n ∈ ((s.situation options projections).side x).visible ↔ n ∈ x.baseNames :=
  ⟨fun hv => Plan.mem_baseNames_of_mem_visible (Situation.mem_visible_of_side hv),
    fun hb => h.provided.mem_visible_side options hx hn (h.mem_visible hx hn hb)⟩

theorem left_mem (h : c ∈ s.choices) : c.left ∈ s.plans :=
  (plans_perm_of_mem_choices h).mem_iff.2 List.mem_cons_self

theorem right_mem (h : c ∈ s.choices) : c.right ∈ s.plans :=
  (plans_perm_of_mem_choices h).mem_iff.2 (List.mem_cons_of_mem _ List.mem_cons_self)

/-- What holds of the plans at hand and of a combination holds of the plans at hand after it. -/
theorem forall_mem_after {P : Plan → Prop} (hc : c ∈ s.choices) (hp : ∀ x ∈ s.plans, P x)
    (hnew : P (σ.combination c.left c.right)) : ∀ x ∈ (s.after σ c).plans, P x := by
  rw [plans_after, List.forall_mem_cons]
  refine ⟨hnew, fun x hx => hp x ((plans_perm_of_mem_choices hc).mem_iff.2 ?_)⟩
  exact List.mem_cons_of_mem _ (List.mem_cons_of_mem _ hx)

end Sound

/-- **Step**: taking a choice with a resolved combination keeps a search provided. -/
theorem Provided.after (h : s.Provided projections) (options : Options) (hc : c ∈ s.choices)
    (hnew : ((s.situation options projections).combination c.left c.right).Resolved) :
    (s.after (s.situation options projections) c).Provided projections where
  resolved := Sound.forall_mem_after hc h.resolved hnew
  shown := by
    intro n hn
    have hn := hn.of_after rfl
    obtain ⟨x, hx, hv⟩ := h.shown n hn
    have hside := h.mem_visible_side options hx hn hv
    rw [plans_after]
    rcases List.mem_cons.1 ((plans_perm_of_mem_choices hc).mem_iff.1 hx) with rfl | hx
    · exact ⟨_, List.mem_cons_self, Situation.mem_visible_combination.2 (Or.inl hside)⟩
    rcases List.mem_cons.1 hx with rfl | hx
    · exact ⟨_, List.mem_cons_self, Situation.mem_visible_combination.2 (Or.inr hside)⟩
    · exact ⟨x, List.mem_cons_of_mem _ hx, hv⟩

namespace Sound

/-- In a sound search every choice has a resolved combination. -/
theorem resolved_combination (h : s.Sound projections) (hc : c ∈ s.choices) :
    (σ.combination c.left c.right).Resolved :=
  Situation.resolved_combination (h.resolved _ (left_mem hc)) (h.resolved _ (right_mem hc))
    (h.disjoint (plans_perm_of_mem_choices hc))

/-- **Step**: taking a choice keeps a search sound. -/
theorem after (h : s.Sound projections) (options : Options) (hc : c ∈ s.choices) :
    (s.after (s.situation options projections) c).Sound projections where
  resolved := (h.provided.after options hc (h.resolved_combination hc)).resolved
  distinct := BaseRelation.pairwise_apart_of_perm (scans_after_perm hc).symm h.distinct
  shown := (h.provided.after options hc (h.resolved_combination hc)).shown
  topless := forall_mem_after hc h.topless (Situation.projections_combination _ _ _)
  unnarrowed := by
    rintro rfl
    have hu := h.unnarrowed rfl
    exact forall_mem_after hc hu (Situation.unnarrowed_combination needed?_situation_nil
      (hu _ (left_mem hc)) (hu _ (right_mem hc)))
  bare := forall_mem_after hc h.bare <|
    Situation.bare_combination (h.bare _ (left_mem hc)) (h.bare _ (right_mem hc))

/-- In a sound search every choice has its candidate. -/
theorem result_candidate (h : s.Sound projections) (hc : c ∈ s.choices) :
    (σ.candidate c.left c.right).result = .ok (σ.costed c.left c.right) :=
  Situation.result_candidate (h.resolved _ (left_mem hc)) (h.resolved _ (right_mem hc))
    (h.disjoint (plans_perm_of_mem_choices hc))

/-- **Progress**: as long as two plans are at hand, a step takes a choice. -/
theorem exists_step (h : s.Sound projections) (options : Options) (hl : 2 ≤ s.plans.length) :
    ∃ c ∈ s.choices, s.best? options projections = some c ∧ ∀ k,
      (s.step options projections k).result =
        .ok (s.after (s.situation options projections) c) :=
  exists_step_of_candidates options projections hl fun _ hc => h.result_candidate hc

/-- A run begins with the best choice and goes on with one plan less. -/
theorem exists_run_succ (h : s.Sound projections) (options : Options) {n : Nat}
    (hn : s.plans.length = n + 2) :
    ∃ c ∈ s.choices, s.best? options projections = some c ∧
      (s.after (s.situation options projections) c).plans.length = n + 1 ∧
      run options projections (n + 1) s =
        run options projections n (s.after (s.situation options projections) c) := by
  obtain ⟨c, hc, hbest, hstep⟩ := h.exists_step options (by omega)
  have hlen := (plans_perm_of_mem_choices hc).length_eq
  rw [List.length_cons, List.length_cons] at hlen
  refine ⟨c, hc, hbest, ?_, ?_⟩
  · rw [plans_after, List.length_cons]
    omega
  · rw [run, hstep]
    rfl

/-- What a step of a sound search keeps holds at the end of a run. -/
theorem of_run {P : Search → Prop} (h : s.Sound projections)
    (hP : ∀ {s : Search} {c : Choice}, P s → s.Sound projections → c ∈ s.choices →
      P (s.after (s.situation options projections) c))
    (hs : P s) {n : Nat} (hn : s.plans.length = n + 1) {t : Search}
    (hrun : run options projections n s = .ok t) : P t := by
  induction n generalizing s with
  | zero =>
    cases hrun
    exact hs
  | succ n ih =>
    obtain ⟨c, hc, -, hlen, hnext⟩ := h.exists_run_succ options hn
    exact ih (h.after options hc) (hP hs h hc) hlen (hnext ▸ hrun)

/-- **Run**: a sound search runs until one plan is left, and stays sound. -/
theorem exists_run (h : s.Sound projections) (options : Options) {n : Nat}
    (hn : s.plans.length = n + 1) :
    ∃ t, run options projections n s = .ok t ∧ t.Sound projections ∧ t.plans.length = 1 ∧
      t.scans.Perm s.scans ∧
      (t.predicates.map Predicate.unsided).Perm (s.predicates.map Predicate.unsided) := by
  induction n generalizing s with
  | zero => exact ⟨s, rfl, h, hn, .refl _, .refl _⟩
  | succ n ih =>
    obtain ⟨c, hc, -, hlen, hrun⟩ := h.exists_run_succ options hn
    obtain ⟨t, htrun, ht, hone, hscans, hpreds⟩ := ih (h.after options hc) hlen
    exact ⟨t, hrun.trans htrun, ht, hone, hscans.trans (scans_after_perm hc),
      hpreds.trans (predicates_after_perm hc rfl)⟩

end Sound

end RelPlan.Search
