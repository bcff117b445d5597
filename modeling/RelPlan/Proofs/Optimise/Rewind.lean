import RelPlan.Proofs.Optimise.Mirror

/-!
# Rewinding a step

From a mirror image of what comes after a step, the step can be taken back. In the search
`Search.rewound` the inputs of the choice stand in front and the predicates between them come
first. It mirrors the search before the step (`mirrors_rewound`), and taking the same inputs there
leads to the mirror image again (`after_rewound`).
-/

namespace RelPlan

/-! ### Two elements of a rearranged list -/

/-- Of two elements in front of a rearranged list, both were in front, or one of them was not. -/
theorem perm_cons_cons_cases {α : Type} [DecidableEq α] {u v l r : α} {xs ys : List α}
    (h : (u :: v :: xs).Perm (l :: r :: ys)) :
    (u = l ∧ v = r ∨ u = r ∧ v = l) ∨
    (u = l ∨ u = r) ∧ (∃ zs, ys.Perm (v :: zs)) ∨
    (v = l ∨ v = r) ∧ (∃ zs, ys.Perm (u :: zs)) ∨
    ∃ zs, ys.Perm (u :: v :: zs) := by
  rcases List.mem_cons.1 (h.subset List.mem_cons_self) with rfl | hu
  · rcases List.mem_cons.1 ((h.cons_inv).subset List.mem_cons_self) with rfl | hv
    · exact Or.inl (Or.inl ⟨rfl, rfl⟩)
    · exact Or.inr (Or.inl ⟨Or.inl rfl, _, List.perm_cons_erase hv⟩)
  rcases List.mem_cons.1 hu with rfl | hu
  · rcases List.mem_cons.1 ((h.trans (.swap _ _ _)).cons_inv.subset List.mem_cons_self)
      with rfl | hv
    · exact Or.inl (Or.inr ⟨rfl, rfl⟩)
    · exact Or.inr (Or.inl ⟨Or.inr rfl, _, List.perm_cons_erase hv⟩)
  · have hys := List.perm_cons_erase hu
    have hfront : (l :: r :: ys).Perm (u :: l :: r :: ys.erase u) :=
      ((hys.cons r).cons l).trans (((List.Perm.swap u r _).cons l).trans (.swap u l _))
    have hv := ((h.trans hfront).cons_inv).subset List.mem_cons_self
    rcases List.mem_cons.1 hv with rfl | hv
    · exact Or.inr (Or.inr (Or.inl ⟨Or.inl rfl, _, hys⟩))
    rcases List.mem_cons.1 hv with rfl | hv
    · exact Or.inr (Or.inr (Or.inl ⟨Or.inr rfl, _, hys⟩))
    · exact Or.inr (Or.inr (Or.inr ⟨_, hys.trans ((List.perm_cons_erase hv).cons u)⟩))

/-! ### Predicates between plans -/

namespace Plan

theorem between_append (l r : Plan) (ps qs : List Predicate) :
    l.between r (ps ++ qs) = l.between r ps ++ l.between r qs :=
  List.filter_append _ _

/-- Predicates between two plans stay between them if one reads more. -/
theorem between_between {u v x y : Plan}
    (h : ∀ n ∈ u.baseNames ++ v.baseNames, n ∈ x.baseNames ++ y.baseNames) (ps : List Predicate) :
    u.between v (x.between y ps) = u.between v ps := by
  rw [between, between, List.filter_filter, between]
  refine List.filter_congr fun p _ => ?_
  rw [← Bool.decide_and, decide_eq_decide]
  exact and_iff_left_of_imp fun hp => hp.mono h

theorem map_unsided_between {u v : Plan} {ps qs : List Predicate}
    (h : ps.map Predicate.unsided = qs.map Predicate.unsided) :
    (u.between v ps).map Predicate.unsided = (u.between v qs).map Predicate.unsided :=
  Predicate.map_unsided_filter
    (fun _ _ he => decide_eq_decide.2 (Predicate.inside_of_unsided_eq he _)) h

end Plan

namespace Search

variable {s t : Search} {projections : List (List Attribute)} {options : Options} {c : Choice}

/-! ### Rewinding a step -/

/-- The search from which the choice `c` of `s` leads to `t`: the inputs of `c` stand in front, and
the predicates between them come before the others. -/
def rewound (s : Search) (σ : Situation) (c : Choice) (t : Search) : Search where
  combined := s.combined
  pool := if s.combined.isSome then c.right :: t.pool else c.left :: c.right :: t.pool
  pending := (σ.placement c.left c.right).predicates ++ t.pending

@[simp] theorem combined_rewound (σ : Situation) :
    (s.rewound σ c t).combined = s.combined := rfl

@[simp] theorem pending_rewound (σ : Situation) :
    (s.rewound σ c t).pending = (σ.placement c.left c.right).predicates ++ t.pending := rfl

theorem plans_rewound (hc : c ∈ s.choices) (σ : Situation) :
    (s.rewound σ c t).plans = c.left :: c.right :: t.pool := by
  rw [plans, rewound]
  rcases mem_choices_iff.1 hc with ⟨hs, -⟩ | ⟨hs, -⟩ <;> rw [hs] <;> rfl

namespace Sound

/-- The predicates that are placed between two plans are between them, turned or not. -/
theorem map_unsided_placement (h : s.Sound projections) (hs : s.Settled) {l r : Plan}
    (hl : l ∈ s.plans) (hr : r ∈ s.plans) :
    ((s.situation options projections).placement l r).predicates.map Predicate.unsided =
      (l.between r s.pending).map Predicate.unsided := by
  rw [h.predicates_placement hs options hl hr]
  cases l.between r s.pending <;> simp

theorem inside_of_mem_placement (h : s.Sound projections) (hs : s.Settled) {l r : Plan}
    (hl : l ∈ s.plans) (hr : r ∈ s.plans) {p : Predicate}
    (hp : p ∈ ((s.situation options projections).placement l r).predicates) :
    ∃ q ∈ s.pending, q.unsided = p.unsided ∧ q.Inside (l.baseNames ++ r.baseNames) := by
  have hm := List.mem_map_of_mem (f := Predicate.unsided) hp
  rw [h.map_unsided_placement hs hl hr] at hm
  obtain ⟨q, hq, he⟩ := List.mem_map.1 hm
  exact ⟨q, (Plan.mem_between.1 hq).1, he, (Plan.mem_between.1 hq).2⟩

end Sound

/-- A pending predicate between two plans is not between two others, even if they share one. -/
theorem Settled.not_inside (hs : s.Settled) {u v l r : Plan} (hu : u ∈ s.plans)
    (hl : v.baseNames.Disjoint l.baseNames) (hr : v.baseNames.Disjoint r.baseNames) {p : Predicate}
    (hp : p ∈ s.pending) (h : p.Inside (u.baseNames ++ v.baseNames)) :
    ¬ p.Inside (l.baseNames ++ r.baseNames) := by
  refine fun h' => hs p hp u hu fun n hn => ?_
  refine (List.mem_append.1 (h n hn)).resolve_right fun hv => ?_
  exact (List.mem_append.1 (h' n hn)).elim (hl hv) (hr hv)

section Rewound

variable (h : s.Sound projections) (hs : s.Settled) (hc : c ∈ s.choices)
  (ht : t.Mirrors (s.after (s.situation options projections) c))
include h hs hc

/-- The placed predicates of a choice are the ones between its inputs. -/
theorem between_placement : c.left.between c.right
    ((s.situation options projections).placement c.left c.right).predicates =
      ((s.situation options projections).placement c.left c.right).predicates := by
  refine List.filter_eq_self.2 fun p hp => decide_eq_true ?_
  obtain ⟨q, -, he, hq⟩ :=
    h.inside_of_mem_placement hs (Sound.left_mem hc) (Sound.right_mem hc) hp
  exact (Predicate.inside_of_unsided_eq he _).1 hq

/-- No placed predicate is between two plans of which one is not an input of the choice. -/
theorem between_placement_eq_nil {u v : Plan} (hu : u ∈ s.plans)
    (hl : v.baseNames.Disjoint c.left.baseNames) (hr : v.baseNames.Disjoint c.right.baseNames) :
    u.between v ((s.situation options projections).placement c.left c.right).predicates = [] := by
  refine List.filter_eq_nil_iff.2 fun p hp => ?_
  obtain ⟨q, hq, he, hin⟩ :=
    h.inside_of_mem_placement hs (Sound.left_mem hc) (Sound.right_mem hc) hp
  rw [decide_eq_true_eq, ← Predicate.inside_of_unsided_eq he]
  exact fun hin' => hs.not_inside hu hl hr hq hin' hin

include ht

/-- After a choice, nothing is pending between its inputs. -/
theorem not_inside_of_mirrors_after {p : Predicate} (hp : p ∈ t.pending) :
    ¬ p.Inside (c.left.baseNames ++ c.right.baseNames) := by
  have hcomb : (s.situation options projections).combination c.left c.right ∈ t.plans :=
    ht.plans.mem_iff.2 List.mem_cons_self
  have := ht.settled (hs.after h hc) p hp _ hcomb
  rwa [Situation.baseNames_combination] at this

/-- Between the inputs of the choice are the placed predicates. -/
theorem between_rewound_inputs :
    c.left.between c.right (s.rewound (s.situation options projections) c t).pending =
      ((s.situation options projections).placement c.left c.right).predicates := by
  have hnil : c.left.between c.right t.pending = [] := List.filter_eq_nil_iff.2 fun p hp => by
    simpa using not_inside_of_mirrors_after h hs hc ht hp
  rw [pending_rewound, Plan.between_append, between_placement h hs hc, hnil, List.append_nil]

/-- If one of two plans is not an input of the choice, the predicates between them are the same
before the choice as in a mirror image of what comes after it. -/
theorem between_rewound_of_other {u v x : Plan} {others : List Plan} (hu : u ∈ s.plans)
    (hl : v.baseNames.Disjoint c.left.baseNames) (hr : v.baseNames.Disjoint c.right.baseNames)
    (hx : (s.after (s.situation options projections) c).plans.Perm (x :: v :: others))
    (hux : ∀ n ∈ u.baseNames, n ∈ x.baseNames) :
    (u.between v (s.rewound (s.situation options projections) c t).pending).map
      Predicate.unsided = (u.between v s.pending).map Predicate.unsided := by
  have hsub : ∀ n ∈ u.baseNames ++ v.baseNames, n ∈ x.baseNames ++ v.baseNames := fun n hn =>
    List.mem_append.2 ((List.mem_append.1 hn).imp_left (hux n))
  have hafter := Plan.map_unsided_between (u := u) (v := v) (ht.between hx)
  rw [Plan.between_between hsub, Plan.between_between hsub] at hafter
  rw [pending_rewound, Plan.between_append, between_placement_eq_nil h hs hc hu hl hr,
    List.nil_append, hafter, pending_after, h.unplaced_eq (Sound.left_mem hc) (Sound.right_mem hc),
    Plan.between, List.filter_filter]
  congr 1
  refine List.filter_congr fun p hp => ?_
  rw [← Bool.decide_and, decide_eq_decide]
  exact and_iff_left_of_imp fun hin => hs.not_inside hu hl hr hp hin

/-- **Rewinding**: from a mirror image of the end of a step to one of its start. -/
theorem mirrors_rewound : (s.rewound (s.situation options projections) c t).Mirrors s where
  combined := rfl
  pool := by
    have hperm : (s.rewound (s.situation options projections) c t).plans.Perm s.plans := by
      rw [plans_rewound hc]
      exact ((ht.pool.cons _).cons _).trans (plans_perm_of_mem_choices hc).symm
    exact (List.perm_append_left_iff _).1 hperm
  pending := by
    have hplaced := (s.situation options projections).unsided_placement_perm c.left c.right
    rw [List.map_append] at hplaced
    rw [pending_rewound, List.map_append]
    exact (ht.pending.append_left _).trans hplaced
  between := by
    intro u v others hp
    have hc' := plans_perm_of_mem_choices hc
    have hu : u ∈ s.plans := hp.mem_iff.2 List.mem_cons_self
    have hv : v ∈ s.plans := hp.mem_iff.2 (List.mem_cons_of_mem _ List.mem_cons_self)
    -- A plan that is not an input of the choice has no name in common with the inputs.
    have hother : ∀ {y : Plan} {zs : List Plan}, (eraseAll c.used s.pool).Perm (y :: zs) →
        y.baseNames.Disjoint c.left.baseNames ∧ y.baseNames.Disjoint c.right.baseNames := by
      intro y zs hy
      have hfront := hc'.trans ((hy.cons _).cons _)
      exact ⟨(h.disjoint (hfront.trans ((List.Perm.swap _ _ _).cons _))).symm,
        (h.disjoint (hfront.trans ((List.Perm.swap _ _ _).trans
          ((List.Perm.swap _ _ _).cons _)))).symm⟩
    rcases perm_cons_cons_cases (hp.symm.trans hc') with
      (⟨rfl, rfl⟩ | ⟨rfl, rfl⟩) | ⟨hul, zs, hz⟩ | ⟨hvl, zs, hz⟩ | ⟨zs, hz⟩
    · rw [between_rewound_inputs h hs hc ht]
      exact h.map_unsided_placement hs hu hv
    · rw [Plan.between_comm, Plan.between_comm c.right, between_rewound_inputs h hs hc ht]
      exact h.map_unsided_placement hs hv hu
    · obtain ⟨hl, hr⟩ := hother hz
      exact between_rewound_of_other h hs hc ht hu hl hr (hz.cons _)
        fun _ => Situation.mem_baseNames_combination _ _ _ hul
    · obtain ⟨hl, hr⟩ := hother hz
      rw [Plan.between_comm, Plan.between_comm u]
      exact between_rewound_of_other h hs hc ht hv hl hr (hz.cons _)
        fun _ => Situation.mem_baseNames_combination _ _ _ hvl
    · obtain ⟨hl, hr⟩ := hother (hz.trans (.swap _ _ _))
      have hfront := (hz.cons ((s.situation options projections).combination c.left c.right)).trans
        ((List.Perm.swap u _ _).trans ((List.Perm.swap v _ _).cons u))
      exact between_rewound_of_other h hs hc ht hu hl hr hfront fun _ hn => hn

/-- Taking the inputs of the choice in the rewound search leads to the mirror image. -/
theorem after_rewound {d : Choice} (hl : d.left = c.left) (hr : d.right = c.right)
    (hu : eraseAll d.used (s.rewound (s.situation options projections) c t).pool = t.pool) :
    (s.rewound (s.situation options projections) c t).after
      ((s.rewound (s.situation options projections) c t).situation options projections) d = t := by
  have hm := mirrors_rewound h hs hc ht
  have hbetween := between_rewound_inputs h hs hc ht
  have hpending : (s.rewound (s.situation options projections) c t).pending =
      ((s.situation options projections).placement c.left c.right).predicates ++ t.pending := rfl
  generalize s.rewound (s.situation options projections) c t = u at hu hm hbetween hpending ⊢
  have hlu : c.left ∈ u.plans := hm.plans.mem_iff.2 (Sound.left_mem hc)
  have hru : c.right ∈ u.plans := hm.plans.mem_iff.2 (Sound.right_mem hc)
  have hcombination : (u.situation options projections).combination c.left c.right =
      (s.situation options projections).combination c.left c.right := by
    rw [(hm.sound h).combination_eq (hm.settled hs) options hlu hru, hbetween, hm.side_eq,
      hm.side_eq, h.predicates_placement hs options (Sound.left_mem hc) (Sound.right_mem hc),
      h.combination_eq hs options (Sound.left_mem hc) (Sound.right_mem hc)]
    exact Plan.gathered_modifyHead (h.disjoint_sides options (plans_perm_of_mem_choices hc))
      (h.links_of_mem_between hs options (Sound.left_mem hc) (Sound.right_mem hc))
  have hunplaced : (u.situation options projections).unplaced c.left c.right = t.pending := by
    rw [(hm.sound h).unplaced_eq hlu hru, hpending, List.filter_append,
      List.filter_eq_nil_iff.2, List.nil_append, List.filter_eq_self.2]
    · exact fun p hp => decide_eq_true (not_inside_of_mirrors_after h hs hc ht hp)
    · intro p hp
      rw [← between_placement h hs hc] at hp
      simpa using (Plan.mem_between.1 hp).2
  have hcombined : t.combined =
      some ((s.situation options projections).combination c.left c.right) := ht.combined
  rw [after, hl, hr, hu, hcombination, hunplaced, ← hcombined]

end Rewound

end Search

end RelPlan
