import RelPlan.Proofs.Optimise.Sides
import RelPlan.Proofs.Optimise.Start

/-!
# Settled searches

When selections are pushed, no pending predicate can be evaluated on a plan at hand alone, at the
start (`Settled.initial`) and after every step (`Settled.after`). In such a search every predicate
between two plans links them, so a combination is the two sides gathered under the predicates
between them (`Sound.combination_eq`).
-/

namespace RelPlan

/-- The predicates on the base relations of two plans, in their order. -/
def Plan.between (l r : Plan) (ps : List Predicate) : List Predicate :=
  ps.filter fun p => p.Inside (l.baseNames ++ r.baseNames)

theorem Plan.mem_between {l r : Plan} {ps : List Predicate} {p : Predicate} :
    p ∈ l.between r ps ↔ p ∈ ps ∧ p.Inside (l.baseNames ++ r.baseNames) := by
  simp [between]

theorem Plan.between_comm (l r : Plan) (ps : List Predicate) : l.between r ps = r.between l ps :=
  List.filter_congr fun _ _ => decide_eq_decide.2
    ⟨fun h => h.mono fun _ hn => List.mem_append.2 (List.mem_append.1 hn).symm,
      fun h => h.mono fun _ hn => List.mem_append.2 (List.mem_append.1 hn).symm⟩

namespace Search

/-- No pending predicate can be evaluated on one plan at hand. -/
def Settled (s : Search) : Prop := ∀ p ∈ s.pending, ∀ x ∈ s.plans, ¬ p.Inside x.baseNames

variable {s : Search} {projections : List (List Attribute)} {options : Options} {l r : Plan}

/-- If selections are pushed, a search starts settled. -/
theorem Settled.initial (hpush : options.pushSelections = true) (scans : List BaseRelation)
    (ps : List Predicate) : (initial options scans ps).Settled := by
  intro p hp
  refine forall_mem_initial fun r hr qs _ => ?_
  rw [Search.initial, if_pos hpush] at hp
  have hn : ¬ ∃ r ∈ scans, p.Within r.relation := by simpa using (List.mem_filter.1 hp).2
  rw [Plan.baseNames_foldl_filtered, Plan.baseNames_scan]
  exact fun hi => hn ⟨r, hr, Predicate.within_iff.2 hi⟩

namespace Sound

/-- Two sides can evaluate a pending predicate together if their base relations can. -/
theorem within_sides_iff (h : s.Sound projections) (hl : l ∈ s.plans) (hr : r ∈ s.plans)
    {p : Predicate} (hp : p ∈ s.pending) :
    p.Within (((s.situation options projections).side l).schema.beside
      ((s.situation options projections).side r).schema) ↔
      p.Inside (l.baseNames ++ r.baseNames) := by
  have hlr := Situation.resolved_side (s := s.situation options projections) (h.resolved l hl)
  have hrr := Situation.resolved_side (s := s.situation options projections) (h.resolved r hr)
  rw [Predicate.within_iff, Relation.names_beside, hlr.names_schema, hrr.names_schema]
  refine forall₂_congr fun n hn => ?_
  have hneed : s.Needs projections n := needs_iff.2 (Or.inl ⟨p, hp, hn⟩)
  rw [List.mem_append, List.mem_append, h.mem_visible_side_iff options hl hneed,
    h.mem_visible_side_iff options hr hneed]

/-- What a combination leaves pending are the predicates that are not between its inputs. -/
theorem unplaced_eq (h : s.Sound projections) (hl : l ∈ s.plans) (hr : r ∈ s.plans) :
    (s.situation options projections).unplaced l r =
      s.pending.filter fun p => ¬ p.Inside (l.baseNames ++ r.baseNames) :=
  List.filter_congr fun _ hp => decide_eq_decide.2 (not_congr (h.within_sides_iff hl hr hp))

/-- The sides of two different plans have no name in common. -/
theorem disjoint_sides (h : s.Sound projections) (options : Options) {others : List Plan}
    (hp : s.plans.Perm (l :: r :: others)) :
    ((s.situation options projections).side l).schema.names.Disjoint
      ((s.situation options projections).side r).schema.names := by
  have hl := h.resolved l (hp.mem_iff.2 List.mem_cons_self)
  have hr := h.resolved r (hp.mem_iff.2 (List.mem_cons_of_mem _ List.mem_cons_self))
  rw [(Situation.resolved_side hl).names_schema, (Situation.resolved_side hr).names_schema]
  exact Situation.disjoint_side (h.disjoint hp)

/-- In a settled search the predicates between two plans link their sides. -/
theorem links_of_mem_between (h : s.Sound projections) (hs : s.Settled) (options : Options)
    (hl : l ∈ s.plans) (hr : r ∈ s.plans) :
    ∀ p ∈ l.between r s.pending, p.Links ((s.situation options projections).side l).schema
      ((s.situation options projections).side r).schema := by
  intro p hp
  obtain ⟨hp, hin⟩ := Plan.mem_between.1 hp
  have halone : ∀ x ∈ s.plans, ¬ p.Within ((s.situation options projections).side x).schema := by
    intro x hx hw
    refine hs p hp x hx fun n hn => ?_
    have hv := Predicate.within_iff.1 hw n hn
    rw [(Situation.resolved_side (h.resolved x hx)).names_schema] at hv
    exact Plan.mem_baseNames_of_mem_visible (Situation.mem_visible_of_side hv)
  exact Predicate.links_of_within_beside ((h.within_sides_iff hl hr hp).2 hin) (halone l hl)
    (halone r hr)

/-- The placement between two plans of a settled search: the join is on the first predicate
between them, and the others are stacked. -/
theorem placement_eq (h : s.Sound projections) (hs : s.Settled) (options : Options)
    (hl : l ∈ s.plans) (hr : r ∈ s.plans) :
    ((s.situation options projections).placement l r).joinOn =
      ((l.between r s.pending).head?.map fun p =>
        p.oriented ((s.situation options projections).side l).schema) ∧
    ((s.situation options projections).placement l r).stacked =
      (l.between r s.pending).tail := by
  have hfilter : (s.pending.filter fun p =>
      p.Within (((s.situation options projections).side l).schema.beside
        ((s.situation options projections).side r).schema)) = l.between r s.pending :=
    List.filter_congr fun _ hp => decide_eq_decide.2 (h.within_sides_iff hl hr hp)
  have hlinks := h.links_of_mem_between hs options hl hr
  rw [Situation.placement, joinOn_place, stacked_place, pending_situation,
    ← find?_links_filter_within, hfilter]
  cases hps : l.between r s.pending with
  | nil => exact ⟨rfl, rfl⟩
  | cons p ps =>
    have hp := hlinks p (hps ▸ List.mem_cons_self)
    simp [hp]

/-- The predicates placed between two plans: the ones between them, the first one turned. -/
theorem predicates_placement (h : s.Sound projections) (hs : s.Settled) (options : Options)
    (hl : l ∈ s.plans) (hr : r ∈ s.plans) :
    ((s.situation options projections).placement l r).predicates =
      (l.between r s.pending).modifyHead fun p =>
        p.oriented ((s.situation options projections).side l).schema := by
  obtain ⟨hj, hst⟩ := h.placement_eq hs options hl hr
  rw [Placement.predicates, hj, hst]
  cases l.between r s.pending <;> rfl

/-- A combination in a settled search gathers the sides under the predicates between them. -/
theorem combination_eq (h : s.Sound projections) (hs : s.Settled) (options : Options)
    (hl : l ∈ s.plans) (hr : r ∈ s.plans) :
    (s.situation options projections).combination l r =
      ((s.situation options projections).side l).gathered
        ((s.situation options projections).side r) (l.between r s.pending) := by
  obtain ⟨hj, hst⟩ := h.placement_eq hs options hl hr
  rw [Situation.combination, Placement.combine_eq, Placement.core, hj, hst]
  cases l.between r s.pending <;> rfl

/-- What two different plans are gathered to is resolved. -/
theorem resolved_gathered (h : s.Sound projections) (hs : s.Settled) (options : Options)
    {others : List Plan} (hp : s.plans.Perm (l :: r :: others)) :
    (((s.situation options projections).side l).gathered
      ((s.situation options projections).side r) (l.between r s.pending)).Resolved := by
  have hl := hp.mem_iff.2 List.mem_cons_self
  have hr := hp.mem_iff.2 (List.mem_cons_of_mem _ List.mem_cons_self)
  rw [← h.combination_eq hs options hl hr]
  exact Situation.resolved_combination (h.resolved l hl) (h.resolved r hr) (h.disjoint hp)

/-- It does not matter to the estimate which input of a combination comes first. -/
theorem alike_combination_swap (h : s.Sound projections) (hs : s.Settled) (options : Options)
    {others : List Plan} (hp : s.plans.Perm (l :: r :: others)) :
    ((s.situation options projections).combination l r).schema.Alike
      ((s.situation options projections).combination r l).schema := by
  have hl := hp.mem_iff.2 List.mem_cons_self
  have hr := hp.mem_iff.2 (List.mem_cons_of_mem _ List.mem_cons_self)
  have hswap := h.resolved_gathered hs options (hp.trans (.swap _ _ _))
  rw [h.combination_eq hs options hl hr, h.combination_eq hs options hr hl]
  rw [Plan.between_comm r l] at hswap ⊢
  exact Plan.alike_gathered_swap (h.disjoint_sides options hp)
    (h.links_of_mem_between hs options hl hr) (h.resolved_gathered hs options hp) hswap

end Sound

/-- A step keeps a search settled. -/
theorem Settled.after {c : Choice} (hs : s.Settled) (h : s.Sound projections)
    (hc : c ∈ s.choices) : (s.after (s.situation options projections) c).Settled := by
  intro p hp
  rw [pending_after, h.unplaced_eq (Sound.left_mem hc) (Sound.right_mem hc), List.mem_filter,
    decide_eq_true_eq] at hp
  refine Sound.forall_mem_after hc (hs p hp.1) ?_
  rw [Situation.baseNames_combination]
  exact hp.2

/-- A run keeps a search settled. -/
theorem Settled.of_run (hs : s.Settled) (h : s.Sound projections) {n : Nat}
    (hn : s.plans.length = n + 1) {t : Search} (hrun : run options projections n s = .ok t) :
    t.Settled :=
  h.of_run (fun hs h hc => hs.after h hc) hs hn hrun

/-- A settled search with one plan at hand has nothing pending. -/
theorem Settled.pending_eq_nil {x : Plan} (hs : s.Settled) (h : s.Sound projections)
    (hx : s.plans = [x]) : s.pending = [] := by
  refine List.eq_nil_iff_forall_not_mem.2 fun p hp => ?_
  refine hs p hp x (hx ▸ List.mem_singleton_self x) fun n hn => ?_
  have hneed : s.Needs projections n := needs_iff.2 (Or.inl ⟨p, hp, hn⟩)
  exact Plan.mem_baseNames_of_mem_visible (h.provided.mem_visible_of_plans hx hneed)

end Search

end RelPlan
