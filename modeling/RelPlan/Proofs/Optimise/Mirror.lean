import RelPlan.Proofs.Optimise.Settled

/-!
# Searches that mirror each other

A search mirrors another one if it has the same plans at hand, the unused ones in any order, and
if the predicates between any two of them are the same in the same order, however they are turned.
Mirrored choices cost the same (`Mirrors.cost_eq`). So if the plans that one search takes come
first in the other, the other takes them as well (`Mirrors.best?_eq`).
-/

namespace RelPlan.Search

/-- The search `t` has the plans of `s` at hand, in any order, and between any two plans the
predicates of `s` in their order. -/
structure Mirrors (t s : Search) : Prop where
  /-- The same has been combined. -/
  combined : t.combined = s.combined
  /-- The inputs not used yet are the same. -/
  pool : t.pool.Perm s.pool
  /-- The same predicates are pending, perhaps turned. -/
  pending : (t.pending.map Predicate.unsided).Perm (s.pending.map Predicate.unsided)
  /-- Between two plans the predicates have the same order. -/
  between : ∀ {l r : Plan} {others : List Plan}, s.plans.Perm (l :: r :: others) →
    (l.between r t.pending).map Predicate.unsided = (l.between r s.pending).map Predicate.unsided

variable {s t : Search} {projections : List (List Attribute)} {options : Options}

namespace Mirrors

theorem refl (s : Search) : s.Mirrors s := ⟨rfl, .refl _, .refl _, fun _ => rfl⟩

theorem plans (h : t.Mirrors s) : t.plans.Perm s.plans := by
  rw [Search.plans, h.combined]
  exact h.pool.append_left _

theorem needs_iff (h : t.Mirrors s) {n : String} :
    t.Needs projections n ↔ s.Needs projections n := by
  rw [Search.needs_iff, Search.needs_iff]
  refine or_congr_left ⟨?_, ?_⟩
  · rintro ⟨p, hp, hn⟩
    obtain ⟨q, hq, he⟩ := Predicate.exists_mem_of_perm_unsided h.pending hp
    exact ⟨q, hq, (Predicate.mem_names_of_unsided_eq he).2 hn⟩
  · rintro ⟨p, hp, hn⟩
    obtain ⟨q, hq, he⟩ := Predicate.exists_mem_of_perm_unsided h.pending.symm hp
    exact ⟨q, hq, (Predicate.mem_names_of_unsided_eq he).2 hn⟩

theorem sound (h : t.Mirrors s) (hs : s.Sound projections) : t.Sound projections where
  resolved x hx := hs.resolved x (h.plans.mem_iff.1 hx)
  distinct := BaseRelation.pairwise_apart_of_perm (h.plans.flatMap_right _).symm hs.distinct
  shown n hn := by
    obtain ⟨x, hx, hv⟩ := hs.shown n (h.needs_iff.1 hn)
    exact ⟨x, h.plans.mem_iff.2 hx, hv⟩
  topless x hx := hs.topless x (h.plans.mem_iff.1 hx)
  unnarrowed hπ x hx := hs.unnarrowed hπ x (h.plans.mem_iff.1 hx)
  bare x hx := hs.bare x (h.plans.mem_iff.1 hx)

theorem settled (h : t.Mirrors s) (hs : s.Settled) : t.Settled := by
  intro p hp x hx hin
  obtain ⟨q, hq, he⟩ := Predicate.exists_mem_of_perm_unsided h.pending hp
  exact hs q hq x (h.plans.mem_iff.1 hx) ((Predicate.inside_of_unsided_eq he _).2 hin)

/-- An input is narrowed to the same side: the same names are needed. -/
theorem side_eq (h : t.Mirrors s) (x : Plan) :
    (t.situation options projections).side x = (s.situation options projections).side x := by
  have hkept : ∀ schema : Relation,
      (schema.attributes.filter fun a => a.name ∈ namesOf (neededAttributes projections t.pending))
        = schema.attributes.filter fun a =>
          a.name ∈ namesOf (neededAttributes projections s.pending) := fun schema =>
    List.filter_congr fun a _ => decide_eq_decide.2 h.needs_iff
  have hretained : (t.situation options projections).retained? x.schema =
      (s.situation options projections).retained? x.schema := by
    unfold Situation.retained? situation
    dsimp only
    split_ifs
    · simp only [hkept]
    · rfl
  rw [Situation.side, Situation.side, hretained]

/-- Two plans are combined to the same estimate, but for the order of attributes. -/
theorem alike_combination (h : t.Mirrors s) (hs : s.Sound projections) (hst : s.Settled)
    (options : Options) {l r : Plan} {others : List Plan}
    (hp : s.plans.Perm (l :: r :: others)) :
    ((s.situation options projections).combination l r).schema.Alike
      ((t.situation options projections).combination l r).schema := by
  have hl := hp.mem_iff.2 List.mem_cons_self
  have hr := hp.mem_iff.2 (List.mem_cons_of_mem _ List.mem_cons_self)
  have hres := (h.sound hs).resolved_gathered (h.settled hst) options (h.plans.trans hp)
  rw [h.side_eq, h.side_eq] at hres
  rw [hs.combination_eq hst options hl hr, (h.sound hs).combination_eq (h.settled hst) options
    (h.plans.mem_iff.2 hl) (h.plans.mem_iff.2 hr), h.side_eq, h.side_eq]
  exact Plan.alike_gathered (hs.disjoint_sides options hp) (h.between hp).symm
    (hs.links_of_mem_between hst options hl hr) (hs.resolved_gathered hst options hp) hres

/-- A choice costs what the mirrored choice costs, also with its inputs exchanged. -/
theorem cost_eq (h : t.Mirrors s) (hs : s.Sound projections) (hst : s.Settled)
    (options : Options) {c d : Choice} (hc : c ∈ s.choices)
    (hd : d.left = c.left ∧ d.right = c.right ∨ d.left = c.right ∧ d.right = c.left) :
    cost (t.situation options projections) d = cost (s.situation options projections) c := by
  have hp := plans_perm_of_mem_choices hc
  show ((t.situation options projections).combination d.left d.right).schema.tuples.toNat =
    ((s.situation options projections).combination c.left c.right).schema.tuples.toNat
  rcases hd with ⟨hl, hr⟩ | ⟨hl, hr⟩
  · rw [hl, hr, (h.alike_combination hs hst options hp).1]
  · rw [hl, hr, (hs.alike_combination_swap hst options hp).1,
      (h.alike_combination hs hst options (hp.trans (.swap _ _ _))).1]

/-- Every choice mirrors a choice, perhaps with its inputs exchanged. -/
theorem exists_choice (h : t.Mirrors s) {d : Choice} (hd : d ∈ t.choices) : ∃ c ∈ s.choices,
    d.left = c.left ∧ d.right = c.right ∨ d.left = c.right ∧ d.right = c.left := by
  rcases mem_choices_iff.1 hd with ⟨hn, i, j, hij, hl, hr, -⟩ | ⟨hs, j, hr, -⟩
  · rw [h.combined] at hn
    rcases mem_pairs_of_perm h.pool (mem_pairs_iff.2 ⟨i, j, hij, hl, hr⟩) with hm | hm
    · obtain ⟨i', j', hij', hl', hr'⟩ := mem_pairs_iff.1 hm
      exact ⟨⟨d.left, d.right, [i', j']⟩,
        mem_choices_iff.2 (Or.inl ⟨hn, i', j', hij', hl', hr', rfl⟩), Or.inl ⟨rfl, rfl⟩⟩
    · obtain ⟨i', j', hij', hl', hr'⟩ := mem_pairs_iff.1 hm
      exact ⟨⟨d.right, d.left, [i', j']⟩,
        mem_choices_iff.2 (Or.inl ⟨hn, i', j', hij', hl', hr', rfl⟩), Or.inr ⟨rfl, rfl⟩⟩
  · rw [h.combined] at hs
    obtain ⟨j', hr'⟩ := List.mem_iff_getElem?.1 (h.pool.subset (List.mem_of_getElem? hr))
    exact ⟨⟨d.left, d.right, [j']⟩, mem_choices_iff.2 (Or.inr ⟨hs, j', hr', rfl⟩),
      Or.inl ⟨rfl, rfl⟩⟩

/-- If the inputs of the best choice come first in the mirroring search, they are its best choice:
nothing costs less, and among equals the first one wins. -/
theorem best?_eq (h : t.Mirrors s) (hs : s.Sound projections) (hst : s.Settled) {c : Choice}
    (hb : s.best? options projections = some c) {others : List Plan}
    (hplans : t.plans = c.left :: c.right :: others) :
    ∃ d, t.best? options projections = some d ∧ d.left = c.left ∧ d.right = c.right ∧
      eraseAll d.used t.pool = others := by
  obtain ⟨d, ds, hds, hl, hr, hu⟩ := choices_eq_cons hplans
  refine ⟨d, ?_, hl, hr, hu⟩
  have hc := List.argmin_mem hb
  rw [best?, hds]
  refine argmin_cons_of_le fun e he => ?_
  obtain ⟨c', hc', he⟩ := h.exists_choice (hds ▸ List.mem_cons_of_mem d he)
  rw [h.cost_eq hs hst options hc (Or.inl ⟨hl, hr⟩), h.cost_eq hs hst options hc' he]
  exact List.le_of_mem_argmin hc' hb

end Mirrors

end RelPlan.Search
