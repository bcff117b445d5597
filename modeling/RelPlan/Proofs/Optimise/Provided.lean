import RelPlan.Proofs.Optimise.Bookkeeping

/-!
# Provided searches

Base relations may have attribute names in common here, so that a step can fail. What is known of a
step that succeeds is that it takes a choice with a resolved combination, and then the search stays
provided (`Provided.of_run`). A plan at hand is `Closed` when no pending predicate can be evaluated
on it. What has been combined is always closed, because a combination applies every predicate its
sides can evaluate together (`closed_combination`); and if selections are pushed, every plan at hand
is closed from the start. A provided search that has come to one closed plan has nothing pending
(`Provided.pending_eq_nil`), since that plan shows all names that are still needed.
-/

namespace RelPlan.Search

variable {s t : Search} {σ : Situation} {c : Choice} {options : Options}
  {projections : List (List Attribute)} {x : Plan}

/-! ### Steps and runs -/

/-- A step of a provided search that succeeds takes a choice with a resolved combination. -/
theorem Provided.exists_after_of_step (h : s.Provided projections) {k : Nat}
    (hstep : (s.step options projections k).result = .ok t) :
    ∃ c ∈ s.choices, ((s.situation options projections).combination c.left c.right).Resolved ∧
      t = s.after (s.situation options projections) c := by
  obtain ⟨c, hc, best, hbest, rfl⟩ := exists_candidate_of_step hstep
  have hl := h.resolved _ (Sound.left_mem hc)
  have hr := h.resolved _ (Sound.right_mem hc)
  obtain ⟨hnew, rfl⟩ := (Situation.candidate_eq_ok_iff hl hr).1 hbest
  exact ⟨c, hc, hnew, mk_costed_eq_after rfl c⟩

/-- **Run**: a run that succeeds keeps a search provided, and keeps what every step keeps. -/
theorem Provided.of_run {P : Search → Prop} (h : s.Provided projections)
    (hP : ∀ {s : Search} {c : Choice}, P s → s.Provided projections → c ∈ s.choices →
      P (s.after (s.situation options projections) c))
    (hs : P s) {n : Nat} (hrun : run options projections n s = .ok t) :
    t.Provided projections ∧ P t := by
  induction n generalizing s with
  | zero =>
    cases hrun
    exact ⟨h, hs⟩
  | succ n ih =>
    rw [run, bind_eq_ok_iff] at hrun
    obtain ⟨u, hu, hrun⟩ := hrun
    obtain ⟨c, hc, hnew, rfl⟩ := h.exists_after_of_step hu
    exact ih (h.after options hc hnew) (hP hs h hc) hrun

/-! ### Closed plans -/

/-- No pending predicate can be evaluated on the plan. -/
def Closed (s : Search) (x : Plan) : Prop := ∀ p ∈ s.pending, ¬ p.Inside x.visible

theorem Closed.after (h : s.Closed x) (hσ : σ.pending = s.pending) : (s.after σ c).Closed x :=
  fun p hp => h p (mem_pending_of_after hσ hp)

/-- A combination of resolved inputs is closed: it applies what its sides can evaluate together. -/
theorem closed_combination (hl : c.left.Resolved) (hr : c.right.Resolved) :
    (s.after σ c).Closed (σ.combination c.left c.right) := by
  intro p hp hin
  rw [pending_after, Situation.unplaced, List.mem_filter, decide_eq_true_eq] at hp
  apply hp.2
  rw [Predicate.within_iff]
  intro n hn
  rw [Relation.names_beside, (Situation.resolved_side hl).names_schema,
    (Situation.resolved_side hr).names_schema, List.mem_append]
  exact Situation.mem_visible_combination.1 (hin n hn)

/-- What a run has combined is closed. -/
theorem Provided.closed_combined (h : s.Provided projections) (hs : ∀ x ∈ s.combined, s.Closed x)
    {n : Nat} (hrun : run options projections n s = .ok t) : ∀ x ∈ t.combined, t.Closed x := by
  refine (h.of_run (P := fun s => ∀ x ∈ s.combined, s.Closed x) ?_ hs hrun).2
  intro s c _ h hc x hx
  cases hx
  exact closed_combination (h.resolved _ (Sound.left_mem hc)) (h.resolved _ (Sound.right_mem hc))

/-- If every plan at hand is closed at the start, every plan at hand is closed after a run. -/
theorem Provided.closed_plans (h : s.Provided projections) (hs : ∀ x ∈ s.plans, s.Closed x)
    {n : Nat} (hrun : run options projections n s = .ok t) : ∀ x ∈ t.plans, t.Closed x := by
  refine (h.of_run (P := fun s => ∀ x ∈ s.plans, s.Closed x) ?_ hs hrun).2
  intro s c hs h hc
  refine Sound.forall_mem_after hc (fun x hx => (hs x hx).after rfl) ?_
  exact closed_combination (h.resolved _ (Sound.left_mem hc)) (h.resolved _ (Sound.right_mem hc))

/-- If selections are pushed, every plan at hand is closed at the start. -/
theorem closed_initial (hpush : options.pushSelections = true) (scans : List BaseRelation)
    (ps : List Predicate) : ∀ x ∈ (initial options scans ps).plans,
      (initial options scans ps).Closed x := by
  intro x hx p hp hin
  exact Settled.initial hpush scans ps p hp x hx
    (hin.mono fun _ hn => Plan.mem_baseNames_of_mem_visible hn)

/-- Where one plan is left and it is closed, nothing is pending. -/
theorem Provided.pending_eq_nil (h : s.Provided projections) (hx : s.plans = [x])
    (hc : s.Closed x) : s.pending = [] := by
  refine List.eq_nil_iff_forall_not_mem.2 fun p hp => hc p hp fun n hn => ?_
  exact h.mem_visible_of_plans hx (needs_iff.2 (Or.inl ⟨p, hp, hn⟩))

end RelPlan.Search
