import RelPlan.Proofs.Optimise.Cost
import RelPlan.Proofs.Optimise.Shape

/-!
# The bookkeeping of the search

Nothing is assumed of the plan that is optimised. The search keeps lists of the inputs that are not
used yet and of the predicates that are not applied yet, and takes elements out of them by position.
A step takes out what its candidate was made of, by positions that are in range
(`Search.commits_of_step`), and leaves one plan less at hand. A plan reads one base relation more
than it has products, so a step always has two plans to choose from, and the search never ends for
want of a relation (`Plan.optimise_bookkeeping`).
-/

namespace RelPlan

variable {α β : Type}

/-! ### Errors -/

/-- The outcome is not that there is no relation to plan for. -/
def Supplied (x : Except PlanError α) : Prop := x ≠ .error .emptyPlan

theorem supplied_ok (a : α) : Supplied (.ok a) := nofun

theorem Supplied.bind {x : Except PlanError α} {f : α → Except PlanError β} (hx : Supplied x)
    (hf : ∀ a, x = .ok a → Supplied (f a)) : Supplied (x >>= f) := by
  cases x with
  | error e => exact fun h => hx (congrArg Except.error (Except.error.inj h))
  | ok a => exact hf a rfl

theorem Supplied.foldlM {f : β → α → Except PlanError β} (hf : ∀ b a, Supplied (f b a))
    (as : List α) (b : β) : Supplied (as.foldlM f b) := by
  induction as generalizing b with
  | nil => exact supplied_ok b
  | cons a as ih =>
    rw [List.foldlM_cons]
    exact (hf b a).bind fun c _ => ih c

theorem Relation.supplied_lookup (r : Relation) (a : Attribute) : Supplied (r.lookup a) := by
  unfold lookup
  cases r.attribute? a.name <;> nofun

namespace Estimate

theorem supplied_select (p : Predicate) (r : Relation) : Supplied (select p r) := by
  cases p with
  | literal a v => exact (r.supplied_lookup a).bind fun _ _ => supplied_ok _
  | equality a b =>
    exact (r.supplied_lookup a).bind fun _ _ => (r.supplied_lookup b).bind fun _ _ => supplied_ok _

theorem supplied_project (as : List Attribute) (r : Relation) : Supplied (project as r) := by
  unfold project
  cases as.find? fun a => ¬ r.Has a.name <;> nofun

theorem supplied_join (p : Predicate) (l r : Relation) : Supplied (join p l r) := by
  cases p with
  | literal a v => nofun
  | equality a b =>
    exact (l.supplied_lookup a).bind fun _ _ => (r.supplied_lookup b).bind fun _ _ => supplied_ok _

end Estimate

/-- A plan reads a relation, so estimating it does not fail for want of one. -/
theorem Plan.supplied_estimated (p : Plan) : Supplied p.estimated.result := by
  show Supplied p.estimate.outcome
  induction p with
  | scan r o => exact supplied_ok r.relation
  | select q i o ih =>
    rw [outcome_select]
    exact ih.bind fun r _ => Estimate.supplied_select q r
  | project as i o ih =>
    rw [outcome_project]
    exact ih.bind fun r _ => Estimate.supplied_project as r
  | product l r o ihl ihr =>
    rw [outcome_product]
    exact ihl.bind fun _ _ => ihr.bind fun _ _ => supplied_ok _
  | join q l r o ihl ihr =>
    rw [outcome_join]
    exact ihl.bind fun a _ => ihr.bind fun b _ => Estimate.supplied_join q a b

namespace Situation

variable (s : Situation)

theorem supplied_narrow (x : Plan) : Supplied (s.narrow x).result := by
  rw [narrow, Logged.result_bind]
  refine x.supplied_estimated.bind fun schema _ => ?_
  cases s.retained? schema with
  | none => exact supplied_ok _
  | some kept =>
    dsimp only
    rw [Logged.result_bind]
    exact (Plan.supplied_estimated _).bind fun _ _ => supplied_ok _

theorem supplied_candidate (l r : Plan) : Supplied (s.candidate l r).result := by
  rw [candidate, Logged.result_bind]
  refine (s.supplied_narrow l).bind fun left _ => ?_
  rw [Logged.result_bind]
  refine (s.supplied_narrow r).bind fun right _ => ?_
  rw [Logged.result_bind]
  exact (Plan.supplied_estimated _).bind fun _ _ => supplied_ok _

end Situation

/-! ### Steps -/

namespace Search

variable {s t : Search} {options : Options} {projections : List (List Attribute)}

theorem length_plans (s : Search) : s.plans.length = s.combined.toList.length + s.pool.length :=
  List.length_append

/-- Where there is a choice and all can be costed, one is the cheapest. -/
theorem cheapest_ne_none {σ : Situation} {choices : List Choice} (hc : choices ≠ [])
    {o : Option (Candidate × Choice)} (h : (cheapest σ choices).result = .ok o) : o ≠ none := by
  obtain ⟨c, cs, rfl⟩ := List.exists_cons_of_ne_nil hc
  rw [cheapest, Logged.result_foldlM, List.foldlM_cons, bind_eq_ok_iff] at h
  obtain ⟨first, hfirst, h⟩ := h
  rw [Logged.result_bind_eq_ok_iff] at hfirst
  obtain ⟨candidate, -, hfirst⟩ := hfirst
  cases hfirst
  -- The first candidate beats none, and a best one is displaced by another only.
  refine of_foldlM_eq_ok (P := fun o => o ≠ none) ?_ ?_ h
  · rw [if_pos (by simp [Candidate.Beats])]
    exact Option.some_ne_none _
  · intro best hbest choice _ best' h'
    rw [Logged.result_bind_eq_ok_iff] at h'
    obtain ⟨candidate', -, h'⟩ := h'
    cases h'
    split
    · exact Option.some_ne_none _
    · exact hbest

/-- The search after one step more. -/
theorem result_steps_succ (s : Search) (k : Nat) :
    (s.steps options projections (k + 1)).result =
      (s.steps options projections k).result >>= fun t =>
        (t.step options projections (k + 1)).result := by
  have hlast : ∀ t : Search, ([k].foldlM (fun (u : Search) k => u.step options projections (k + 1))
      t).result = (t.step options projections (k + 1)).result := by
    intro t
    rw [Logged.result_foldlM, List.foldlM_cons]
    exact bind_pure _
  rw [steps, List.range_succ, List.foldlM_append, Logged.result_bind]
  exact congrArg _ (funext hlast)

/-- As long as two plans are at hand, a step does not fail for want of a relation. -/
theorem supplied_step (h : 2 ≤ s.plans.length) (k : Nat) :
    Supplied (s.step options projections k).result := by
  have hcheapest : Supplied (cheapest (s.situation options projections) s.choices).result := by
    rw [cheapest, Logged.result_foldlM]
    refine Supplied.foldlM (fun best c => ?_) _ _
    rw [Logged.result_bind]
    exact (Situation.supplied_candidate _ _ _).bind fun _ _ => supplied_ok _
  rw [step, Logged.result_bind]
  refine hcheapest.bind fun o ho => ?_
  cases o with
  | none => exact absurd rfl (cheapest_ne_none (choices_ne_nil h) ho)
  | some chosen => exact supplied_ok _

/-- What it means that a step takes the choice `c`, with its candidate `best`: what the candidate
was made of is taken out, and nothing else. -/
structure Commits (s t : Search) (best : Candidate) (c : Choice) (inputs : List Plan)
    (placed : List Predicate) : Prop where
  /-- The choice combines what has been combined before with one of the inputs, or two of them. -/
  choice : s.combined.toList ++ inputs = [c.left, c.right]
  /-- Its positions are in range, and its inputs are taken out of the pool. -/
  pool : takeOut? c.used s.pool = some (inputs, t.pool)
  /-- The candidate reads what the two plans read. -/
  scans : best.plan.scans = c.left.scans ++ c.right.scans
  /-- The candidate applies what the two plans apply, and the placed predicates. -/
  predicates : (best.plan.predicates.map Predicate.unsided).Perm
    ((c.left.predicates ++ c.right.predicates ++ placed).map Predicate.unsided)
  /-- The positions it applies are in range, and the placed predicates are taken out of the pending
  ones. -/
  pending : takeOut? best.applied s.pending = some (placed, t.pending)
  /-- The other predicates stay in their order. -/
  order : t.pending.Sublist s.pending
  /-- The candidate is what is combined next. -/
  combined : t.combined = some best.plan

/-- The inputs of a choice can be taken out of the pool. -/
theorem exists_takeOut?_used {c : Choice} (hc : c ∈ s.choices) :
    ∃ inputs, s.combined.toList ++ inputs = [c.left, c.right] ∧
      takeOut? c.used s.pool = some (inputs, eraseAll c.used s.pool) := by
  rcases mem_choices_iff.1 hc with ⟨hs, i, j, hij, hl, hr, hu⟩ | ⟨hs, j, hr, hu⟩
  · have h := takeOut?_pair hij hl hr
    rw [hs, hu]
    exact ⟨[c.left, c.right], rfl, h⟩
  · have h := takeOut?_singleton hr
    rw [hs, hu]
    exact ⟨[c.right], rfl, h⟩

/-- **Step**: a step that succeeds commits the cheapest candidate. -/
theorem commits_of_step {k : Nat} (h : (s.step options projections k).result = .ok t) :
    ∃ best c inputs placed, (cheapest (s.situation options projections) s.choices).result =
      .ok (some (best, c)) ∧ s.Commits t best c inputs placed := by
  obtain ⟨best, c, hcheapest, rfl⟩ := exists_cheapest_of_step h
  obtain ⟨hc, hbest⟩ := mem_of_cheapest hcheapest
  obtain ⟨inputs, hchoice, hpool⟩ := exists_takeOut?_used hc
  obtain ⟨l, ls, r, rs, -, hl, hr, hplan, happlied, -⟩ := Situation.candidate_eq_ok hbest
  rw [pending_situation] at hplan happlied
  have hnarrow : ∀ {x y : Plan} {schema : Relation},
      ((s.situation options projections).narrow x).result = .ok (y, schema) →
        y.scans = x.scans ∧ y.predicates = x.predicates := by
    intro x y schema hy
    obtain rfl | ⟨kept, rfl⟩ := Situation.narrow_cases hy <;> exact ⟨rfl, rfl⟩
  obtain ⟨hls, hlp⟩ := hnarrow hl
  obtain ⟨hrs, hrp⟩ := hnarrow hr
  -- What the candidate applies is what its placement takes out of the pending predicates.
  have hplaced := takeOut?_applied_place ls rs s.pending
  rw [← happlied] at hplaced
  have hrest := eraseAll_of_takeOut? hplaced
  refine ⟨best, c, inputs, s.pending.filter fun p => p.Within (ls.beside rs), hcheapest, ?_⟩
  refine
    { choice := hchoice, pool := hpool, scans := ?_, predicates := ?_, pending := ?_, order := ?_
      combined := rfl }
  · rw [hplan, Placement.scans_combine, hls, hrs]
  · rw [hplan, Placement.predicates_combine, hlp, hrp]
    simp only [List.map_append]
    exact (unsided_place_perm ls rs s.pending).append_left _
  · exact hplaced.trans (by rw [hrest])
  · rw [hrest]
    exact List.filter_sublist

/-- A step leaves one plan less at hand. -/
theorem length_plans_of_step {k : Nat} (h : (s.step options projections k).result = .ok t) :
    t.plans.length + 1 = s.plans.length := by
  obtain ⟨c, hc, best, -, rfl⟩ := exists_candidate_of_step h
  rw [(plans_perm_of_mem_choices hc).length_eq, length_plans]
  simp [Nat.add_comm]

/-! ### Runs -/

/-- **Run**: as many steps as are taken, as many plans less are at hand. -/
theorem length_plans_of_run {n : Nat} (h : run options projections n s = .ok t) :
    t.plans.length + n = s.plans.length := by
  induction n generalizing s with
  | zero =>
    cases h
    rfl
  | succ n ih =>
    rw [run, bind_eq_ok_iff] at h
    obtain ⟨u, hu, h⟩ := h
    rw [← length_plans_of_step hu, ← ih h]
    omega

/-- After one step or more there is something combined. -/
theorem length_combined_of_run {n : Nat} (h : run options projections n s = .ok t)
    (hn : 1 ≤ n) : t.combined.toList.length = 1 := by
  induction n generalizing s with
  | zero => omega
  | succ n ih =>
    rw [run, bind_eq_ok_iff] at h
    obtain ⟨u, hu, h⟩ := h
    cases n with
    | zero =>
      cases h
      obtain ⟨-, -, best, -, rfl⟩ := exists_candidate_of_step hu
      rfl
    | succ n => exact ih h (by omega)

/-- A run with fewer steps than plans at hand does not fail for want of a relation. -/
theorem supplied_run {n : Nat} (h : n < s.plans.length) :
    Supplied (run options projections n s) := by
  induction n generalizing s with
  | zero => exact supplied_ok s
  | succ n ih =>
    refine (supplied_step (by omega) 0).bind fun t ht => ih ?_
    have := length_plans_of_step ht
    omega

end Search

/-! ### Whole plans -/

/-- Where there are more relations than products, rearranging does not fail for want of one. -/
theorem Parts.supplied_rearrange {parts : Parts} (h : parts.products < parts.scans.length)
    (options : Options) (projections : List (List Attribute)) :
    Supplied (parts.rearrange options projections).result := by
  rw [rearrange, Logged.result_bind, Search.result_start]
  refine (supplied_ok _).bind fun start hstart => ?_
  cases hstart
  rw [Logged.result_bind, Search.result_steps]
  have hlen : (Search.initial options parts.scans parts.predicates).plans.length =
      parts.scans.length := Search.length_plans_initial
  refine (Search.supplied_run (by omega)).bind fun t ht => ?_
  have hleft := Search.length_plans_of_run ht
  cases hx : t.plan? with
  | none =>
    -- Without a plan at hand more steps would have been taken than there were plans to combine.
    have hnil : t.plans = [] := by
      obtain ⟨combined, pool, pending⟩ := t
      cases combined with
      | none => exact List.head?_eq_none_iff.1 hx
      | some x => cases hx
    rw [hnil, List.length_nil] at hleft
    omega
  | some x =>
    dsimp only
    rw [Logged.result_bind, result_stackUnplaced]
    refine (supplied_ok _).bind fun filtered _ => ?_
    rw [Logged.result_bind]
    exact (Plan.supplied_estimated _).bind fun _ _ => supplied_ok _

namespace Plan

/-- Optimising does not fail for want of a relation. -/
theorem supplied_optimise (options : Options) (p : Plan) :
    Supplied (p.optimise options).result := by
  have hparts : p.parts.products < p.parts.scans.length := by
    rw [parts, p.length_scans_partsFrom]
    exact Nat.lt_succ_self _
  rw [optimise, Logged.result_bind]
  refine p.clearOutputs.supplied_estimated.bind fun output _ => ?_
  rw [Logged.result_bind]
  refine (Parts.supplied_rearrange hparts _ _).bind fun w _ => ?_
  dsimp only
  split <;> exact supplied_ok _

/-- **Bookkeeping**: whatever the plan, optimising it does not fail for want of a relation. After
`k` of its `n` steps the search has `n - k` inputs left, or all `n + 1` if `k` is `0`, and none
after the last step. As long as `k` is less than `n` there is a choice, so that the next step does
not fail for want of a relation either; if it succeeds, it takes out of the pool and out of the
pending predicates what its candidate was made of, by positions in range, and nothing else. -/
theorem optimise_bookkeeping (options : Options) (p : Plan) :
    (p.optimise options).result ≠ .error .emptyPlan ∧
    ∀ projections k s, k ≤ p.parts.products →
      (Search.start options p.parts.scans p.parts.predicates >>= fun start =>
        start.steps options projections k).result = .ok s →
      s.pool.length = (if k = 0 then p.parts.products + 1 else p.parts.products - k) ∧
      (k = p.parts.products → 1 ≤ k → s.pool = []) ∧
      (k < p.parts.products → s.choices ≠ [] ∧
        (s.step options projections (k + 1)).result ≠ .error .emptyPlan ∧
        ∀ t, (s.step options projections (k + 1)).result = .ok t →
          ∃ best c inputs placed,
            (Search.cheapest (s.situation options projections) s.choices).result =
              .ok (some (best, c)) ∧
            s.Commits t best c inputs placed) := by
  refine ⟨p.supplied_optimise options, fun projections k s hk h => ?_⟩
  rw [Logged.result_bind, Search.result_start] at h
  have hrun : Search.run options projections k
      (.initial options p.parts.scans p.parts.predicates) = .ok s :=
    (Search.result_steps _ _ _ _).symm.trans h
  have hplans : s.plans.length + k = p.parts.products + 1 := by
    rw [Search.length_plans_of_run hrun, Search.length_plans_initial, parts,
      p.length_scans_partsFrom]
  -- What is combined is one of the plans at hand, once a step was taken.
  have hsplit := s.length_plans
  have hpool : s.pool.length =
      if k = 0 then p.parts.products + 1 else p.parts.products - k := by
    split
    · next h0 =>
      subst h0
      cases hrun
      rw [Search.combined_initial, Option.toList_none, List.length_nil] at hsplit
      omega
    · next h0 =>
      rw [Search.length_combined_of_run hrun (by omega)] at hsplit
      omega
  refine ⟨hpool, fun hlast hpos => ?_, fun hlt => ?_⟩
  · rw [if_neg (by omega), hlast, Nat.sub_self] at hpool
    exact List.length_eq_zero_iff.1 hpool
  · have htwo : 2 ≤ s.plans.length := by omega
    exact ⟨Search.choices_ne_nil htwo, Search.supplied_step htwo _, fun t ht =>
      Search.commits_of_step ht⟩

/-- Of the two products of the plan, the second step takes the only input that is left. -/
theorem teaByTill_bookkeeping :
    (teaByTill.optimise ⟨true, true⟩).result ≠ .error .emptyPlan ∧
    ∃ s t best c inputs placed,
      (Search.start ⟨true, true⟩ teaByTill.parts.scans teaByTill.parts.predicates >>= fun start =>
        start.steps ⟨true, true⟩ teaByTill.outermost 1).result = .ok s ∧ s.pool.length = 1 ∧
      (s.step ⟨true, true⟩ teaByTill.outermost 2).result = .ok t ∧
      s.Commits t best c inputs placed ∧ t.pool = [] := by
  have hd : teaByTill.Distinct := by decide
  have hr : teaByTill.estimated.result = .ok teaByTill.schema := by decide
  have hn : teaByTill.parts.products = 2 := by decide
  obtain ⟨t, -, hrun, -⟩ := (resolved_iff.2 ⟨_, hr⟩).exists_whole hd ⟨true, true⟩
  rw [hn, search, ← Search.result_steps] at hrun
  have htwo : (Search.start ⟨true, true⟩ teaByTill.parts.scans teaByTill.parts.predicates >>=
      fun start => start.steps ⟨true, true⟩ teaByTill.outermost 2).result = .ok t := by
    rw [Logged.result_bind, Search.result_start, scans_parts, predicates_parts]
    exact hrun
  obtain ⟨hnone, hsteps⟩ := optimise_bookkeeping ⟨true, true⟩ teaByTill
  rw [Search.result_steps_succ, bind_eq_ok_iff] at hrun
  obtain ⟨s, hone, hstep⟩ := hrun
  have hone : (Search.start ⟨true, true⟩ teaByTill.parts.scans teaByTill.parts.predicates >>=
      fun start => start.steps ⟨true, true⟩ teaByTill.outermost 1).result = .ok s := by
    rw [Logged.result_bind, Search.result_start, scans_parts, predicates_parts]
    exact hone
  obtain ⟨hpool, -, hnext⟩ := hsteps _ 1 s (by omega) hone
  obtain ⟨-, hlast, -⟩ := hsteps _ 2 t (by omega) htwo
  obtain ⟨-, -, hcommits⟩ := hnext (by omega)
  obtain ⟨best, c, inputs, placed, -, hcommits⟩ := hcommits t hstep
  rw [hn] at hpool
  exact ⟨hnone, s, t, best, c, inputs, placed, hone, hpool, hstep, hcommits,
    hlast hn.symm (by omega)⟩

end Plan

end RelPlan
