import RelPlan.Proofs.Optimise.Preservation
import RelPlan.Proofs.Optimise.Replay

/-!
# Optimising again

If selections are pushed, what a plan is optimised to is left alone when it is optimised again
(`Plan.optimise_optimise`): taken apart, it starts a search that comes to the same plan, with the
same projections on top, and the plan does not cost more than itself.
-/

namespace RelPlan.Plan

variable {p q : Plan} {options : Options}

/-- Estimates have no influence on what a plan is optimised to. -/
theorem result_optimise_clearOutputs (options : Options) (p : Plan) :
    (p.clearOutputs.optimise options).result = (p.optimise options).result := by
  simp only [optimise, clearOutputs_clearOutputs, parts_clearOutputs]

/-- The projections on top of a rearranged plan are put back on it again. -/
theorem outermost_whole {x : Plan} {t : Search} (ht : t.Sound p.outermost)
    (hx : t.plans = [x]) : (t.whole p.outermost x).outermost = p.outermost := by
  have hproj := projections_whole ht hx
  by_cases hp : p.outermost = []
  · rw [hp] at ht ⊢
    refine outermost_eq_nil_iff.2 ?_
    rw [Search.whole, List.foldl_nil, unnarrowed_foldl_filtered]
    exact ht.unnarrowed rfl x (hx ▸ List.mem_singleton_self x)
  · rw [← hproj] at hp
    exact (outermost_of_ne_nil hp).trans hproj

/-- The search over the parts of a rearranged plan comes to its end. -/
theorem Distinct.run_search_whole (hd : p.Distinct) (hp : p.Resolved)
    (hpush : options.pushSelections = true) {t : Search} {x : Plan}
    (hrun : Search.run options p.outermost p.parts.products (p.search options) = .ok t)
    (hx : t.plans = [x]) :
    Search.run options p.outermost p.parts.products (.initial options x.scans x.predicates) =
      .ok t := by
  have hsound := hp.sound_search hd options
  have hsettled := Search.Settled.initial hpush p.scans p.predicates
  obtain ⟨u, hm, hapart, hurun⟩ :=
    hsound.exists_replay hsettled (length_plans_search options p) hrun hx
  have hleaf : ∀ y ∈ u.plans, ∃ r qs, y = List.foldl filtered (.read r) qs := fun y hy =>
    Search.forall_mem_initial (P := fun y => ∃ r qs, y = List.foldl filtered (.read r) qs)
      (fun r _ qs _ => ⟨r, qs, rfl⟩) y (hm.plans.mem_iff.1 hy)
  have hu := hapart.eq_initial hpush (hm.combined.trans Search.combined_initial) hleaf
  rwa [← hu]

/-- **Stability**: if selections are pushed, what a plan over distinct names is optimised to is
optimised to itself. -/
theorem optimise_optimise (hpush : options.pushSelections = true) (hd : p.Distinct)
    (h : (p.optimise options).result = .ok q) : (q.optimise options).result = .ok q := by
  obtain ⟨hp, t, x, hrun, ht, hx, hw, ⟨-, rfl⟩ | ⟨-, rfl⟩⟩ := hd.optimise_cases h
  · rw [result_optimise_clearOutputs]
    exact h
  · have hpending : t.pending = [] :=
      ((Search.Settled.initial hpush p.scans p.predicates).of_run (hp.sound_search hd options)
        (length_plans_search options p) hrun).pending_eq_nil ht hx
    have hagain := hd.run_search_whole hp hpush hrun hx
    have hout := outermost_whole ht hx
    have hscans : (t.whole p.outermost x).scans = x.scans := by
      rw [Search.whole, scans_foldl_narrowed, scans_foldl_filtered]
    have hpreds : (t.whole p.outermost x).predicates = x.predicates := by
      rw [Search.whole, predicates_foldl_narrowed, hpending, List.foldl_nil]
    have hproducts : (t.whole p.outermost x).parts.products = p.parts.products := by
      rw [products_parts, products_parts, hw.scans.length_eq]
    have hres : ((t.whole p.outermost x).parts.rearrange options
        (t.whole p.outermost x).outermost).result =
          .ok (t.whole p.outermost x, (t.whole p.outermost x).schema.tuples) := by
      rw [hout]
      refine Parts.result_rearrange ?_ hx hw.resolved
      rw [hproducts, scans_parts, predicates_parts, hscans, hpreds]
      exact hagain
    rw [hw.resolved.result_optimise hres]
    exact congrArg Except.ok (if_neg (Nat.lt_irrefl _))

theorem shelvesJoined_stable :
    (Options.mk true true).pushSelections = true ∧ shelves.Distinct ∧
      (shelves.optimise ⟨true, true⟩).result = .ok shelvesJoined ∧
      (shelvesJoined.optimise ⟨true, true⟩).result = .ok shelvesJoined := by
  have hd : shelves.Distinct := by decide
  have h : (shelves.optimise ⟨true, true⟩).result = .ok shelvesJoined := by decide
  exact ⟨rfl, hd, h, optimise_optimise rfl hd h⟩

end RelPlan.Plan
