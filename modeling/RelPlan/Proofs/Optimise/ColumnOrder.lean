import RelPlan.Proofs.Optimise.Preservation
import RelPlan.Proofs.Optimise.Shape

/-!
# The order of the columns

A projection keeps the order of its input, so over distinct names a plan puts out its columns in
the order in which it reads the base relations (`Plan.Distinct.filter_baseNames`). The search puts
base relations together in the order of cost. The columns of a plan are therefore kept, but they
come in another order as soon as two base relations that both have a column in the output are read
in another order (`Plan.optimise_columns`). With one product at most there is no choice, and the
order is kept.
-/

namespace RelPlan

/-! ### Lists put together from blocks -/

/-- Where a list is put together from blocks without a common element, it tells the order of the
blocks. -/
theorem flatMap_eq_iff_of_disjoint {α β : Type} {f : α → List β} {xs ys : List α}
    (hp : xs.Perm ys) (hd : xs.Pairwise fun x y => (f x).Disjoint (f y))
    (hne : ∀ x ∈ xs, f x ≠ []) : xs.flatMap f = ys.flatMap f ↔ xs = ys := by
  refine ⟨fun h => ?_, congrArg (List.flatMap f)⟩
  induction xs generalizing ys with
  | nil => exact hp.nil_eq
  | cons x xs ih =>
    cases ys with
    | nil => exact absurd hp.eq_nil (List.cons_ne_nil x xs)
    | cons y ys =>
      have hy : y ∈ x :: xs := hp.mem_iff.2 List.mem_cons_self
      obtain ⟨n, ns, hx⟩ := List.exists_cons_of_ne_nil (hne x List.mem_cons_self)
      obtain ⟨m, ms, hym⟩ := List.exists_cons_of_ne_nil (hne y hy)
      -- The first blocks begin alike, and no two blocks do.
      obtain rfl : n = m := by
        rw [List.flatMap_cons, List.flatMap_cons, hx, hym] at h
        exact (List.cons.inj h).1
      have hn : n ∈ f x ∧ n ∈ f y := by simp [hx, hym]
      obtain ⟨hdx, hdxs⟩ := List.pairwise_cons.1 hd
      obtain rfl : y = x :=
        (List.mem_cons.1 hy).resolve_right fun hy => hdx y hy hn.1 hn.2
      rw [List.flatMap_cons, List.flatMap_cons, List.append_cancel_left_eq] at h
      rw [ih hp.cons_inv hdxs (fun x hx => hne x (List.mem_cons_of_mem _ hx)) h]

/-! ### What base relations contribute -/

namespace BaseRelation

/-- The attribute names of the relation that are among `ns`, in order. -/
def shown (ns : List String) (r : BaseRelation) : List String :=
  r.relation.names.filter (· ∈ ns)

/-- An attribute name of the relation is among `ns`. -/
def Contributes (ns : List String) (r : BaseRelation) : Prop := ∃ n ∈ r.relation.names, n ∈ ns

instance (ns : List String) (r : BaseRelation) : Decidable (r.Contributes ns) :=
  inferInstanceAs (Decidable (∃ n ∈ r.relation.names, n ∈ ns))

theorem shown_ne_nil_iff {ns : List String} {r : BaseRelation} :
    r.shown ns ≠ [] ↔ r.Contributes ns := by
  simp [shown, Contributes, List.filter_eq_nil_iff]

/-- The names that are shown come from the relations that contribute. -/
theorem flatMap_shown_filter (ns : List String) (rs : List BaseRelation) :
    (rs.filter fun r => r.Contributes ns).flatMap (shown ns) = rs.flatMap (shown ns) := by
  induction rs with
  | nil => rfl
  | cons r rs ih =>
    rw [List.filter_cons, List.flatMap_cons]
    by_cases hr : r.Contributes ns
    · simp [hr, ih]
    · have hnil : r.shown ns = [] := not_not.1 fun h => hr (shown_ne_nil_iff.1 h)
      simp [hr, ih, hnil]

/-- Two orders of relations without a common name show the names in the same order exactly when
the relations that contribute come in the same order. -/
theorem flatMap_shown_eq_iff {ns : List String} {rs ss : List BaseRelation} (hp : rs.Perm ss)
    (hd : rs.Pairwise Apart) : rs.flatMap (shown ns) = ss.flatMap (shown ns) ↔
      (rs.filter fun r => r.Contributes ns) = ss.filter fun r => r.Contributes ns := by
  rw [← flatMap_shown_filter ns rs, ← flatMap_shown_filter ns ss]
  refine flatMap_eq_iff_of_disjoint (hp.filter _) ?_ fun r hr => ?_
  · refine (hd.filter _).imp fun {r s} h n hr hs => ?_
    exact h n (List.mem_filter.1 hr).1 (List.mem_filter.1 hs).1
  · exact shown_ne_nil_iff.2 (of_decide_eq_true (List.mem_filter.1 hr).2)

end BaseRelation

/-! ### Columns of a plan -/

namespace Plan

variable {p q : Plan} {options : Options}

/-- Over two inputs without a common name, the names of each are picked out alike by what it shows
and by what both show. -/
theorem filter_baseNames_append {l r : Plan} (hd : l.baseNames.Disjoint r.baseNames) :
    (l.baseNames ++ r.baseNames).filter (· ∈ l.visible ++ r.visible) =
      l.baseNames.filter (· ∈ l.visible) ++ r.baseNames.filter (· ∈ r.visible) := by
  rw [List.filter_append]
  refine congrArg₂ _ (List.filter_congr fun n hn => ?_) (List.filter_congr fun n hn => ?_)
  · have hr : n ∉ r.visible := fun hr => hd hn (mem_baseNames_of_mem_visible hr)
    simp [hr]
  · have hl : n ∉ l.visible := fun hl => hd (mem_baseNames_of_mem_visible hl) hn
    simp [hl]

/-- Over distinct names the columns come in the order in which the base relations are read. -/
theorem Distinct.filter_baseNames (hd : p.Distinct) :
    p.baseNames.filter (· ∈ p.visible) = p.visible := by
  induction p with
  | scan r o =>
    rw [baseNames_scan]
    exact List.filter_eq_self.2 fun n hn => decide_eq_true hn
  | select q i o ih => exact ih hd
  | project as i o ih =>
    rw [visible, ← ih hd, baseNames_project, List.filter_filter]
    refine List.filter_congr fun n hn => ?_
    simp [hn]
  | product l r o ihl ihr =>
    obtain ⟨hdl, hdr, hdj⟩ := hd.of_product
    rw [baseNames_product, visible, filter_baseNames_append hdj, ihl hdl, ihr hdr]
  | join q l r o ihl ihr =>
    obtain ⟨hdl, hdr, hdj⟩ := Distinct.of_product (o := o) hd
    -- The right input repeats no name of the left one, so the join drops none.
    have hkeep : (r.visible.filter fun n => n ∉ l.visible) = r.visible := by
      refine List.filter_eq_self.2 fun n hn => decide_eq_true fun hl => ?_
      exact hdj (mem_baseNames_of_mem_visible hl) (mem_baseNames_of_mem_visible hn)
    rw [baseNames_join, visible, hkeep, filter_baseNames_append hdj, ihl hdl, ihr hdr]

/-- What base relations contribute to the columns, one after another. -/
theorem Distinct.flatMap_shown (hd : p.Distinct) :
    p.scans.flatMap (BaseRelation.shown p.visible) = p.visible := by
  conv_rhs => rw [← hd.filter_baseNames, baseNames, List.filter_flatMap]
  rfl

/-- Columns that two plans over the same distinct names both show are the same up to order. -/
theorem Rearranges.flatMap_shown {w : Plan} (h : w.Rearranges p) (hd : p.Distinct) :
    w.scans.flatMap (BaseRelation.shown p.visible) = w.visible := by
  have hdw : w.Distinct := BaseRelation.pairwise_apart_of_perm h.scans.symm hd
  have hshown : BaseRelation.shown w.visible = BaseRelation.shown p.visible := by
    funext r
    exact List.filter_congr fun n _ => decide_eq_decide.2 (h.visible n)
  rw [← hshown, hdw.flatMap_shown]

end Plan

/-! ### One product -/

/-- Of two plans at hand the first is combined with the second. -/
theorem Search.plans_eq_of_mem_choices {s : Search} {c : Choice} (hl : s.plans.length = 2)
    (hc : c ∈ s.choices) : s.plans = [c.left, c.right] := by
  obtain ⟨combined, pool, pending⟩ := s
  rcases mem_choices_iff.1 hc with ⟨hs, i, j, hij, hi, hj, -⟩ | ⟨hs, j, hj, -⟩
  · obtain rfl : combined = none := hs
    obtain ⟨x, y, hxy⟩ := List.length_eq_two.1 hl
    obtain rfl : pool = [x, y] := hxy
    obtain ⟨hj', hj⟩ := List.getElem?_eq_some_iff.1 hj
    obtain ⟨rfl, rfl⟩ : i = 0 ∧ j = 1 := by
      rw [List.length_cons, List.length_singleton] at hj'
      omega
    rw [← hj, ← (List.getElem?_eq_some_iff.1 hi).2]
    rfl
  · obtain rfl : combined = some c.left := hs
    obtain ⟨x, y, hxy⟩ := List.length_eq_two.1 hl
    obtain ⟨rfl, rfl⟩ : c.left = x ∧ pool = [y] := List.cons.inj hxy
    obtain ⟨hj', hj⟩ := List.getElem?_eq_some_iff.1 hj
    obtain rfl : j = 0 := by
      rw [List.length_singleton] at hj'
      omega
    rw [← hj]
    rfl

/-- A sound search that has two plans at hand at most comes to a plan that reads the base relations
in the order in which they are at hand. -/
theorem Search.Sound.scans_run {projections : List (List Attribute)} {options : Options}
    {s t : Search} {n : Nat} (h : s.Sound projections) (hn : s.plans.length = n + 1) (hle : n ≤ 1)
    (hrun : run options projections n s = .ok t) : t.scans = s.scans := by
  cases n with
  | zero =>
    cases hrun
    rfl
  | succ n =>
    obtain rfl : n = 0 := by omega
    obtain ⟨c, hc, -, -, hnext⟩ := h.exists_run_succ options hn
    obtain rfl : s.after (s.situation options projections) c = t :=
      Except.ok.inj (hnext.symm.trans hrun)
    have hplans := plans_eq_of_mem_choices hn hc
    have hnone : eraseAll c.used s.pool = [] := by
      have hlen := (plans_perm_of_mem_choices hc).length_eq
      rw [hn, List.length_cons, List.length_cons] at hlen
      exact List.length_eq_zero_iff.1 (by omega)
    simp [Search.scans, hplans, hnone]

namespace Plan

variable {p q : Plan} {options : Options}

/-- With one product at most the base relations are read in the same order. -/
theorem Distinct.scans_optimise (hd : p.Distinct) (h : (p.optimise options).result = .ok q)
    (hp : p.parts.products ≤ 1) : q.scans = p.scans := by
  obtain ⟨hr, t, x, hrun, -, hx, -, ⟨-, rfl⟩ | ⟨-, rfl⟩⟩ := hd.optimise_cases h
  · exact p.scans_clearOutputs
  · have hscans : t.scans = (p.search options).scans :=
      (hr.sound_search hd options).scans_run (length_plans_search options p) hp hrun
    have hone : t.scans = x.scans := by simp [Search.scans, hx]
    rw [Search.whole, scans_foldl_narrowed, scans_foldl_filtered, ← hone, hscans, search,
      Search.scans_initial]

/-- **Columns**: a plan over distinct names that can be estimated is optimised to a plan with the
same columns. Both plans list their columns in the order in which they read the base relations, so
the columns come in the same order exactly when the base relations that contribute to them do. This
is the case if there is one product at most. -/
theorem optimise_columns (options : Options) (hd : p.Distinct) {r : Relation}
    (hr : p.estimated.result = .ok r) :
    ∃ q s, (p.optimise options).result = .ok q ∧ q.estimated.result = .ok s ∧
      s.names.Perm r.names ∧
      r.names = p.scans.flatMap (BaseRelation.shown r.names) ∧
      s.names = q.scans.flatMap (BaseRelation.shown r.names) ∧
      (s.names = r.names ↔ (q.scans.filter fun b => b.Contributes r.names) =
        p.scans.filter fun b => b.Contributes r.names) ∧
      (p.parts.products ≤ 1 → s.names = r.names) := by
  have hp : p.Resolved := resolved_iff.2 ⟨r, hr⟩
  obtain ⟨q, hq⟩ := hp.exists_optimise hd options
  have hw := hd.rearranges_optimise hq
  have hshown : r.names = p.visible := names_of_outcome hr
  have hp' := hd.flatMap_shown
  have hq' := hw.flatMap_shown hd
  have hdq : q.scans.Pairwise BaseRelation.Apart :=
    BaseRelation.pairwise_apart_of_perm hw.scans.symm hd
  refine ⟨q, q.schema, hq, hw.resolved.outcome, ?_⟩
  rw [hshown, hw.resolved.names_schema, ← BaseRelation.flatMap_shown_eq_iff hw.scans hdq, hp', hq']
  refine ⟨?_, rfl, rfl, Iff.rfl, fun hone => ?_⟩
  · rw [← hp', ← hq']
    exact hw.scans.flatMap_right _
  · rw [← hq', hd.scans_optimise hq hone, hp']

/-- The tills come first in the plan, and the shelves where it is rearranged. -/
theorem teaByTill_columns :
    teaByTill.Distinct ∧ teaByTill.estimated.result = .ok teaByTill.schema ∧
      teaByTill.schema.names = ["till", "shelf"] ∧
      ∃ q s, (teaByTill.optimise ⟨true, true⟩).result = .ok q ∧ q.estimated.result = .ok s ∧
        s.names.Perm ["till", "shelf"] ∧
        s.names = q.scans.flatMap (BaseRelation.shown ["till", "shelf"]) ∧
        (s.names = ["till", "shelf"] ↔
          (q.scans.filter fun b => b.Contributes ["till", "shelf"]) = [tills, wares]) := by
  have hd : teaByTill.Distinct := by decide
  have hr : teaByTill.estimated.result = .ok teaByTill.schema := by decide
  have hnames : teaByTill.schema.names = ["till", "shelf"] := by decide
  have hscans : (teaByTill.scans.filter fun b => b.Contributes ["till", "shelf"]) =
      [tills, wares] := by decide
  obtain ⟨q, s, hq, hs, hperm, -, hshown, hiff, -⟩ := optimise_columns ⟨true, true⟩ hd hr
  rw [hnames] at hperm hshown hiff
  rw [hscans] at hiff
  exact ⟨hd, hr, hnames, q, s, hq, hs, hperm, hshown, hiff⟩

/-- **Order**: the columns of a plan with a projection need not come in the same order once it is
optimised. -/
theorem columns_reordered : ¬ ∀ (p q : Plan) (options : Options) (r s : Relation),
    p.Distinct → p.projections ≠ [] → p.estimated.result = .ok r →
      (p.optimise options).result = .ok q → q.estimated.result = .ok s → s.names = r.names := by
  intro h
  have hd : teaByTill.Distinct := by decide
  have hp : teaByTill.projections ≠ [] := by decide
  have hr : teaByTill.estimated.result = .ok teaByTill.schema := by decide
  have hq : (teaByTill.optimise ⟨true, true⟩).result = .ok teaRearranged := by decide
  have hs : teaRearranged.estimated.result = .ok teaRearranged.schema := by decide
  have hne : teaRearranged.schema.names ≠ teaByTill.schema.names := by decide
  exact hne (h _ _ _ _ _ hd hp hr hq hs)

end Plan

end RelPlan
