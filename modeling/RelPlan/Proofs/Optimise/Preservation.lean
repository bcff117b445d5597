import RelPlan.Proofs.Optimise.Assembly
import RelPlan.Proofs.Plan.RowsForm

/-!
# What optimising preserves

For a plan in which no two base relations share an attribute name, and for all options:

* the rows are the same bag over every database (`Plan.rows_optimise_perm`);
* optimising fails exactly when estimating fails, with the same error, and else the result can be
  estimated and has the same attribute names (`Plan.optimise_estimable`);
* base relations, products, predicates and projections are the same (`Plan.parts_optimise`).
-/

namespace RelPlan.Plan

variable {p q : Plan} {options : Options}

/-! ### Rows -/

/-- **Meaning**: what a plan is optimised to puts out the same bag of rows. -/
theorem rows_optimise_perm {V : Type} [DecidableEq V] (db : Database V) (hd : p.Distinct)
    (h : (p.optimise options).result = .ok q) : (q.rows db).Perm (p.rows db) := by
  have hq := hd.rearranges_optimise h
  have hp := (hd.optimise_cases h).1
  have hdq : q.Distinct := BaseRelation.pairwise_apart_of_perm hq.scans.symm hd
  exact hq.resolved.rows_perm hp hdq hq.scans hq.predicates hq.visible

/-- The items of a store and the shelf each lies on. -/
def stock : BaseRelation := ⟨"stock", ⟨.clamp 6, [⟨"item", .clamp 3⟩, ⟨"shelf", .clamp 2⟩]⟩⟩

/-- Who ordered what. -/
def orders : BaseRelation := ⟨"orders", ⟨.clamp 8, [⟨"buyer", .clamp 4⟩, ⟨"goods", .clamp 3⟩]⟩⟩

/-- The shelves from which Ann's orders are fetched. -/
def shelves : Plan :=
  (((read stock).times (read orders)).filtered
    (.equality ⟨"goods", .clamp 3⟩ ⟨"item", .clamp 3⟩) |>.filtered
    (.literal ⟨"buyer", .clamp 4⟩ "Ann")).narrowed [⟨"shelf", .clamp 2⟩]

/-- The orders are selected first, and joined on the goods alone. -/
def shelvesJoined : Plan :=
  ((read stock).joined
    (((read orders).filtered (.literal ⟨"buyer", .clamp 4⟩ "Ann")).narrowed
      [⟨"goods", .clamp 3⟩])
    (.equality ⟨"item", .clamp 3⟩ ⟨"goods", .clamp 3⟩)).narrowed [⟨"shelf", .clamp 2⟩]

/-- Every relation has a row of zeros and a row of ones, and every literal stands for one. -/
def zeroOne : Database Nat where
  literal _ := 1
  rows r := [0, 1].map fun v n => if r.relation.Has n then some v else none
  isSome_iff r row h n := by
    obtain ⟨v, -, rfl⟩ := List.mem_map.1 h
    by_cases hn : r.relation.Has n <;> simp [hn]

theorem rows_shelves_perm :
    shelves.Distinct ∧ (shelves.optimise ⟨true, true⟩).result = .ok shelvesJoined ∧
      (shelvesJoined.rows zeroOne).Perm (shelves.rows zeroOne) := by
  have hd : shelves.Distinct := by decide
  have h : (shelves.optimise ⟨true, true⟩).result = .ok shelvesJoined := by decide
  exact ⟨hd, h, rows_optimise_perm zeroOne hd h⟩

/-! ### Failure and names -/

/-- No projection of the plan drops a name that its input shows and an operator above it in the
tree uses. The names in `above` are used further up. -/
def KeepsUsed (above : List String) : Plan → Prop
  | scan _ _ => True
  | select p i _ => i.KeepsUsed (p.names ++ above)
  | project as i _ => (∀ n ∈ i.visible, n ∈ above → n ∈ namesOf as) ∧
      i.KeepsUsed (namesOf as ++ above)
  | product l r _ => l.KeepsUsed above ∧ r.KeepsUsed above
  | join p l r _ => l.KeepsUsed (p.names ++ above) ∧ r.KeepsUsed (p.names ++ above)

/-- Of two inputs without a common name, one that has a name shows it if they do together. -/
theorem mem_visible_left {l r : Plan} (hd : l.baseNames.Disjoint r.baseNames) {n : String}
    (hb : n ∈ l.baseNames) (h : n ∈ l.visible ∨ n ∈ r.visible) : n ∈ l.visible :=
  h.resolve_right fun hr => hd hb (mem_baseNames_of_mem_visible hr)

theorem mem_visible_right {l r : Plan} (hd : l.baseNames.Disjoint r.baseNames) {n : String}
    (hb : n ∈ r.baseNames) (h : n ∈ l.visible ∨ n ∈ r.visible) : n ∈ r.visible :=
  h.resolve_left fun hl => hd (mem_baseNames_of_mem_visible hl) hb

/-- A resolved plan drops no name that is used further up: on the way to the operator that uses
it, every node shows it. -/
theorem Resolved.keepsUsed (h : p.Resolved) (hd : p.Distinct) {above : List String}
    (ha : ∀ n ∈ above, n ∈ p.baseNames → n ∈ p.visible) : p.KeepsUsed above := by
  induction p generalizing above with
  | scan r o => trivial
  | select q i o ih =>
    refine ih h.1 hd fun n hn hb => ?_
    exact (List.mem_append.1 hn).elim (h.2 n) fun hn => ha n hn hb
  | project as i o ih =>
    refine ⟨fun n hv hn => ?_, ih h.1 hd fun n hn hb => ?_⟩
    · exact (mem_visible_project.1 (ha n hn (mem_baseNames_of_mem_visible (p := i) hv))).2
    · exact (List.mem_append.1 hn).elim (h.2 n) fun hn => (mem_visible_project.1 (ha n hn hb)).1
  | product l r o ihl ihr =>
    obtain ⟨hdl, hdr, hdj⟩ := hd.of_product
    rw [baseNames_product] at ha
    refine ⟨ihl h.1 hdl fun n hn hb => ?_, ihr h.2 hdr fun n hn hb => ?_⟩
    · exact mem_visible_left hdj hb (mem_visible_product.1 (ha n hn (List.mem_append_left _ hb)))
    · exact mem_visible_right hdj hb (mem_visible_product.1 (ha n hn (List.mem_append_right _ hb)))
  | join q l r o ihl ihr =>
    obtain ⟨hdl, hdr, hdj⟩ := Distinct.of_product (o := o) hd
    obtain ⟨a, b, rfl, hna, hnb⟩ := h.2.2
    rw [baseNames_join] at ha
    -- The names of the predicate and the names used above are visible in one of the inputs.
    have hv : ∀ n ∈ (Predicate.equality a b).names ++ above, n ∈ l.baseNames ++ r.baseNames →
        n ∈ l.visible ∨ n ∈ r.visible := by
      intro n hn hb
      rcases List.mem_append.1 hn with hn | hn
      · simp only [Predicate.names, Predicate.attributes, namesOf_cons, namesOf_nil,
          List.mem_cons, List.not_mem_nil, or_false] at hn
        rcases hn with rfl | rfl
        · exact Or.inl hna
        · exact Or.inr hnb
      · exact mem_visible_join.1 (ha n hn hb)
    refine ⟨ihl h.1 hdl fun n hn hb => ?_, ihr h.2.1 hdr fun n hn hb => ?_⟩
    · exact mem_visible_left hdj hb (hv n hn (List.mem_append_left _ hb))
    · exact mem_visible_right hdj hb (hv n hn (List.mem_append_right _ hb))

/-- Nothing is used above a whole plan. -/
theorem Resolved.keepsUsed_nil (h : p.Resolved) (hd : p.Distinct) : p.KeepsUsed [] :=
  h.keepsUsed hd nofun

/-- **Failure**: a plan that cannot be estimated is not optimised, for the same reason; one that
can be is optimised to a plan that can be estimated and shows the same names. Neither this plan
nor the rearrangement it was chosen over has a projection that drops a name used above it. -/
theorem optimise_estimable (hd : p.Distinct) :
    (∀ e, p.estimated.result = .error e → (p.optimise options).result = .error e) ∧
    ∀ r, p.estimated.result = .ok r →
      (∃ q s, (p.optimise options).result = .ok q ∧ q.estimated.result = .ok s ∧
        (∀ n, s.Has n ↔ r.Has n) ∧ q.KeepsUsed []) ∧
      ∃ w cost, (p.parts.rearrange options (p.parts.outerProjections r)).result = .ok (w, cost) ∧
        w.KeepsUsed [] := by
  have hkeeps : ∀ {w : Plan}, w.Rearranges p → w.KeepsUsed [] := fun hw =>
    hw.resolved.keepsUsed_nil (BaseRelation.pairwise_apart_of_perm hw.scans.symm hd)
  refine ⟨fun e he => optimise_error he, fun r hr => ⟨?_, ?_⟩⟩
  · have hp : p.Resolved := resolved_iff.2 ⟨r, hr⟩
    obtain ⟨q, hq⟩ := hp.exists_optimise hd options
    have hw := hd.rearranges_optimise hq
    refine ⟨q, q.schema, hq, hw.resolved.outcome, fun n => ?_, hkeeps hw⟩
    rw [Relation.Has, hw.resolved.names_schema, hw.visible, Relation.Has, names_of_outcome hr]
  · have hp : p.Resolved := resolved_iff.2 ⟨r, hr⟩
    obtain ⟨t, x, -, -, -, hw, hres⟩ := hp.exists_whole hd options
    refine ⟨t.whole p.outermost x, (t.whole p.outermost x).schema.tuples, ?_, hkeeps hw⟩
    rw [← schema_of_outcome hr]
    exact hres

theorem shelves_estimable :
    shelves.Distinct ∧
    (∀ e, shelves.estimated.result = .error e →
      (shelves.optimise ⟨true, true⟩).result = .error e) ∧
    ∀ r, shelves.estimated.result = .ok r →
      (∃ q s, (shelves.optimise ⟨true, true⟩).result = .ok q ∧ q.estimated.result = .ok s ∧
        (∀ n, s.Has n ↔ r.Has n) ∧ q.KeepsUsed []) ∧
      ∃ w cost, (shelves.parts.rearrange ⟨true, true⟩
          (shelves.parts.outerProjections r)).result = .ok (w, cost) ∧ w.KeepsUsed [] := by
  have hd : shelves.Distinct := by decide
  exact ⟨hd, optimise_estimable hd⟩

/-! ### Parts -/

/-- **Parts**: optimising keeps the number of products, the base relations with their statistics,
and the predicates up to the order of sides, each as often as it occurs. It keeps the projections
as well; if there are none but inner ones, and the plan is not returned as given, the estimated
output takes their place. -/
theorem parts_optimise (hd : p.Distinct) (h : (p.optimise options).result = .ok q) :
    q.parts.products = p.parts.products ∧ q.parts.scans.Perm p.parts.scans ∧
    (q.parts.predicates.map Predicate.unsided).Perm
      (p.parts.predicates.map Predicate.unsided) ∧
    ∃ r, p.estimated.result = .ok r ∧ q.parts.projections =
      if p.parts.projections = [] ∧ 0 < p.parts.innerProjections ∧ q ≠ p.clearOutputs then
        [r.attributes]
      else p.parts.projections := by
  have hq := hd.rearranges_optimise h
  obtain ⟨hp, t, x, -, ht, hx, -, hcase⟩ := hd.optimise_cases h
  rw [products_parts, products_parts, hq.scans.length_eq, scans_parts, scans_parts,
    predicates_parts, predicates_parts, projections_parts, projections_parts]
  refine ⟨rfl, hq.scans, hq.predicates, p.schema, hp.outcome, ?_⟩
  obtain ⟨-, rfl⟩ | ⟨-, rfl⟩ := hcase
  · rw [if_neg fun hn => hn.2.2 rfl, ← projections_parts, parts_clearOutputs, projections_parts]
  · have hproj := (projections_whole ht hx).trans p.outermost_eq
    generalize t.whole p.outermost x = w at hproj ⊢
    split at hproj
    · next hin =>
      -- The plan as given has no projection at the top, so it is another plan.
      have hne : w ≠ p.clearOutputs := by
        intro he
        rw [he, ← projections_parts, parts_clearOutputs, projections_parts, hin.1] at hproj
        exact List.cons_ne_nil _ _ hproj.symm
      rw [if_pos ⟨hin.1, hin.2, hne⟩, hproj]
    · next hin => rw [if_neg fun hn => hin ⟨hn.1, hn.2.1⟩, hproj]

theorem parts_shelves :
    shelves.Distinct ∧ (shelves.optimise ⟨true, true⟩).result = .ok shelvesJoined ∧
    shelvesJoined.parts.products = shelves.parts.products ∧
    shelvesJoined.parts.scans.Perm shelves.parts.scans ∧
    (shelvesJoined.parts.predicates.map Predicate.unsided).Perm
      (shelves.parts.predicates.map Predicate.unsided) ∧
    ∃ r, shelves.estimated.result = .ok r ∧ shelvesJoined.parts.projections =
      if shelves.parts.projections = [] ∧ 0 < shelves.parts.innerProjections ∧
          shelvesJoined ≠ shelves.clearOutputs then
        [r.attributes]
      else shelves.parts.projections := by
  have hd : shelves.Distinct := by decide
  have h : (shelves.optimise ⟨true, true⟩).result = .ok shelvesJoined := by decide
  exact ⟨hd, h, parts_optimise hd h⟩

end RelPlan.Plan
