import RelPlan.Proofs.Optimise.Sides
import RelPlan.Proofs.Plan.Places
import RelPlan.Proofs.Plan.RowsForm

/-!
# Joins are selections on products

`Plan.unjoined` puts a selection on a product in the place of every join. If no two base relations
share an attribute name, that changes no estimate: neither that of the whole plan nor that of any
node in it (`Plan.estimate_unjoined`). The formula of a join looks its keys up on either side and
drops attributes that it has seen, the formula of a selection looks both keys up among all
attributes; over names that are apart these come to the same (`Estimate.select_product`).
-/

namespace RelPlan

/-! ### The formulas -/

theorem Estimate.select_product {p : Predicate} {l r s : Relation}
    (hd : l.names.Disjoint r.names) (h : join p l r = .ok s) : select p (product l r) = .ok s := by
  cases p with
  | literal a v => simp [join] at h
  | equality a b =>
    obtain ⟨x, hx, y, hy, rfl⟩ := join_equality_eq_ok_iff.1 h
    have hb : l.attribute? b.name = none := by
      rw [Option.eq_none_iff_forall_not_mem]
      intro z hz
      exact hd (Relation.has_iff_attribute?.2 ⟨z, hz⟩) (Relation.has_iff_attribute?.2 ⟨y, hy⟩)
    refine select_equality_eq_ok_iff.2 ⟨x, ?_, y, ?_, ?_⟩
    · rw [product, Relation.attribute?_append]
      exact (congrArg (Option.or · _) hx).trans rfl
    · rw [product, Relation.attribute?_append]
      exact (congrArg₂ Option.or hb hy).trans rfl
    · rw [Relation.filter_not_has hd]
      rfl

namespace Plan

variable {p i n : Plan} {s : Relation}

/-! ### Parts of a plan -/

theorem scans_sublist_of_mem_inputs (h : i ∈ p.inputs) : i.scans.Sublist p.scans := by
  cases p with
  | scan => cases h
  | select | project =>
    obtain rfl := List.mem_singleton.1 h
    exact List.Sublist.refl _
  | product | join =>
    obtain rfl | h := List.mem_cons.1 h
    · exact List.sublist_append_left _ _
    · obtain rfl := List.mem_singleton.1 h
      exact List.sublist_append_right _ _

/-- The base relations below a node are some of those of the plan. -/
theorem scans_sublist_of_at? {path : List Nat} (h : p.at? path = some n) :
    n.scans.Sublist p.scans := by
  induction path generalizing p with
  | nil =>
    cases h
    exact List.Sublist.refl _
  | cons k path ih =>
    obtain ⟨i, hi, h⟩ := Option.bind_eq_some_iff.1 h
    exact (ih h).trans (scans_sublist_of_mem_inputs (List.mem_of_getElem? hi))

theorem Distinct.of_at? (hd : p.Distinct) {path : List Nat} (h : p.at? path = some n) :
    n.Distinct :=
  List.Pairwise.sublist (scans_sublist_of_at? h) hd

/-! ### Spelling joins out -/

/-- The plan with a selection on a product in the place of every join. -/
def unjoined : Plan → Plan
  | scan r o => scan r o
  | select p i o => select p i.unjoined o
  | project as i o => project as i.unjoined o
  | product l r o => product l.unjoined r.unjoined o
  | join p l r _ => (l.unjoined.times r.unjoined).filtered p

/-- The place in `p.unjoined` of what stands for the node at a place in `p`: the way through a join
leads through a selection and a product. -/
def unjoinedPath : List Nat → Plan → List Nat
  | [], _ => []
  | k :: path, p =>
    let below := k :: ((p.inputs[k]?.map (unjoinedPath path)).getD path)
    if p.operator = .join then 0 :: below else below

theorem containsJoin_unjoined (p : Plan) : p.unjoined.containsJoin = false := by
  induction p <;> simp_all [unjoined, containsJoin]

/-- The part of a plan at a place is spelled out at the corresponding place. -/
theorem at?_unjoined {path : List Nat} (h : p.at? path = some n) :
    p.unjoined.at? (unjoinedPath path p) = some n.unjoined := by
  induction path generalizing p with
  | nil =>
    cases h
    rfl
  | cons k path ih =>
    obtain ⟨i, hi, h⟩ := Option.bind_eq_some_iff.1 h
    have hbelow : i.unjoined.at? (((p.inputs[k]?).map (unjoinedPath path)).getD path) =
        some n.unjoined := by
      rw [hi]
      exact ih h
    have hinputs : (p.inputs.map unjoined)[k]? = some i.unjoined := by
      rw [List.getElem?_map, hi]
      rfl
    cases p with
    | scan => cases hi
    | select | project | product => exact Option.bind_eq_some_iff.2 ⟨_, hinputs, hbelow⟩
    | join p l r o =>
      -- the first step leads to the product under the selection
      exact Option.bind_eq_some_iff.2 ⟨l.unjoined.times r.unjoined, rfl,
        Option.bind_eq_some_iff.2 ⟨_, hinputs, hbelow⟩⟩

/-- Spelling joins out changes no estimate. -/
theorem outcome_unjoined (hd : p.Distinct) (h : p.estimate.outcome = .ok s) :
    p.unjoined.estimate.outcome = .ok s := by
  induction p generalizing s with
  | scan r o => exact h
  | select p i o ih =>
    obtain ⟨t, hi, h⟩ := outcome_select_eq_ok_iff.1 h
    rw [unjoined, outcome_select, ih hd hi]
    exact h
  | project as i o ih =>
    obtain ⟨t, hi, h⟩ := outcome_project_eq_ok_iff.1 h
    rw [unjoined, outcome_project, ih hd hi]
    exact h
  | product l r o ihl ihr =>
    obtain ⟨hdl, hdr, -⟩ := hd.of_product
    obtain ⟨t, hl, u, hr, rfl⟩ := outcome_product_eq_ok_iff.1 h
    rw [unjoined, outcome_product, ihl hdl hl, ihr hdr hr]
    rfl
  | join p l r o ihl ihr =>
    obtain ⟨hdl, hdr, hdj⟩ := Distinct.of_product (o := o) hd
    obtain ⟨t, hl, u, hr, h⟩ := outcome_join_eq_ok_iff.1 h
    have hnames : t.names.Disjoint u.names := by
      intro n ht hu
      rw [names_of_outcome hl] at ht
      rw [names_of_outcome hr] at hu
      exact hdj (mem_baseNames_of_mem_visible ht) (mem_baseNames_of_mem_visible hu)
    rw [unjoined, outcome_select, outcome_product, ihl hdl hl, ihr hdr hr]
    exact Estimate.select_product hnames h

/-- **Joins**: over distinct names a plan without joins, in which a selection on a product stands in
the place of every join, can be estimated if the plan can be, and puts out the same. So does every
node of it that stands for one of the plan, a selection for a join. -/
theorem estimate_unjoined (hd : p.Distinct) (h : p.estimated.result = .ok s) :
    p.unjoined.containsJoin = false ∧ p.unjoined.estimated.result = .ok s ∧
    ∀ path n, p.at? path = some n →
      p.unjoined.at? (unjoinedPath path p) = some n.unjoined ∧
      ∃ t, (p.estimate.plan.at? path).bind output = some t ∧
        (p.unjoined.estimate.plan.at? (unjoinedPath path p)).bind output = some t := by
  have hs := outcome_unjoined hd h
  refine ⟨p.containsJoin_unjoined, hs, fun path n hn => ?_⟩
  have hn' := at?_unjoined hn
  obtain ⟨⟨t, ht⟩, hat⟩ := estimate_at? h hn
  refine ⟨hn', t, ?_, ?_⟩
  · rw [hat]
    exact output_estimate ht
  · rw [(estimate_at? hs hn').2]
    exact output_estimate (outcome_unjoined (hd.of_at? hn) ht)

/-- As many calls as can be counted; no caller has a value. -/
def calls : BaseRelation :=
  ⟨"calls", ⟨.clamp countLimit, [⟨"caller", 0⟩, ⟨"minutes", .clamp 60⟩]⟩⟩

/-- Who owns a number, and at which rate. -/
def owners : BaseRelation :=
  ⟨"owners", ⟨.clamp 12, [⟨"number", 0⟩, ⟨"owner", .clamp 7⟩, ⟨"rate", .clamp 3⟩]⟩⟩

/-- What a rate costs. -/
def rates : BaseRelation := ⟨"rates", ⟨.clamp 4, [⟨"kind", .clamp 4⟩, ⟨"price", .clamp 2⟩]⟩⟩

/-- The prices of calls, by two joins. -/
def callPrices : Plan :=
  (((read calls).joined (read owners) (.equality ⟨"caller", 1⟩ ⟨"number", 1⟩)).joined
    ((read rates).filtered (.literal ⟨"price", 1⟩ "9"))
    (.equality ⟨"rate", 1⟩ ⟨"kind", 1⟩)).narrowed [⟨"minutes", 1⟩, ⟨"price", 1⟩]

theorem callPrices_unjoined :
    callPrices.Distinct ∧ ∃ s, callPrices.estimated.result = .ok s ∧
      callPrices.unjoined.containsJoin = false ∧ callPrices.unjoined.estimated.result = .ok s ∧
      unjoinedPath [0, 0] callPrices = [0, 0, 0] ∧
      ∃ t, (callPrices.estimate.plan.at? [0, 0]).bind output = some t ∧
        (callPrices.unjoined.estimate.plan.at? [0, 0, 0]).bind output = some t := by
  have hd : callPrices.Distinct := by decide
  have hs : ∃ s, callPrices.estimated.result = .ok s := ⟨_, rfl⟩
  obtain ⟨s, hs⟩ := hs
  obtain ⟨hjoin, hsame, hplaces⟩ := estimate_unjoined hd hs
  exact ⟨hd, s, hs, hjoin, hsame, rfl, (hplaces [0, 0] _ rfl).2⟩

end Plan

end RelPlan
