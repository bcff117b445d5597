import Mathlib.Algebra.BigOperators.Ring.List
import Mathlib.Data.List.MinMax
import RelPlan.Proofs.Estimate.Selection
import RelPlan.Proofs.Plan.Places

/-!
# Bounds of estimates

No node is estimated at more tuples than there are ways to take one tuple from every base relation
below it (`Plan.crossSize`), and only a base relation without tuples makes an estimate vanish: a
product that leaves the range of counts is held at the largest one, and a quotient is rounded up.
Of the values of an attribute, none are gained on the way up and not all are lost. What a node puts
out under a name is backed by what a base relation below it records under that name
(`Attribute.BackedBy`), though not always by the same one: an equality brings all attributes with
its two names down to the lesser of two counts. All of it holds at every node of a plan that can be
estimated (`Plan.estimate_bounds`).
-/

namespace RelPlan

/-! ### Values that are backed -/

namespace Attribute

/-- The attribute has a value, and no more of them than one of the attributes in `base` has under
the same name. -/
def BackedBy (base : List Attribute) (a : Attribute) : Prop :=
  0 < a.values ∧ ∃ b ∈ base, b.name = a.name ∧ a.values ≤ b.values

variable {base base' : List Attribute} {a key : Attribute} {v : Count}

theorem backedBy_of_mem (ha : a ∈ base) (hpos : 0 < a.values) : a.BackedBy base :=
  ⟨hpos, a, ha, rfl, Nat.le_refl _⟩

theorem BackedBy.mono (h : a.BackedBy base) (hsub : base ⊆ base') : a.BackedBy base' := by
  obtain ⟨hpos, b, hb, hname, hle⟩ := h
  exact ⟨hpos, b, hsub hb, hname, hle⟩

/-- What backs one attribute backs every other of the same name that takes no more values. -/
theorem BackedBy.withValues (h : key.BackedBy base) (hname : key.name = a.name) (hpos : 0 < v)
    (hle : v ≤ key.values) : (a.withValues v).BackedBy base := by
  obtain ⟨-, b, hb, hbname, hble⟩ := h
  exact ⟨hpos, b, hb, hbname.trans hname, Nat.le_trans hle hble⟩

end Attribute

section SetValues

variable {base as : List Attribute}

/-- A count can be set under the names of backed attributes that take at least as many values. -/
theorem backedBy_setValues {ns : List String} {v : Count} (h : ∀ a ∈ as, a.BackedBy base)
    (hpos : 0 < v)
    (hkeys : ∀ n ∈ ns, ∃ key : Attribute, key.name = n ∧ key.BackedBy base ∧ v ≤ key.values) :
    ∀ a ∈ setValues ns v as, a.BackedBy base := by
  intro a ha
  obtain ⟨b, hb, rfl⟩ := List.mem_map.1 ha
  split_ifs with hn
  · obtain ⟨key, hname, hkey, hle⟩ := hkeys b.name hn
    exact hkey.withValues hname hpos hle
  · exact h b hb

/-- The lesser count of two backed attributes can be set under both their names. -/
theorem backedBy_setValues_min {x y : Attribute} {m n : String} (h : ∀ a ∈ as, a.BackedBy base)
    (hx : x.BackedBy base) (hxm : x.name = m) (hy : y.BackedBy base) (hyn : y.name = n) :
    ∀ a ∈ setValues [m, n] (min x.values y.values) as, a.BackedBy base := by
  have hpos : 0 < min x.values y.values := by
    rw [Count.lt_def, Count.toNat_min]
    exact Nat.lt_min.2 ⟨hx.1, hy.1⟩
  refine backedBy_setValues h hpos fun k hk => ?_
  rcases List.mem_pair.1 hk with rfl | rfl
  · refine ⟨x, hxm, hx, ?_⟩
    rw [Count.le_def, Count.toNat_min]
    exact Nat.min_le_left _ _
  · refine ⟨y, hyn, hy, ?_⟩
    rw [Count.le_def, Count.toNat_min]
    exact Nat.min_le_right _ _

end SetValues

theorem Estimate.backedBy_select {base : List Attribute} {p : Predicate} {r s : Relation}
    (h : ∀ a ∈ r.attributes, a.BackedBy base) (hs : select p r = .ok s) :
    ∀ a ∈ s.attributes, a.BackedBy base := by
  cases p with
  | literal a v =>
    obtain ⟨key, hkey, rfl⟩ := select_literal_eq_ok_iff.1 hs
    have hbacked := h key (Relation.mem_of_attribute? hkey)
    refine backedBy_setValues h Nat.one_pos fun n hn => ?_
    obtain rfl := List.mem_singleton.1 hn
    exact ⟨key, Relation.name_of_attribute? hkey, hbacked, hbacked.1⟩
  | equality a b =>
    obtain ⟨x, hx, y, hy, rfl⟩ := select_equality_eq_ok_iff.1 hs
    exact backedBy_setValues_min h (h x (Relation.mem_of_attribute? hx))
      (Relation.name_of_attribute? hx) (h y (Relation.mem_of_attribute? hy))
      (Relation.name_of_attribute? hy)

/-! ### Bounds from the base relations -/

namespace Plan

/-- The number of ways to take one tuple from every base relation that is read. -/
def crossSize (p : Plan) : Nat := (p.scans.map fun r => r.relation.tuples.toNat).prod

/-- The attributes of all base relations that are read. -/
def baseAttributes (p : Plan) : List Attribute := p.scans.flatMap fun r => r.relation.attributes

/-- The largest value count that a base relation records under a name. -/
def mostValues (p : Plan) (n : String) : Nat :=
  ((p.baseAttributes.filter fun a => a.name = n).map fun a => a.values.toNat).foldr max 0

variable {p i l r n : Plan} {o : Option Relation} {s t u : Relation}

theorem crossSize_product : (product l r o).crossSize = l.crossSize * r.crossSize := by
  simp [crossSize, scans]

theorem crossSize_eq_zero_iff : p.crossSize = 0 ↔ ∃ r ∈ p.scans, r.relation.tuples = 0 := by
  simp [crossSize, List.prod_eq_zero_iff, Count.eq_zero_iff]

theorem baseAttributes_product :
    (product l r o).baseAttributes = l.baseAttributes ++ r.baseAttributes :=
  List.flatMap_append

theorem le_mostValues_of_backedBy {a : Attribute} (h : a.BackedBy p.baseAttributes) :
    a.values.toNat ≤ p.mostValues a.name := by
  obtain ⟨-, b, hb, hname, hle⟩ := h
  refine List.le_max_of_le' 0 (List.mem_map_of_mem (List.mem_filter.2 ⟨hb, ?_⟩)) hle
  exact decide_eq_true hname

/-- How the estimate `s` of a plan is bounded by the base relations that the plan reads. -/
structure Bounds (p : Plan) (s : Relation) : Prop where
  /-- There are no more tuples than in the product of all base relations. -/
  tuples_le : s.tuples.toNat ≤ p.crossSize
  /-- There are no tuples exactly if that product has none. -/
  tuples_eq_zero_iff : s.tuples = 0 ↔ p.crossSize = 0
  /-- If every attribute of the base relations has a value, these back the attributes. -/
  backedBy : (∀ a ∈ p.baseAttributes, 0 < a.values) →
    ∀ a ∈ s.attributes, a.BackedBy p.baseAttributes

namespace Bounds

theorem scan (b : BaseRelation) : (scan b o).Bounds (Estimate.scan b) where
  tuples_le := by simp [crossSize, scans, Estimate.scan]
  tuples_eq_zero_iff := by simp [crossSize, scans, Estimate.scan, Count.eq_zero_iff]
  backedBy hpos a ha := by
    have hbase : a ∈ (Plan.scan b o).baseAttributes := List.mem_flatMap.2 ⟨b, by simp [scans], ha⟩
    exact Attribute.backedBy_of_mem hbase (hpos a hbase)

theorem select (h : i.Bounds t) {q : Predicate} (hs : Estimate.select q t = .ok s) :
    (select q i o).Bounds s := by
  have hbacked := fun hpos => Estimate.backedBy_select (h.backedBy hpos) hs
  obtain ⟨-, rfl⟩ := Estimate.select_eq_ok_iff.1 hs
  exact ⟨Nat.le_trans Count.ceilDiv_le h.tuples_le,
    Count.ceilDiv_eq_zero_iff.trans h.tuples_eq_zero_iff, hbacked⟩

theorem project (h : i.Bounds t) {as : List Attribute} (hs : Estimate.project as t = .ok s) :
    (project as i o).Bounds s := by
  obtain ⟨-, rfl⟩ := Estimate.project_eq_ok_iff.1 hs
  exact ⟨h.tuples_le, h.tuples_eq_zero_iff,
    fun hpos a ha => h.backedBy hpos a (List.mem_filter.1 ha).1⟩

theorem product (hl : l.Bounds t) (hr : r.Bounds u) :
    (product l r o).Bounds (Estimate.product t u) where
  tuples_le := by
    rw [crossSize_product]
    exact Nat.le_trans (Nat.min_le_left _ _) (Nat.mul_le_mul hl.tuples_le hr.tuples_le)
  tuples_eq_zero_iff := by
    rw [crossSize_product, Nat.mul_eq_zero, ← hl.tuples_eq_zero_iff, ← hr.tuples_eq_zero_iff]
    exact Count.mul_eq_zero_iff
  backedBy hpos := by
    rw [baseAttributes_product] at hpos ⊢
    obtain ⟨hposl, hposr⟩ := List.forall_mem_append.1 hpos
    exact List.forall_mem_append.2
      ⟨fun a ha => (hl.backedBy hposl a ha).mono (List.subset_append_left _ _),
        fun a ha => (hr.backedBy hposr a ha).mono (List.subset_append_right _ _)⟩

/-- A join divides the tuple count of a product, and its attributes are among those of the
product but for the value counts under the names of its keys. -/
theorem join (hl : l.Bounds t) (hr : r.Bounds u) {q : Predicate}
    (hs : Estimate.join q t u = .ok s) : (join q l r o).Bounds s := by
  have h : (Plan.product l r o).Bounds (Estimate.product t u) := hl.product hr
  cases q with
  | literal a v => simp [Estimate.join] at hs
  | equality a b =>
    obtain ⟨x, hx, y, hy, rfl⟩ := Estimate.join_equality_eq_ok_iff.1 hs
    refine ⟨Nat.le_trans Count.ceilDiv_le h.tuples_le,
      Count.ceilDiv_eq_zero_iff.trans h.tuples_eq_zero_iff, fun hpos => ?_⟩
    refine backedBy_setValues_min ?_
      (h.backedBy hpos x (List.mem_append_left _ (Relation.mem_of_attribute? hx)))
      (Relation.name_of_attribute? hx)
      (h.backedBy hpos y (List.mem_append_right _ (Relation.mem_of_attribute? hy)))
      (Relation.name_of_attribute? hy)
    intro c hc
    refine h.backedBy hpos c (List.mem_append.2 ?_)
    exact (List.mem_append.1 hc).imp_right fun hc => (List.mem_filter.1 hc).1

end Bounds

/-- **Bounds**: every plan that can be estimated is estimated within its bounds. -/
theorem bounds_of_outcome (h : p.estimate.outcome = .ok s) : p.Bounds s := by
  induction p generalizing s with
  | scan b o =>
    cases h
    exact .scan b
  | select q i o ih =>
    obtain ⟨t, hi, h⟩ := outcome_select_eq_ok_iff.1 h
    exact (ih hi).select h
  | project as i o ih =>
    obtain ⟨t, hi, h⟩ := outcome_project_eq_ok_iff.1 h
    exact (ih hi).project h
  | product l r o ihl ihr =>
    obtain ⟨t, hl, u, hr, rfl⟩ := outcome_product_eq_ok_iff.1 h
    exact (ihl hl).product (ihr hr)
  | join q l r o ihl ihr =>
    obtain ⟨t, hl, u, hr, h⟩ := outcome_join_eq_ok_iff.1 h
    exact (ihl hl).join (ihr hr) h

/-! ### Every node -/

/-- A selection or projection is not estimated at more tuples than its input. -/
theorem exists_input_of_outcome (h : n.estimate.outcome = .ok t)
    (ho : n.operator = .select ∨ n.operator = .project) :
    ∃ i u, n.at? [0] = some i ∧ i.estimate.outcome = .ok u ∧ t.tuples ≤ u.tuples := by
  cases n with
  | scan | product | join => simp [operator] at ho
  | select q i o =>
    obtain ⟨u, hi, h⟩ := outcome_select_eq_ok_iff.1 h
    obtain ⟨-, rfl⟩ := Estimate.select_eq_ok_iff.1 h
    exact ⟨i, u, rfl, hi, Count.ceilDiv_le⟩
  | project as i o =>
    obtain ⟨u, hi, h⟩ := outcome_project_eq_ok_iff.1 h
    obtain ⟨-, rfl⟩ := Estimate.project_eq_ok_iff.1 h
    exact ⟨i, u, rfl, hi, Nat.le_refl _⟩

theorem at?_append (p : Plan) (path path' : List Nat) :
    p.at? (path ++ path') = (p.at? path).bind fun n => n.at? path' := by
  induction path generalizing p with
  | nil => rfl
  | cons k path ih =>
    rw [List.cons_append, at?, at?, Option.bind_assoc]
    exact congrArg _ (funext ih)

/-- **Estimates**: if a plan can be estimated, no node of it is estimated at more tuples than there
are ways to take one from every base relation below the node, nor at more than the largest count,
and it is estimated at none exactly if one of these relations has none. A selection or projection
does not put out more tuples than its input. If all attributes of these relations have values, so
has every attribute the node puts out, and not more than are recorded under its name below. -/
theorem estimate_bounds (h : p.estimated.result = .ok s) {path : List Nat}
    (hn : p.at? path = some n) :
    ∃ t, (p.estimate.plan.at? path).bind output = some t ∧
      t.tuples.toNat ≤ min countLimit n.crossSize ∧
      (t.tuples = 0 ↔ ∃ r ∈ n.scans, r.relation.tuples = 0) ∧
      (n.operator = .select ∨ n.operator = .project →
        ∃ u, (p.estimate.plan.at? (path ++ [0])).bind output = some u ∧ t.tuples ≤ u.tuples) ∧
      ((∀ r ∈ n.scans, ∀ a ∈ r.relation.attributes, 0 < a.values) →
        ∀ a ∈ t.attributes, 1 ≤ a.values ∧ a.values.toNat ≤ n.mostValues a.name) := by
  obtain ⟨⟨t, ht⟩, hat⟩ := estimate_at? h hn
  have hbounds := bounds_of_outcome ht
  refine ⟨t, ?_, ?_, ?_, ?_, ?_⟩
  · rw [hat]
    exact output_estimate ht
  · exact Nat.le_min.2 ⟨t.tuples.le_limit, hbounds.tuples_le⟩
  · exact hbounds.tuples_eq_zero_iff.trans crossSize_eq_zero_iff
  · intro ho
    obtain ⟨i, u, hi, hu, hle⟩ := exists_input_of_outcome ht ho
    have hin : p.at? (path ++ [0]) = some i := by
      rw [at?_append, hn]
      exact hi
    refine ⟨u, ?_, hle⟩
    rw [(estimate_at? h hin).2]
    exact output_estimate hu
  · intro hpos a ha
    have hbacked := hbounds.backedBy (List.forall_mem_flatMap.2 hpos) a ha
    exact ⟨hbacked.1, le_mostValues_of_backedBy hbacked⟩

/-- As many parcels as can be counted. -/
def parcels : BaseRelation :=
  ⟨"parcels", ⟨.clamp countLimit, [⟨"weight", .clamp 40⟩, ⟨"town", .clamp 9⟩]⟩⟩

/-- The streets of more towns than get parcels. -/
def streets : BaseRelation :=
  ⟨"streets", ⟨.clamp 300, [⟨"number", .clamp 250⟩, ⟨"town", .clamp 12⟩]⟩⟩

/-- Parcels as heavy as a house number in their town is high. -/
def numberedParcels : Plan :=
  ((read parcels).joined (read streets) (.equality ⟨"town", 1⟩ ⟨"town", 1⟩)).filtered
    (.equality ⟨"weight", 1⟩ ⟨"number", 1⟩)

theorem numberedParcels_bounds :
    ∃ s t u, (numberedParcels.narrowed [⟨"town", 1⟩]).estimated.result = .ok s ∧
      ((numberedParcels.narrowed [⟨"town", 1⟩]).estimate.plan.at? [0]).bind output = some t ∧
      ((numberedParcels.narrowed [⟨"town", 1⟩]).estimate.plan.at? [0, 0]).bind output = some u ∧
      t.tuples.toNat ≤ countLimit ∧ t.tuples ≠ 0 ∧ t.tuples ≤ u.tuples ∧
      ∀ a ∈ t.attributes, 1 ≤ a.values ∧ a.values.toNat ≤ numberedParcels.mostValues a.name := by
  have hs : (numberedParcels.narrowed [⟨"town", 1⟩]).estimated.result =
      .ok (numberedParcels.narrowed [⟨"town", 1⟩]).schema := rfl
  have hn : (numberedParcels.narrowed [⟨"town", 1⟩]).at? [0] = some numberedParcels := rfl
  have hfull : ¬ ∃ r ∈ numberedParcels.scans, r.relation.tuples = 0 := by decide
  have hpos : ∀ r ∈ numberedParcels.scans, ∀ a ∈ r.relation.attributes, 0 < a.values := by decide
  obtain ⟨t, ht, hle, hzero, hinput, hvalues⟩ := estimate_bounds hs hn
  obtain ⟨u, hu, hut⟩ := hinput (Or.inl rfl)
  exact ⟨_, t, u, hs, ht, hu, Nat.le_trans hle (Nat.min_le_left _ _), mt hzero.1 hfull, hut,
    hvalues hpos⟩

end Plan

end RelPlan
