import RelPlan.Proofs.Counts
import RelPlan.Proofs.Optimise.Placement

/-!
# Estimates and the order of sides

Neither the sides of an equality nor the sides of a product or join matter to an estimate, but for
the order of attributes. Relations that differ in that order alone are `Relation.Alike`; the
formulas respect it, and so does a stack of selections (`Plan.alike_foldl_filtered`).
`Plan.gathered` puts two inputs together under all predicates between them; its estimate has the
same tuple count whichever input comes first (`Plan.alike_gathered`, `Plan.alike_gathered_swap`).
-/

namespace RelPlan

/-! ### Relations up to the order of attributes -/

namespace Relation

/-- The relations have the same number of tuples, and under every name the same attribute. -/
def Alike (r s : Relation) : Prop :=
  r.tuples = s.tuples ∧ ∀ n, r.attribute? n = s.attribute? n

theorem Alike.refl (r : Relation) : r.Alike r := ⟨rfl, fun _ => rfl⟩

/-- Attributes of relations without a common name are found in either order. -/
theorem attribute?_append_comm {l r : Relation} (hd : l.names.Disjoint r.names) (t : Count)
    (n : String) : (Relation.mk t (l.attributes ++ r.attributes)).attribute? n =
      (Relation.mk t (r.attributes ++ l.attributes)).attribute? n := by
  rw [attribute?_append, attribute?_append]
  show (l.attribute? n).or (r.attribute? n) = (r.attribute? n).or (l.attribute? n)
  cases hl : l.attribute? n with
  | none => simp
  | some a =>
    cases hr : r.attribute? n with
    | none => rfl
    | some b => exact (hd (has_iff_attribute?.2 ⟨a, hl⟩) (has_iff_attribute?.2 ⟨b, hr⟩)).elim

/-- A relation without a name of the left one keeps all its attributes in a join. -/
theorem filter_not_has {l r : Relation} (hd : l.names.Disjoint r.names) :
    (r.attributes.filter fun c => ¬ l.Has c.name) = r.attributes := by
  rw [List.filter_eq_self]
  intro c hc
  exact decide_eq_true fun h => hd h (List.mem_map_of_mem hc)

end Relation

theorem setValues_swap (m n : String) (v : Count) (as : List Attribute) :
    setValues [m, n] v as = setValues [n, m] v as :=
  List.map_congr_left fun a _ => by simp only [(List.Perm.swap n m []).mem_iff]

/-! ### The formulas -/

namespace Estimate

theorem select_reversed {p : Predicate} {r s : Relation} (h : select p r = .ok s) :
    select p.reversed r = .ok s := by
  cases p with
  | literal => exact h
  | equality a b =>
    obtain ⟨x, hx, y, hy, rfl⟩ := select_equality_eq_ok_iff.1 h
    refine select_equality_eq_ok_iff.2 ⟨y, hy, x, hx, ?_⟩
    rw [Count.max_comm, Count.min_comm, setValues_swap]

theorem select_of_unsided_eq {p q : Predicate} (hp : p.unsided = q.unsided) {r s : Relation}
    (h : select p r = .ok s) : select q r = .ok s := by
  rcases Predicate.unsided_eq_iff.1 hp with rfl | rfl
  · exact h
  · simpa using select_reversed h

/-- Selections treat alike relations alike. -/
theorem alike_select {p : Predicate} {r s r' s' : Relation} (h : r.Alike s)
    (hr : select p r = .ok r') (hs : select p s = .ok s') : r'.Alike s' := by
  cases p with
  | literal a v =>
    obtain ⟨x, hx, rfl⟩ := select_literal_eq_ok_iff.1 hr
    obtain ⟨y, hy, rfl⟩ := select_literal_eq_ok_iff.1 hs
    obtain rfl : x = y := Option.some.inj (by rw [← hx, h.2, hy])
    refine ⟨congrArg (fun t => Count.ceilDiv t x.values) h.1, fun n => ?_⟩
    rw [Relation.attribute?_setValues, Relation.attribute?_setValues]
    exact congrArg _ (h.2 n)
  | equality a b =>
    obtain ⟨x, hx, y, hy, rfl⟩ := select_equality_eq_ok_iff.1 hr
    obtain ⟨z, hz, w, hw, rfl⟩ := select_equality_eq_ok_iff.1 hs
    obtain rfl : x = z := Option.some.inj (by rw [← hx, h.2, hz])
    obtain rfl : y = w := Option.some.inj (by rw [← hy, h.2, hw])
    refine ⟨congrArg (fun t => Count.ceilDiv t _) h.1, fun n => ?_⟩
    rw [Relation.attribute?_setValues, Relation.attribute?_setValues]
    exact congrArg _ (h.2 n)

theorem alike_product_swap {l r : Relation} (hd : l.names.Disjoint r.names) :
    (product l r).Alike (product r l) :=
  ⟨Count.mul_comm _ _, fun n => by
    rw [product, Count.mul_comm, product]
    exact Relation.attribute?_append_comm hd _ n⟩

theorem alike_join_swap {p : Predicate} {l r s t : Relation} (hd : l.names.Disjoint r.names)
    (hs : join p l r = .ok s) (ht : join p.reversed r l = .ok t) : s.Alike t := by
  cases p with
  | literal a v => simp [join] at hs
  | equality a b =>
    obtain ⟨x, hx, y, hy, rfl⟩ := join_equality_eq_ok_iff.1 hs
    obtain ⟨z, hz, w, hw, rfl⟩ := join_equality_eq_ok_iff.1 ht
    obtain rfl : y = z := Option.some.inj (by rw [← hy, hz])
    obtain rfl : x = w := Option.some.inj (by rw [← hx, hw])
    rw [Relation.filter_not_has hd, Relation.filter_not_has hd.symm, Count.max_comm y.values,
      Count.min_comm y.values, setValues_swap b.name, Count.mul_comm r.tuples]
    refine ⟨rfl, fun n => ?_⟩
    rw [Relation.attribute?_setValues, Relation.attribute?_setValues]
    exact congrArg _ (Relation.attribute?_append_comm hd _ n)

end Estimate

namespace Predicate

/-- Seen from the other side, a linking predicate is turned the other way. -/
theorem Links.oriented_swap {p : Predicate} {l r : Relation} (h : p.Links l r)
    (hd : l.names.Disjoint r.names) : p.oriented r = (p.oriented l).reversed := by
  cases p with
  | literal => exact h.elim
  | equality a b =>
    unfold oriented
    rcases h with ⟨ha, hb⟩ | ⟨hb, ha⟩
    · have ha' : ¬ r.Has a.name := hd ha
      simp [left, ha, ha']
    · have ha' : ¬ l.Has a.name := fun h => hd h ha
      simp [left, ha, ha']

end Predicate

/-! ### Plans -/

namespace Plan

theorem select_schema {x : Plan} {p : Predicate} (h : (x.filtered p).Resolved) :
    Estimate.select p x.schema = .ok (x.filtered p).schema := by
  have ho := h.outcome
  rw [outcome_select, h.1.outcome] at ho
  exact ho

theorem join_schema {l r : Plan} {p : Predicate} (h : (l.joined r p).Resolved) :
    Estimate.join p l.schema r.schema = .ok (l.joined r p).schema := by
  have ho := h.outcome
  rw [outcome_join, h.1.outcome, h.2.1.outcome] at ho
  exact ho

theorem schema_times {l r : Plan} (h : (l.times r).Resolved) :
    (l.times r).schema = Estimate.product l.schema r.schema := by
  have ho := h.outcome
  rw [outcome_product, h.1.outcome, h.2.outcome] at ho
  exact (Except.ok.inj ho).symm

/-- Selections by the same predicates, whichever way these are turned. -/
theorem alike_foldl_filtered {ps qs : List Predicate} {x y : Plan} (h : x.schema.Alike y.schema)
    (hu : ps.map Predicate.unsided = qs.map Predicate.unsided)
    (hx : (ps.foldl filtered x).Resolved) (hy : (qs.foldl filtered y).Resolved) :
    (ps.foldl filtered x).schema.Alike (qs.foldl filtered y).schema := by
  induction ps generalizing x y qs with
  | nil =>
    obtain rfl : qs = [] := List.map_eq_nil_iff.1 hu.symm
    exact h
  | cons p ps ih =>
    obtain ⟨q, qs, rfl, hq, hqs⟩ := List.map_eq_cons_iff.1 hu.symm
    rw [List.foldl_cons] at hx hy ⊢
    rw [List.foldl_cons]
    have hxp := select_schema (resolved_foldl_filtered.1 hx).1
    have hyq := select_schema (resolved_foldl_filtered.1 hy).1
    have hnext : (x.filtered p).schema.Alike (y.filtered q).schema :=
      Estimate.alike_select h hxp (Estimate.select_of_unsided_eq hq hyq)
    exact ih hnext hqs.symm hx hy

/-- Two inputs put together under predicates between them: joined on the first predicate, if
there is one, with the others on top. -/
def gathered (l r : Plan) : List Predicate → Plan
  | [] => l.times r
  | p :: ps => ps.foldl filtered (l.joined r (p.oriented l.schema))

variable {l r : Plan} {ps qs : List Predicate}

/-- It does not matter which way the predicates are turned. -/
theorem alike_gathered (hd : l.schema.names.Disjoint r.schema.names)
    (hu : ps.map Predicate.unsided = qs.map Predicate.unsided)
    (hl : ∀ p ∈ ps, p.Links l.schema r.schema) (hp : (l.gathered r ps).Resolved)
    (hq : (l.gathered r qs).Resolved) :
    (l.gathered r ps).schema.Alike (l.gathered r qs).schema := by
  cases ps with
  | nil =>
    obtain rfl : qs = [] := List.map_eq_nil_iff.1 hu.symm
    exact .refl _
  | cons p ps =>
    obtain ⟨q, qs, rfl, hpq, hqs⟩ := List.map_eq_cons_iff.1 hu.symm
    have ho := Predicate.oriented_eq_of_unsided_eq hpq.symm (hl p List.mem_cons_self) hd
    simp only [gathered, ← ho] at hq ⊢
    exact alike_foldl_filtered (.refl _) hqs.symm hp hq

/-- Turning the first predicate beforehand changes nothing. -/
theorem gathered_modifyHead (hd : l.schema.names.Disjoint r.schema.names)
    (hl : ∀ p ∈ ps, p.Links l.schema r.schema) :
    l.gathered r (ps.modifyHead fun p => p.oriented l.schema) = l.gathered r ps := by
  cases ps with
  | nil => rfl
  | cons p ps =>
    have ho := Predicate.oriented_eq_of_unsided_eq (p.unsided_oriented l.schema).symm
      (hl p List.mem_cons_self) hd
    rw [List.modifyHead_cons, gathered, gathered, ← ho]

/-- It does not matter which input comes first. -/
theorem alike_gathered_swap (hd : l.schema.names.Disjoint r.schema.names)
    (hl : ∀ p ∈ ps, p.Links l.schema r.schema) (hp : (l.gathered r ps).Resolved)
    (hq : (r.gathered l ps).Resolved) :
    (l.gathered r ps).schema.Alike (r.gathered l ps).schema := by
  cases ps with
  | nil =>
    show (l.times r).schema.Alike (r.times l).schema
    rw [schema_times hp, schema_times hq]
    exact Estimate.alike_product_swap hd
  | cons p ps =>
    have ho := (hl p List.mem_cons_self).oriented_swap hd
    have hlr := join_schema (resolved_foldl_filtered.1 hp).1
    have hrl := join_schema (resolved_foldl_filtered.1 hq).1
    refine alike_foldl_filtered ?_ rfl hp hq
    rw [ho] at hrl ⊢
    exact Estimate.alike_join_swap hd hlr hrl

end Plan

end RelPlan
