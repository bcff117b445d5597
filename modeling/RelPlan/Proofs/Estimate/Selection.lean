import Mathlib.Algebra.Order.BigOperators.GroupWithZero.List
import Mathlib.Algebra.Order.Ring.Nat
import Mathlib.Data.List.Pairwise
import RelPlan.Proofs.Counts
import RelPlan.Proofs.Plan.Contents

/-!
# Stacks of selections

On a schema that has the names of its predicate, a selection is a total operation
(`Relation.filtered`): it divides the tuple count by `Predicate.divisor` and leaves the attributes
of the predicate with `Predicate.remaining` values, both read off the value counts of the schema.
Selections whose predicates have no name in common do not touch what the other one reads, so that
they commute (`Relation.filtered_comm`). A stack of them is therefore estimated alike in every
order, at the tuple count divided once by the product of all divisors
(`Plan.estimate_filtered_perm`).
-/

namespace RelPlan

variable {p q : Predicate} {r s : Relation} {n : String}

/-! ### What a selection reads and writes -/

/-- The value count under a name; `0` if the schema does not have the name. -/
def Relation.valuesOf (r : Relation) (n : String) : Count :=
  ((r.attribute? n).map Attribute.values).getD 0

theorem Relation.valuesOf_eq {a : Attribute} (h : r.attribute? n = some a) :
    r.valuesOf n = a.values := by
  rw [valuesOf, h]
  rfl

namespace Predicate

/-- What the tuple count is divided by in a selection on `r`. -/
def divisor (r : Relation) : Predicate → Count
  | literal a _ => r.valuesOf a.name
  | equality a b => max (r.valuesOf a.name) (r.valuesOf b.name)

/-- How many values the attributes of the predicate take after a selection on `r`. -/
def remaining (r : Relation) : Predicate → Count
  | literal _ _ => 1
  | equality a b => min (r.valuesOf a.name) (r.valuesOf b.name)

theorem divisor_congr (h : ∀ n ∈ p.names, r.valuesOf n = s.valuesOf n) :
    p.divisor r = p.divisor s := by
  cases p with
  | literal a v => exact h a.name (by simp [names, attributes])
  | equality a b =>
    exact congrArg₂ max (h a.name (by simp [names, attributes]))
      (h b.name (by simp [names, attributes]))

theorem remaining_congr (h : ∀ n ∈ p.names, r.valuesOf n = s.valuesOf n) :
    p.remaining r = p.remaining s := by
  cases p with
  | literal a v => rfl
  | equality a b =>
    exact congrArg₂ min (h a.name (by simp [names, attributes]))
      (h b.name (by simp [names, attributes]))

end Predicate

namespace Relation

/-- The relation behind a selection. -/
def filtered (r : Relation) (p : Predicate) : Relation where
  tuples := r.tuples.ceilDiv (p.divisor r)
  attributes := setValues p.names (p.remaining r) r.attributes

@[simp] theorem names_filtered (r : Relation) (p : Predicate) : (r.filtered p).names = r.names :=
  namesOf_setValues _ _ _

@[simp] theorem within_filtered : q.Within (r.filtered p) ↔ q.Within r := by
  rw [Predicate.within_iff, Predicate.within_iff, names_filtered]

/-- A selection changes value counts under the names of its predicate only. -/
theorem valuesOf_filtered (h : n ∉ p.names) : (r.filtered p).valuesOf n = r.valuesOf n := by
  rw [valuesOf, filtered, attribute?_setValues]
  show (Option.map _ ((r.attribute? n).map _)).getD 0 = _
  cases ha : r.attribute? n with
  | none => rw [valuesOf, ha, Option.map_none]
  | some a =>
    rw [valuesOf_eq ha, Option.map_some, name_of_attribute? ha, if_neg h]
    rfl

end Relation

/-- **Selection**: it succeeds on the schemas that have the names of the predicate. -/
theorem Estimate.select_eq_ok_iff : select p r = .ok s ↔ p.Within r ∧ s = r.filtered p := by
  cases p with
  | literal a v =>
    rw [select_literal_eq_ok_iff, Predicate.within_literal, Relation.has_iff_attribute?]
    constructor
    · rintro ⟨key, hkey, rfl⟩
      rw [← Relation.valuesOf_eq hkey]
      exact ⟨⟨key, hkey⟩, rfl⟩
    · rintro ⟨⟨key, hkey⟩, rfl⟩
      refine ⟨key, hkey, ?_⟩
      rw [← Relation.valuesOf_eq hkey]
      rfl
  | equality a b =>
    rw [select_equality_eq_ok_iff, Predicate.within_equality, Relation.has_iff_attribute?,
      Relation.has_iff_attribute?]
    constructor
    · rintro ⟨x, hx, y, hy, rfl⟩
      rw [← Relation.valuesOf_eq hx, ← Relation.valuesOf_eq hy]
      exact ⟨⟨⟨x, hx⟩, ⟨y, hy⟩⟩, rfl⟩
    · rintro ⟨⟨⟨x, hx⟩, ⟨y, hy⟩⟩, rfl⟩
      refine ⟨x, hx, y, hy, ?_⟩
      rw [← Relation.valuesOf_eq hx, ← Relation.valuesOf_eq hy]
      rfl

/-! ### Predicates without a common name -/

namespace Predicate

/-- The predicates have no attribute name in common. -/
def Apart (p q : Predicate) : Prop := ∀ n ∈ p.names, n ∉ q.names

instance : DecidableRel Apart := fun p q =>
  inferInstanceAs (Decidable (∀ n ∈ p.names, n ∉ q.names))

theorem Apart.symm (h : p.Apart q) : q.Apart p := fun n hn hn' => h n hn' hn

instance : Std.Symm Apart := ⟨fun _ _ => Apart.symm⟩

theorem Apart.divisor_filtered (h : p.Apart q) : q.divisor (r.filtered p) = q.divisor r :=
  divisor_congr fun n hn => Relation.valuesOf_filtered (h.symm n hn)

theorem Apart.remaining_filtered (h : p.Apart q) : q.remaining (r.filtered p) = q.remaining r :=
  remaining_congr fun n hn => Relation.valuesOf_filtered (h.symm n hn)

end Predicate

/-- Value counts under different names can be set in either order. -/
theorem setValues_comm {ms ns : List String} (h : ∀ n ∈ ms, n ∉ ns) (v w : Count)
    (as : List Attribute) :
    setValues ns w (setValues ms v as) = setValues ms v (setValues ns w as) := by
  rw [setValues, setValues, setValues, setValues, List.map_map, List.map_map]
  refine List.map_congr_left fun a _ => ?_
  rw [Function.comp_apply, Function.comp_apply]
  by_cases hm : a.name ∈ ms
  · have hn := h a.name hm
    simp [hm, hn]
  · by_cases hn : a.name ∈ ns <;> simp [hm, hn]

/-- **Swap**: two selections without a common name come to the same in either order. -/
theorem Relation.filtered_comm (h : p.Apart q) (r : Relation) :
    (r.filtered p).filtered q = (r.filtered q).filtered p := by
  rw [filtered, h.divisor_filtered, h.remaining_filtered, filtered.eq_def (r.filtered q) p,
    h.symm.divisor_filtered, h.symm.remaining_filtered]
  exact congrArg₂ Relation.mk (Count.ceilDiv_right_comm _ _ _) (setValues_comm h _ _ _)

/-! ### Stacks -/

section Stack

variable {ps qs : List Predicate}

/-- **Permutation**: a stack of selections without a common name comes to the same in every
order. -/
theorem Relation.foldl_filtered_perm (hperm : ps.Perm qs) (hd : ps.Pairwise Predicate.Apart)
    (r : Relation) : ps.foldl filtered r = qs.foldl filtered r := by
  refine hperm.foldl_eq' (fun p hp q hq r => ?_) r
  by_cases h : p = q
  · rw [h]
  · exact filtered_comm (hd.forall hp hq h) r

/-- The tuple count behind a stack of selections is divided once, by the product of what each of
them divides by on its own. -/
theorem Relation.tuples_foldl_filtered (hd : ps.Pairwise Predicate.Apart) (r : Relation) :
    (ps.foldl filtered r).tuples.toNat =
      r.tuples.toNat ⌈/⌉ (ps.map fun p => (p.divisor r).divisor).prod := by
  induction ps generalizing r with
  | nil => exact (ceilDiv_one _).symm
  | cons p ps ih =>
    obtain ⟨hp, hd⟩ := List.pairwise_cons.1 hd
    have hrest : ps.map (fun q => (q.divisor (r.filtered p)).divisor) =
        ps.map fun q => (q.divisor r).divisor :=
      List.map_congr_left fun q hq => by rw [(hp q hq).divisor_filtered]
    have hpos : 0 < (ps.map fun q => (q.divisor r).divisor).prod :=
      List.prod_pos fun d hd => by
        obtain ⟨q, -, rfl⟩ := List.mem_map.1 hd
        exact Count.divisor_pos _
    rw [List.foldl_cons, ih hd, hrest, List.map_cons, List.prod_cons,
      ← ceilDiv_ceilDiv (Count.divisor_pos _) hpos, ← Count.toNat_ceilDiv_eq]
    rfl

namespace Plan

variable {i : Plan}

/-- A stack of selections on a plan is estimated from the estimate of the plan. -/
theorem outcome_foldl_filtered (h : i.estimate.outcome = .ok r) (hw : ∀ p ∈ ps, p.Within r) :
    (ps.foldl filtered i).estimate.outcome = .ok (ps.foldl Relation.filtered r) := by
  induction ps generalizing i r with
  | nil => exact h
  | cons p ps ih =>
    obtain ⟨hp, hps⟩ := List.forall_mem_cons.1 hw
    refine ih ?_ fun q hq => Relation.within_filtered.2 (hps q hq)
    rw [outcome_select, h]
    exact Estimate.select_eq_ok_iff.2 ⟨hp, rfl⟩

/-- **Independent selections**: predicates on the schema of a plan that have no name in common can
be stacked on the plan in any order, with the same estimate. Its tuple count is that of the plan
divided by the product of the divisors, rounded up once. -/
theorem estimate_filtered_perm (h : i.estimated.result = .ok r) (hw : ∀ p ∈ ps, p.Within r)
    (hd : ps.Pairwise Predicate.Apart) (hperm : ps.Perm qs) :
    ∃ s, (ps.foldl filtered i).estimated.result = .ok s ∧
      (qs.foldl filtered i).estimated.result = .ok s ∧
      s.tuples.toNat = r.tuples.toNat ⌈/⌉ (ps.map fun p => (p.divisor r).divisor).prod := by
  refine ⟨ps.foldl Relation.filtered r, outcome_foldl_filtered h hw, ?_,
    Relation.tuples_foldl_filtered hd r⟩
  rw [Relation.foldl_filtered_perm hperm hd]
  exact outcome_foldl_filtered h fun q hq => hw q (hperm.mem_iff.2 hq)

/-- As many visits as can be counted; no nurse has a value. -/
def visits : BaseRelation :=
  ⟨"visits", ⟨.clamp countLimit, [⟨"patient", .clamp 90⟩, ⟨"ward", .clamp 6⟩, ⟨"nurse", 0⟩]⟩⟩

/-- The wards; two attributes have the same name, and one of them a name of the visits. -/
def wards : BaseRelation :=
  ⟨"wards", ⟨.clamp 8, [⟨"ward", .clamp 8⟩, ⟨"floor", .clamp 3⟩, ⟨"floor", .clamp 4⟩]⟩⟩

/-- Every visit with every ward. -/
def visitsAndWards : Plan := (read visits).times (read wards)

/-- Which visits and wards to keep. -/
def rounds : List Predicate :=
  [.literal ⟨"patient", 1⟩ "Ann", .equality ⟨"ward", 1⟩ ⟨"nurse", 1⟩, .literal ⟨"floor", 1⟩ "2"]

theorem visitsAndWards_perm :
    rounds.Pairwise Predicate.Apart ∧ rounds.Perm rounds.reverse ∧
      ∃ r s, visitsAndWards.estimated.result = .ok r ∧ (∀ p ∈ rounds, p.Within r) ∧
        (rounds.foldl filtered visitsAndWards).estimated.result = .ok s ∧
        (rounds.reverse.foldl filtered visitsAndWards).estimated.result = .ok s ∧
        s.tuples.toNat = countLimit ⌈/⌉ (90 * 6 * 3) := by
  have hd : rounds.Pairwise Predicate.Apart := by decide
  have hr : visitsAndWards.estimated.result = .ok visitsAndWards.schema := rfl
  have hw : ∀ p ∈ rounds, p.Within visitsAndWards.schema := by decide
  have hperm : rounds.Perm rounds.reverse := (List.reverse_perm rounds).symm
  obtain ⟨s, hs, hreverse, hcount⟩ := estimate_filtered_perm hr hw hd hperm
  exact ⟨hd, hperm, _, s, hr, hw, hs, hreverse, hcount⟩

end Plan

end Stack

end RelPlan
