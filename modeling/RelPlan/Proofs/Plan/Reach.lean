import Mathlib.Data.List.Basic
import RelPlan.Estimate.Pass
import RelPlan.Proofs.Success

/-!
# Attributes in reach

Whether a plan can be estimated is a matter of names, not of numbers. `Plan.visible` lists the
attribute names a plan puts out, and a plan is `Resolved` when every name a node uses is put out
by the inputs of the node. The resolved plans are exactly those that can be estimated
(`resolved_iff`), and the estimate has the visible names (`names_of_outcome`).

`Plan.baseNames` lists the names of all relations that are read. What is visible comes from there.
A plan is `Distinct` when no two of these relations have a name in common.
-/

namespace RelPlan

theorem Relation.lookup_eq_ok_iff {r : Relation} {a b : Attribute} :
    r.lookup a = .ok b ↔ r.attribute? a.name = some b := by
  unfold lookup
  cases r.attribute? a.name <;> simp

theorem Relation.has_iff_attribute? {r : Relation} {n : String} :
    r.Has n ↔ ∃ a, r.attribute? n = some a := by
  rw [← isSome_attribute?_iff, Option.isSome_iff_exists]

theorem Relation.attribute?_setValues (t : Count) (ns : List String) (v : Count)
    (as : List Attribute) (n : String) : (Relation.mk t (setValues ns v as)).attribute? n =
      ((Relation.mk t as).attribute? n).map fun a =>
        if a.name ∈ ns then a.withValues v else a := by
  rw [attribute?, setValues, List.find?_map, attribute?]
  congr 2
  funext a
  rw [Function.comp_apply]
  split <;> rfl

theorem Relation.attribute?_append (t : Count) (as bs : List Attribute) (n : String) :
    (Relation.mk t (as ++ bs)).attribute? n =
      ((Relation.mk t as).attribute? n).or ((Relation.mk t bs).attribute? n) :=
  List.find?_append

/-! ### When the formulas give a result -/

namespace Estimate

theorem select_literal_eq_ok_iff {a : Attribute} {v : String} {r s : Relation} :
    select (.literal a v) r = .ok s ↔ ∃ key, r.attribute? a.name = some key ∧
      s = ⟨r.tuples.ceilDiv key.values, setValues [a.name] 1 r.attributes⟩ := by
  simp only [select, bind_eq_ok_iff, Relation.lookup_eq_ok_iff, pure, Except.pure, Except.ok.injEq,
    eq_comm (b := s)]

theorem select_equality_eq_ok_iff {a b : Attribute} {r s : Relation} :
    select (.equality a b) r = .ok s ↔ ∃ left, r.attribute? a.name = some left ∧
      ∃ right, r.attribute? b.name = some right ∧
      s = ⟨r.tuples.ceilDiv (max left.values right.values),
        setValues [a.name, b.name] (min left.values right.values) r.attributes⟩ := by
  simp only [select, bind_eq_ok_iff, Relation.lookup_eq_ok_iff, pure, Except.pure, Except.ok.injEq,
    eq_comm (b := s)]

theorem project_eq_ok_iff {as : List Attribute} {r s : Relation} :
    project as r = .ok s ↔ (∀ a ∈ as, r.Has a.name) ∧
      s = { r with attributes := r.attributes.filter fun a => a.name ∈ namesOf as } := by
  unfold project
  cases h : as.find? fun a => ¬ r.Has a.name with
  | none =>
    simp only [List.find?_eq_none, decide_eq_true_eq, not_not] at h
    simp only [Except.ok.injEq]
    exact ⟨fun hs => ⟨h, hs.symm⟩, fun hs => hs.2.symm⟩
  | some a =>
    have ha : ¬ r.Has a.name := by simpa using List.find?_some h
    have hm := List.mem_of_find?_eq_some h
    simp only [reduceCtorEq, false_iff]
    exact fun hs => ha (hs.1 a hm)

theorem join_equality_eq_ok_iff {a b : Attribute} {l r s : Relation} :
    join (.equality a b) l r = .ok s ↔ ∃ left, l.attribute? a.name = some left ∧
      ∃ right, r.attribute? b.name = some right ∧
      s = ⟨(l.tuples * r.tuples).ceilDiv (max left.values right.values),
        setValues [a.name, b.name] (min left.values right.values)
          (l.attributes ++ r.attributes.filter fun c => ¬ l.Has c.name)⟩ := by
  simp only [join, bind_eq_ok_iff, Relation.lookup_eq_ok_iff, pure, Except.pure, Except.ok.injEq,
    eq_comm (b := s)]

/-- A selection works on the schemas that have the attributes of its predicate. -/
theorem exists_select_iff {p : Predicate} {r : Relation} :
    (∃ s, select p r = .ok s) ↔ p.Within r := by
  cases p with
  | literal a v =>
    simp only [select_literal_eq_ok_iff, Predicate.within_literal, Relation.has_iff_attribute?]
    constructor
    · rintro ⟨_, key, h, -⟩
      exact ⟨key, h⟩
    · rintro ⟨key, h⟩
      exact ⟨_, key, h, rfl⟩
  | equality a b =>
    simp only [select_equality_eq_ok_iff, Predicate.within_equality, Relation.has_iff_attribute?]
    constructor
    · rintro ⟨_, left, hleft, right, hright, -⟩
      exact ⟨⟨left, hleft⟩, ⟨right, hright⟩⟩
    · rintro ⟨⟨left, hleft⟩, ⟨right, hright⟩⟩
      exact ⟨_, left, hleft, right, hright, rfl⟩

theorem names_select {p : Predicate} {r s : Relation} (h : select p r = .ok s) :
    s.names = r.names := by
  cases p with
  | literal a v =>
    obtain ⟨_, _, rfl⟩ := select_literal_eq_ok_iff.1 h
    exact namesOf_setValues _ _ _
  | equality a b =>
    obtain ⟨_, _, _, _, rfl⟩ := select_equality_eq_ok_iff.1 h
    exact namesOf_setValues _ _ _

theorem namesOf_filter (f : String → Bool) (as : List Attribute) :
    namesOf (as.filter fun a => f a.name) = (namesOf as).filter f := by
  rw [namesOf, namesOf, List.filter_map]
  rfl

theorem names_project {as : List Attribute} {r s : Relation} (h : project as r = .ok s) :
    s.names = r.names.filter (· ∈ namesOf as) := by
  obtain ⟨-, rfl⟩ := project_eq_ok_iff.1 h
  exact namesOf_filter (· ∈ namesOf as) _

theorem names_product (l r : Relation) : (product l r).names = l.names ++ r.names :=
  namesOf_append _ _

/-- A join works on an equality with its left attribute on the left and its right attribute on
the right. -/
theorem exists_join_iff {p : Predicate} {l r : Relation} :
    (∃ s, join p l r = .ok s) ↔ ∃ a b, p = .equality a b ∧ l.Has a.name ∧ r.Has b.name := by
  cases p with
  | literal a v => simp [join]
  | equality a b =>
    simp only [join_equality_eq_ok_iff, Predicate.equality.injEq, Relation.has_iff_attribute?]
    constructor
    · rintro ⟨_, x, hx, y, hy, _⟩
      exact ⟨a, b, ⟨rfl, rfl⟩, ⟨x, hx⟩, ⟨y, hy⟩⟩
    · rintro ⟨_, _, ⟨rfl, rfl⟩, ⟨x, hx⟩, ⟨y, hy⟩⟩
      exact ⟨_, x, hx, y, hy, rfl⟩

theorem names_join {p : Predicate} {l r s : Relation} (h : join p l r = .ok s) :
    s.names = l.names ++ r.names.filter (· ∉ l.names) := by
  cases p with
  | literal a v => simp [join] at h
  | equality a b =>
    obtain ⟨_, _, _, _, rfl⟩ := join_equality_eq_ok_iff.1 h
    show namesOf (setValues _ _ _) = _
    rw [namesOf_setValues, namesOf_append]
    exact congrArg _ (namesOf_filter (fun n => ¬ l.Has n) _)

end Estimate

/-! ### Base relations without a common name -/

namespace BaseRelation

/-- The relations have no attribute name in common. -/
def Apart (r s : BaseRelation) : Prop := ∀ n ∈ r.relation.names, n ∉ s.relation.names

instance : DecidableRel Apart := fun r s =>
  inferInstanceAs (Decidable (∀ n ∈ r.relation.names, n ∉ s.relation.names))

theorem Apart.symm {r s : BaseRelation} (h : r.Apart s) : s.Apart r := fun n hn hn' => h n hn' hn

instance : Std.Symm Apart := ⟨fun _ _ => Apart.symm⟩

theorem pairwise_apart_of_perm {rs ss : List BaseRelation} (hp : rs.Perm ss)
    (h : rs.Pairwise Apart) : ss.Pairwise Apart :=
  hp.pairwise h Apart.symm

theorem pairwise_apart_append {rs ss : List BaseRelation} :
    (rs ++ ss).Pairwise Apart ↔ rs.Pairwise Apart ∧ ss.Pairwise Apart ∧
      (rs.flatMap fun r => r.relation.names).Disjoint (ss.flatMap fun r => r.relation.names) := by
  rw [List.pairwise_append]
  refine and_congr_right fun _ => and_congr_right fun _ => ?_
  simp only [List.Disjoint, List.mem_flatMap]
  exact ⟨fun h n ⟨r, hr, hn⟩ ⟨s, hs, hn'⟩ => h r hr s hs n hn hn',
    fun h r hr s hs n hn hn' => h ⟨r, hr, hn⟩ ⟨s, hs, hn'⟩⟩

end BaseRelation

/-! ### Visible names -/

/-- The names of the attributes a predicate compares. -/
def Predicate.names (p : Predicate) : List String := namesOf p.attributes

theorem Predicate.within_iff {p : Predicate} {r : Relation} :
    p.Within r ↔ ∀ n ∈ p.names, n ∈ r.names := by
  simp [Within, names, namesOf, Relation.Has]

namespace Plan

/-- The attribute names a plan puts out, in order. -/
def visible : Plan → List String
  | scan r _ => r.relation.names
  | select _ i _ => i.visible
  | project as i _ => i.visible.filter (· ∈ namesOf as)
  | product l r _ => l.visible ++ r.visible
  | join _ l r _ => l.visible ++ r.visible.filter (· ∉ l.visible)

/-- Every name that a node uses is put out by its inputs: a selection finds the names of its
predicate, a projection the names it lists, and a join is by an equality of a left name and a
right name. -/
def Resolved : Plan → Prop
  | scan _ _ => True
  | select p i _ => i.Resolved ∧ ∀ n ∈ p.names, n ∈ i.visible
  | project as i _ => i.Resolved ∧ ∀ n ∈ namesOf as, n ∈ i.visible
  | product l r _ => l.Resolved ∧ r.Resolved
  | join p l r _ => l.Resolved ∧ r.Resolved ∧
      ∃ a b, p = .equality a b ∧ a.name ∈ l.visible ∧ b.name ∈ r.visible

section Outcome

variable {i l r : Plan} {o : Option Relation} {s : Relation}

/-! A node is estimated if its inputs are and its formula then gives a result. -/

theorem outcome_select_eq_ok_iff {q : Predicate} : (select q i o).estimate.outcome = .ok s ↔
    ∃ t, i.estimate.outcome = .ok t ∧ Estimate.select q t = .ok s := by
  rw [outcome_select, bind_eq_ok_iff]

theorem outcome_project_eq_ok_iff {as : List Attribute} :
    (project as i o).estimate.outcome = .ok s ↔
      ∃ t, i.estimate.outcome = .ok t ∧ Estimate.project as t = .ok s := by
  rw [outcome_project, bind_eq_ok_iff]

theorem outcome_product_eq_ok_iff : (product l r o).estimate.outcome = .ok s ↔
    ∃ t, l.estimate.outcome = .ok t ∧ ∃ u, r.estimate.outcome = .ok u ∧
      s = Estimate.product t u := by
  simp only [outcome_product, bind_eq_ok_iff, Except.ok.injEq, eq_comm (b := s)]

theorem outcome_join_eq_ok_iff {q : Predicate} : (join q l r o).estimate.outcome = .ok s ↔
    ∃ t, l.estimate.outcome = .ok t ∧ ∃ u, r.estimate.outcome = .ok u ∧
      Estimate.join q t u = .ok s := by
  simp only [outcome_join, bind_eq_ok_iff]

end Outcome

/-- The estimate of a plan has the visible names. -/
theorem names_of_outcome {p : Plan} {s : Relation} (h : p.estimate.outcome = .ok s) :
    s.names = p.visible := by
  induction p generalizing s with
  | scan r o =>
    rw [outcome_scan] at h
    cases h
    rfl
  | select q i o ih =>
    obtain ⟨t, hi, h⟩ := outcome_select_eq_ok_iff.1 h
    exact (Estimate.names_select h).trans (ih hi)
  | project as i o ih =>
    obtain ⟨t, hi, h⟩ := outcome_project_eq_ok_iff.1 h
    rw [Estimate.names_project h, ih hi]
    rfl
  | product l r o ihl ihr =>
    obtain ⟨t, hl, u, hr, rfl⟩ := outcome_product_eq_ok_iff.1 h
    rw [Estimate.names_product, ihl hl, ihr hr]
    rfl
  | join q l r o ihl ihr =>
    obtain ⟨t, hl, u, hr, h⟩ := outcome_join_eq_ok_iff.1 h
    rw [Estimate.names_join h, ihl hl, ihr hr]
    rfl

/-- The plans that can be estimated are the resolved ones. -/
theorem resolved_iff {p : Plan} : p.Resolved ↔ ∃ s, p.estimate.outcome = .ok s := by
  induction p with
  | scan r o => simp [Resolved]
  | select q i o ih =>
    rw [Resolved, ih, outcome_select]
    cases hi : i.estimate.outcome with
    | error e => simp [bind, Except.bind]
    | ok t =>
      rw [← names_of_outcome hi, ← Predicate.within_iff, ← Estimate.exists_select_iff]
      exact and_iff_right ⟨t, rfl⟩
  | project as i o ih =>
    rw [Resolved, ih, outcome_project]
    cases hi : i.estimate.outcome with
    | error e => simp [bind, Except.bind]
    | ok t =>
      rw [← names_of_outcome hi]
      have hp : (∃ s, Estimate.project as t = .ok s) ↔ ∀ n ∈ namesOf as, n ∈ t.names := by
        simp [Estimate.project_eq_ok_iff, namesOf, Relation.Has]
      exact (and_iff_right ⟨t, rfl⟩).trans hp.symm
  | product l r o ihl ihr =>
    rw [Resolved, ihl, ihr, outcome_product]
    cases l.estimate.outcome <;> cases r.estimate.outcome <;> simp [bind, Except.bind]
  | join q l r o ihl ihr =>
    rw [Resolved, ihl, ihr, outcome_join]
    cases hl : l.estimate.outcome with
    | error e => simp [bind, Except.bind]
    | ok t =>
      cases hr : r.estimate.outcome with
      | error e => simp [bind, Except.bind]
      | ok u =>
        rw [← names_of_outcome hl, ← names_of_outcome hr]
        exact ((and_iff_right ⟨t, rfl⟩).trans (and_iff_right ⟨u, rfl⟩)).trans
          Estimate.exists_join_iff.symm

/-! ### The relation a resolved plan is estimated to put out -/

/-- The relation estimated for a plan; an empty one if the plan cannot be estimated. -/
def schema (p : Plan) : Relation :=
  match p.estimate.outcome with
  | .ok s => s
  | .error _ => ⟨0, []⟩

theorem schema_of_outcome {p : Plan} {s : Relation} (h : p.estimate.outcome = .ok s) :
    p.schema = s := by
  rw [schema, h]

theorem Resolved.outcome {p : Plan} (h : p.Resolved) : p.estimate.outcome = .ok p.schema := by
  obtain ⟨s, hs⟩ := resolved_iff.1 h
  rw [hs, schema_of_outcome hs]

theorem Resolved.names_schema {p : Plan} (h : p.Resolved) : p.schema.names = p.visible :=
  names_of_outcome h.outcome

/-! ### The names below a plan -/

/-- The names of the attributes of all base relations that are read. -/
def baseNames (p : Plan) : List String := p.scans.flatMap fun r => r.relation.names

/-- No two base relations that are read have an attribute name in common. -/
def Distinct (p : Plan) : Prop := p.scans.Pairwise BaseRelation.Apart

instance (p : Plan) : Decidable p.Distinct :=
  inferInstanceAs (Decidable (p.scans.Pairwise BaseRelation.Apart))

@[simp] theorem baseNames_scan (r : BaseRelation) (o : Option Relation) :
    (scan r o).baseNames = r.relation.names := by
  simp [baseNames, scans]

@[simp] theorem baseNames_project (as : List Attribute) (i : Plan) (o : Option Relation) :
    (project as i o).baseNames = i.baseNames := rfl

@[simp] theorem baseNames_product (l r : Plan) (o : Option Relation) :
    (product l r o).baseNames = l.baseNames ++ r.baseNames :=
  List.flatMap_append

@[simp] theorem baseNames_join (p : Predicate) (l r : Plan) (o : Option Relation) :
    (join p l r o).baseNames = l.baseNames ++ r.baseNames :=
  List.flatMap_append

/-- What is visible comes from a base relation. -/
theorem mem_baseNames_of_mem_visible {p : Plan} {n : String} (h : n ∈ p.visible) :
    n ∈ p.baseNames := by
  induction p with
  | scan r o => rwa [baseNames_scan]
  | select q i o ih => exact ih h
  | project as i o ih => exact ih (List.mem_filter.1 h).1
  | product l r o ihl ihr =>
    rw [baseNames_product, List.mem_append]
    exact (List.mem_append.1 h).imp ihl ihr
  | join q l r o ihl ihr =>
    rw [baseNames_join, List.mem_append]
    exact (List.mem_append.1 h).imp ihl fun h => ihr (List.mem_filter.1 h).1

/-- A join shows the names of both its inputs. -/
theorem mem_visible_join {p : Predicate} {l r : Plan} {o : Option Relation} {n : String} :
    n ∈ (join p l r o).visible ↔ n ∈ l.visible ∨ n ∈ r.visible := by
  simp only [visible, List.mem_append, List.mem_filter, decide_eq_true_eq]
  by_cases h : n ∈ l.visible <;> simp [h]

theorem mem_visible_product {l r : Plan} {o : Option Relation} {n : String} :
    n ∈ (product l r o).visible ↔ n ∈ l.visible ∨ n ∈ r.visible :=
  List.mem_append

theorem mem_visible_project {as : List Attribute} {i : Plan} {o : Option Relation} {n : String} :
    n ∈ (project as i o).visible ↔ n ∈ i.visible ∧ n ∈ namesOf as := by
  simp [visible]

end Plan

end RelPlan
