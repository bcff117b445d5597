import RelPlan.Proofs.Estimate.Unjoined

/-!
# Plans without projections

Deleting projections from a plan gives a plan that shows more attributes and is otherwise estimated
alike, if no two base relations share an attribute name: the tuple count is the same, and every
attribute that was visible keeps its value count (`Plan.exists_outcome_unprojected`). For a relation
that knows less than another in this sense, `Relation.Narrows`, every formula gives again a relation
that knows less. `Plan.withoutInnerProjections` deletes only the projections below some product or
join.
-/

namespace RelPlan

/-! ### Narrower relations -/

namespace Relation

/-- The relations have the same number of tuples, and `s` has every attribute that `r` finds under
a name. -/
def Narrows (r s : Relation) : Prop :=
  r.tuples = s.tuples ∧ ∀ n a, r.attribute? n = some a → s.attribute? n = some a

variable {r s t : Relation}

theorem Narrows.refl (r : Relation) : r.Narrows r := ⟨rfl, fun _ _ => id⟩

theorem Narrows.trans (h : r.Narrows s) (h' : s.Narrows t) : r.Narrows t :=
  ⟨h.1.trans h'.1, fun n a ha => h'.2 n a (h.2 n a ha)⟩

theorem Narrows.mem_names (h : r.Narrows s) {n : String} (hn : n ∈ r.names) : n ∈ s.names := by
  obtain ⟨a, ha⟩ := has_iff_attribute?.1 hn
  exact has_iff_attribute?.2 ⟨a, h.2 n a ha⟩

/-- Setting value counts does not depend on the attributes that are not found. -/
theorem Narrows.setValues {t : Count} (h : r.Narrows s) (ns : List String) (v : Count) :
    (Relation.mk t (setValues ns v r.attributes)).Narrows
      (Relation.mk t (setValues ns v s.attributes)) := by
  refine ⟨rfl, fun n a ha => ?_⟩
  rw [attribute?_setValues, Option.map_eq_some_iff] at ha ⊢
  obtain ⟨b, hb, hba⟩ := ha
  exact ⟨b, h.2 n b hb, hba⟩

end Relation

namespace Estimate

variable {p : Predicate} {l r s l' r' : Relation}

/-- A projection puts out less than its input. -/
theorem narrows_of_project {as : List Attribute} (h : project as r = .ok s) : s.Narrows r := by
  obtain ⟨-, rfl⟩ := project_eq_ok_iff.1 h
  refine ⟨rfl, fun n a ha => ?_⟩
  rw [Relation.attribute?, List.find?_filter] at ha
  have hn : a.name ∈ namesOf as ∧ a.name = n := by simpa using List.find?_some ha
  -- Every attribute under the name that is found has been kept.
  rw [Relation.attribute?, ← ha]
  congr 1
  funext b
  by_cases hb : b.name = n
  · simp [hb, ← hn.2, hn.1]
  · simp [hb]

/-- What can be selected from less can be selected from more. -/
theorem exists_select_of_narrows (h : r.Narrows s) (hr : select p r = .ok r') :
    ∃ s', select p s = .ok s' ∧ r'.Narrows s' := by
  cases p with
  | literal a v =>
    obtain ⟨x, hx, rfl⟩ := select_literal_eq_ok_iff.1 hr
    refine ⟨_, select_literal_eq_ok_iff.2 ⟨x, h.2 _ _ hx, rfl⟩, ?_⟩
    rw [h.1]
    exact h.setValues _ _
  | equality a b =>
    obtain ⟨x, hx, y, hy, rfl⟩ := select_equality_eq_ok_iff.1 hr
    refine ⟨_, select_equality_eq_ok_iff.2 ⟨x, h.2 _ _ hx, y, h.2 _ _ hy, rfl⟩, ?_⟩
    rw [h.1]
    exact h.setValues _ _

theorem narrows_product (hl : l.Narrows l') (hr : r.Narrows r')
    (hd : l'.names.Disjoint r'.names) : (product l r).Narrows (product l' r') := by
  refine ⟨congrArg₂ (· * ·) hl.1 hr.1, fun n a ha => ?_⟩
  rw [product, Relation.attribute?_append, Option.or_eq_some_iff] at ha ⊢
  rcases ha with ha | ⟨-, ha⟩
  · exact Or.inl (hl.2 n a ha)
  · refine Or.inr ⟨?_, hr.2 n a ha⟩
    rw [← Option.not_isSome_iff_eq_none]
    intro hs
    exact hd (Relation.isSome_attribute?_iff.1 hs)
      (Relation.has_iff_attribute?.2 ⟨a, hr.2 n a ha⟩)

/-- Over names that are apart, what can be joined from less can be joined from more. -/
theorem exists_join_of_narrows (hl : l.Narrows l') (hr : r.Narrows r')
    (hd : l'.names.Disjoint r'.names) (h : join p l r = .ok s) :
    ∃ s', join p l' r' = .ok s' ∧ s.Narrows s' := by
  have hd' : l.names.Disjoint r.names := fun n hn hn' => hd (hl.mem_names hn) (hr.mem_names hn')
  obtain ⟨a, b, hp, ha, hb⟩ := exists_join_iff.1 ⟨s, h⟩
  obtain ⟨s', hs'⟩ := exists_join_iff.2 ⟨a, b, hp, hl.mem_names ha, hr.mem_names hb⟩
  -- A join is a selection on a product.
  obtain ⟨t, ht, hst⟩ := exists_select_of_narrows (narrows_product hl hr hd) (select_product hd' h)
  rw [select_product hd hs', Except.ok.injEq] at ht
  exact ⟨s', hs', ht ▸ hst⟩

end Estimate

namespace Plan

/-! ### Deleting projections -/

/-- The plan without its projections. -/
def unprojected : Plan → Plan
  | scan r o => scan r o
  | select p i o => select p i.unprojected o
  | project _ i _ => i.unprojected
  | product l r o => product l.unprojected r.unprojected o
  | join p l r o => join p l.unprojected r.unprojected o

/-- The plan without the projections below a product or join. -/
def withoutInnerProjections : Plan → Plan
  | scan r o => scan r o
  | select p i o => select p i.withoutInnerProjections o
  | project as i o => project as i.withoutInnerProjections o
  | product l r o => product l.unprojected r.unprojected o
  | join p l r o => join p l.unprojected r.unprojected o

@[simp] theorem scans_unprojected (p : Plan) : p.unprojected.scans = p.scans := by
  induction p <;> simp_all [unprojected, scans]

@[simp] theorem baseNames_unprojected (p : Plan) : p.unprojected.baseNames = p.baseNames := by
  rw [baseNames, scans_unprojected, baseNames]

@[simp] theorem unprojected_unprojected (p : Plan) :
    p.unprojected.unprojected = p.unprojected := by
  induction p <;> simp_all [unprojected]

/-- The projections below products and joins are all there are, if none is above them. -/
theorem withoutInnerProjections_of_projections_eq_nil {p : Plan} (h : p.projections = []) :
    p.withoutInnerProjections = p.unprojected := by
  induction p with
  | scan r o => rfl
  | select q i o ih => exact congrArg (select q · o) (ih h)
  | project as i o ih => exact absurd h (by simp [projections])
  | product l r o => rfl
  | join q l r o => rfl

@[simp] theorem unprojected_foldl_filtered (ps : List Predicate) (x : Plan) :
    (ps.foldl filtered x).unprojected = ps.foldl filtered x.unprojected :=
  (List.foldl_hom unprojected fun _ _ => rfl).symm

@[simp] theorem unprojected_foldl_narrowed (lists : List (List Attribute)) (x : Plan) :
    (lists.foldl narrowed x).unprojected = x.unprojected := by
  induction lists generalizing x with
  | nil => rfl
  | cons as lists ih => exact ih (x.narrowed as)

theorem withoutInnerProjections_foldl_filtered (ps : List Predicate) (x : Plan) :
    (ps.foldl filtered x).withoutInnerProjections =
      ps.foldl filtered x.withoutInnerProjections :=
  (List.foldl_hom withoutInnerProjections fun _ _ => rfl).symm

theorem withoutInnerProjections_foldl_narrowed (lists : List (List Attribute)) (x : Plan) :
    (lists.foldl narrowed x).withoutInnerProjections =
      lists.foldl narrowed x.withoutInnerProjections :=
  (List.foldl_hom withoutInnerProjections fun _ _ => rfl).symm

/-! ### What projections do to estimates -/

/-- Inputs without a common name put out, with or without projections, relations without one. -/
theorem disjoint_names_of_outcome {l r : Plan} (hd : l.baseNames.Disjoint r.baseNames)
    {a b : Relation} (hl : l.unprojected.estimate.outcome = .ok a)
    (hr : r.unprojected.estimate.outcome = .ok b) : a.names.Disjoint b.names := by
  rw [names_of_outcome hl, names_of_outcome hr]
  intro n hnl hnr
  refine hd (a := n) ?_ ?_
  · simpa using mem_baseNames_of_mem_visible hnl
  · simpa using mem_baseNames_of_mem_visible hnr

/-- **Projections**: over distinct names a plan that can be estimated can be estimated without its
projections, at the same number of tuples and with the same value counts, and shows no less. -/
theorem exists_outcome_unprojected {p : Plan} {s : Relation} (hd : p.Distinct)
    (h : p.estimate.outcome = .ok s) :
    ∃ t, p.unprojected.estimate.outcome = .ok t ∧ s.Narrows t := by
  induction p generalizing s with
  | scan r o => exact ⟨s, h, .refl s⟩
  | select q i o ih =>
    obtain ⟨r, hi, hs⟩ := outcome_select_eq_ok_iff.1 h
    obtain ⟨t, ht, hrt⟩ := ih hd hi
    obtain ⟨u, hu, hsu⟩ := Estimate.exists_select_of_narrows hrt hs
    refine ⟨u, ?_, hsu⟩
    rw [unprojected, outcome_select, ht]
    exact hu
  | project as i o ih =>
    obtain ⟨r, hi, hs⟩ := outcome_project_eq_ok_iff.1 h
    obtain ⟨t, ht, hrt⟩ := ih hd hi
    exact ⟨t, ht, (Estimate.narrows_of_project hs).trans hrt⟩
  | product l r o ihl ihr =>
    obtain ⟨hdl, hdr, hdj⟩ := hd.of_product
    obtain ⟨a, hl, b, hr, rfl⟩ := outcome_product_eq_ok_iff.1 h
    obtain ⟨a', hl', haa⟩ := ihl hdl hl
    obtain ⟨b', hr', hbb⟩ := ihr hdr hr
    refine ⟨Estimate.product a' b', ?_, Estimate.narrows_product haa hbb
      (disjoint_names_of_outcome hdj hl' hr')⟩
    rw [unprojected, outcome_product, hl', hr']
    rfl
  | join q l r o ihl ihr =>
    obtain ⟨hdl, hdr, hdj⟩ := Distinct.of_product (o := o) hd
    obtain ⟨a, hl, b, hr, hs⟩ := outcome_join_eq_ok_iff.1 h
    obtain ⟨a', hl', haa⟩ := ihl hdl hl
    obtain ⟨b', hr', hbb⟩ := ihr hdr hr
    obtain ⟨t, ht, hst⟩ := Estimate.exists_join_of_narrows haa hbb
      (disjoint_names_of_outcome hdj hl' hr') hs
    refine ⟨t, ?_, hst⟩
    rw [unprojected, outcome_join, hl', hr']
    exact ht

/-- Plans that differ in their projections alone are estimated at the same number of tuples. -/
theorem Resolved.tuples_eq_of_unprojected_eq {p q : Plan} (hp : p.Resolved) (hq : q.Resolved)
    (hdp : p.Distinct) (hdq : q.Distinct) (h : p.unprojected = q.unprojected) :
    p.schema.tuples = q.schema.tuples := by
  obtain ⟨s, hs, hps⟩ := exists_outcome_unprojected hdp hp.outcome
  obtain ⟨t, ht, hqt⟩ := exists_outcome_unprojected hdq hq.outcome
  rw [h, ht, Except.ok.injEq] at hs
  rw [hps.1, hqt.1, hs]

end Plan

end RelPlan
