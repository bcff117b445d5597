import RelPlan.Proofs.Catalogue.Valid
import RelPlan.Proofs.Plan.Contents
import RelPlan.Query.Canonical

/-!
# What a canonical plan is like

The canonical plan of a query reads relations of the catalogue, each of them once
(`Query.Picked`), and uses only names of their attributes. So it can be estimated
(`Query.resolved_of_plan`), and if the catalogue is valid, no two relations that it reads have an
attribute name in common (`Query.distinct_of_plan`). Its parts are those that the query lists, in
the same order (`Query.canonical_of_plan`).
-/

namespace RelPlan

/-! ### Products of scans -/

namespace Plan

variable {x : Plan} {rs : List BaseRelation}

theorem scans_foldl_times (rs : List BaseRelation) (x : Plan) :
    ((rs.map read).foldl times x).scans = x.scans ++ rs := by
  induction rs generalizing x with
  | nil => simp
  | cons r rs ih => simp [ih, scans]

theorem visible_foldl_times (rs : List BaseRelation) (x : Plan) :
    ((rs.map read).foldl times x).visible =
      x.visible ++ rs.flatMap fun r => r.relation.names := by
  induction rs generalizing x with
  | nil => simp
  | cons r rs ih => simp [ih, visible]

theorem Resolved.foldl_times (h : x.Resolved) : ((rs.map read).foldl times x).Resolved := by
  induction rs generalizing x with
  | nil => exact h
  | cons r rs ih => exact ih ⟨h, trivial⟩

theorem Bare.foldl_times (h : x.Bare) : ((rs.map read).foldl times x).Bare := by
  induction rs generalizing x with
  | nil => exact h
  | cons r rs ih => exact ih ⟨rfl, h, rfl⟩

@[simp] theorem predicates_foldl_times (rs : List BaseRelation) (x : Plan) :
    ((rs.map read).foldl times x).predicates = x.predicates := by
  induction rs generalizing x with
  | nil => rfl
  | cons r rs ih => simp [ih, predicates]

theorem Unnarrowed.foldl_times (h : x.Unnarrowed) : ((rs.map read).foldl times x).Unnarrowed := by
  induction rs generalizing x with
  | nil => exact h
  | cons r rs ih => exact ih ⟨h, trivial⟩

@[simp] theorem containsJoin_foldl_times (rs : List BaseRelation) (x : Plan) :
    ((rs.map read).foldl times x).containsJoin = x.containsJoin := by
  induction rs generalizing x with
  | nil => rfl
  | cons r rs ih => simp [ih, containsJoin]

@[simp] theorem containsJoin_foldl_filtered (ps : List Predicate) (x : Plan) :
    (ps.foldl filtered x).containsJoin = x.containsJoin := by
  induction ps generalizing x with
  | nil => rfl
  | cons p ps ih => exact ih (x.filtered p)

@[simp] theorem containsJoin_foldl_narrowed (lists : List (List Attribute)) (x : Plan) :
    (lists.foldl narrowed x).containsJoin = x.containsJoin := by
  induction lists generalizing x with
  | nil => rfl
  | cons as lists ih => exact ih (x.narrowed as)

/-- Projections on top are not inner ones. -/
@[simp] theorem innerProjections_foldl_narrowed (lists : List (List Attribute)) (x : Plan) :
    (lists.foldl narrowed x).parts.innerProjections = x.parts.innerProjections := by
  induction lists generalizing x with
  | nil => rfl
  | cons as lists ih => exact ih (x.narrowed as)

end Plan

namespace Query

variable {c : Catalogue} {q : Query} {p : Plan} {rs found : List BaseRelation} {name : String}
  {ns : List String}

theorem scanAll_eq_ok (h : scanAll rs = .ok p) :
    p.Resolved ∧ p.Bare ∧ p.scans = rs ∧
      p.visible = rs.flatMap fun r => r.relation.names := by
  cases rs with
  | nil => cases h
  | cons r rs =>
    cases h
    refine ⟨Plan.Resolved.foldl_times trivial, Plan.Bare.foldl_times rfl, ?_, ?_⟩
    · rw [Plan.scans_foldl_times]
      rfl
    · rw [Plan.visible_foldl_times]
      rfl

/-- A product of scans has no other parts. -/
theorem contents_of_scanAll (h : scanAll rs = .ok p) :
    p.containsJoin = false ∧ p.predicates = [] ∧ p.Unnarrowed := by
  cases rs with
  | nil => cases h
  | cons r rs =>
    cases h
    exact ⟨Plan.containsJoin_foldl_times rs _, Plan.predicates_foldl_times rs _,
      Plan.Unnarrowed.foldl_times trivial⟩

/-! ### Names that are looked up -/

/-- The relations are in the catalogue, and no two of them have the same name. -/
structure Picked (c : Catalogue) (rs : List BaseRelation) : Prop where
  /-- Every relation is in the catalogue. -/
  mem : ∀ r ∈ rs, r ∈ c.relations
  /-- No name occurs twice. -/
  nodup : (rs.map BaseRelation.name).Nodup

/-- One more relation is picked. -/
theorem Picked.append {r : BaseRelation} (h : Picked c rs) (hr : r ∈ c.relations)
    (hnew : ∀ s ∈ rs, s.name ≠ r.name) : Picked c (rs ++ [r]) where
  mem := by
    intro s hs
    rcases List.mem_append.1 hs with hs | hs
    · exact h.mem s hs
    · obtain rfl := List.mem_singleton.1 hs
      exact hr
  nodup := by
    rw [List.map_append, List.nodup_append]
    refine ⟨h.nodup, List.nodup_singleton _, ?_⟩
    intro m hm n hn
    obtain ⟨s, hs, rfl⟩ := List.mem_map.1 hm
    obtain rfl := List.mem_singleton.1 hn
    exact hnew s hs

theorem Picked.pairwise_apart (h : Picked c rs) (hc : c.Valid) :
    rs.Pairwise BaseRelation.Apart := by
  refine List.Pairwise.imp_of_mem ?_ (List.pairwise_map.1 h.nodup)
  intro r s hr hs hne
  exact hc.apart (h.mem r hr) (h.mem s hs) fun he => hne (congrArg _ he)

/-- Relations of a catalogue without repeated names have no repeated names either. -/
theorem Picked.nodup_flatMap (h : Picked c rs) (hc : c.attributeNames.Nodup) :
    (rs.flatMap fun r => r.relation.names).Nodup := by
  obtain ⟨ss, hperm, hsub⟩ := (List.Nodup.of_map _ h.nodup).subperm h.mem
  exact (hperm.flatMap_right _).nodup_iff.1 (hc.sublist (hsub.flatMap _))

/-- One more relation that a query lists. -/
def pick (c : Catalogue) (found : List BaseRelation) (name : String) :
    Except PlanError (List BaseRelation) :=
  if name ∈ found.map BaseRelation.name then .error (.duplicateRelation name)
  else
    match c.relation? name with
    | none => .error (.unknownRelation name)
    | some r => .ok (found ++ [r])

theorem resolveRelations_eq (c : Catalogue) (ns : List String) :
    resolveRelations c ns = ns.foldlM (pick c) [] := by
  unfold resolveRelations
  congr 1
  funext found name
  refine if_congr (by simp) rfl ?_
  cases c.relation? name <;> rfl

theorem pick_eq_ok (h : pick c found name = .ok rs) :
    name ∉ found.map BaseRelation.name ∧
      ∃ r ∈ c.relations, r.name = name ∧ rs = found ++ [r] := by
  unfold pick at h
  split_ifs at h with hnew
  split at h
  · cases h
  · next r hr =>
    cases h
    exact ⟨hnew, r, List.mem_of_find?_eq_some hr, by simpa using List.find?_some hr, rfl⟩

theorem names_of_resolveRelations (h : resolveRelations c ns = .ok rs) :
    rs.map BaseRelation.name = ns := by
  -- one relation of each name is put behind those that were found before
  have hfrom : ∀ found, ns.foldlM (pick c) found = .ok rs →
      rs.map BaseRelation.name = found.map BaseRelation.name ++ ns := by
    clear h
    induction ns with
    | nil =>
      intro found h
      cases h
      exact (List.append_nil _).symm
    | cons name ns ih =>
      intro found h
      rw [List.foldlM_cons, bind_eq_ok_iff] at h
      obtain ⟨next, hnext, h⟩ := h
      obtain ⟨-, r, -, rfl, rfl⟩ := pick_eq_ok hnext
      rw [ih _ h, List.map_append, List.append_assoc]
      rfl
  rw [resolveRelations_eq] at h
  exact hfrom [] h

/-- The relations that a query lists are picked one by one. -/
theorem picked_of_resolveRelations (h : resolveRelations c ns = .ok rs) : Picked c rs := by
  have hstart : Picked c [] := ⟨nofun, .nil⟩
  rw [resolveRelations_eq] at h
  refine of_foldlM_eq_ok hstart ?_ h
  intro found hfound name _ next hnext
  obtain ⟨hnew, r, hr, rfl, rfl⟩ := pick_eq_ok hnext
  exact hfound.append hr fun s hs hsr => hnew (hsr ▸ List.mem_map_of_mem hs)

/-- The attribute of that name is one of the relations'. -/
def Denotes (rs : List BaseRelation) (name : String) (a : Attribute) : Prop :=
  a.name = name ∧ ∃ r ∈ rs, a ∈ r.relation.attributes

theorem denotes_of_resolveAttribute {a : Attribute} (h : resolveAttribute rs name = .ok a) :
    Denotes rs name a := by
  unfold resolveAttribute at h
  split at h
  · next b hb =>
    cases h
    obtain ⟨r, hr, ha⟩ := List.exists_of_findSome?_eq_some hb
    exact ⟨Relation.name_of_attribute? ha, r, hr, Relation.mem_of_attribute? ha⟩
  · cases h

/-- What a condition stands for: the same comparison, between attributes of the relations. -/
inductive Means (rs : List BaseRelation) : Condition → Predicate → Prop where
  /-- A comparison with a literal. -/
  | literal {name value : String} {a : Attribute} :
      Denotes rs name a → Means rs (.literal name value) (.literal a value)
  /-- A comparison of two attributes. -/
  | equality {left right : String} {a b : Attribute} :
      Denotes rs left a → Denotes rs right b → Means rs (.equality left right) (.equality a b)

theorem means_of_resolveCondition {k : Condition} {p : Predicate}
    (h : resolveCondition rs k = .ok p) : Means rs k p := by
  cases k with
  | literal name value =>
    obtain ⟨a, ha, h⟩ := bind_eq_ok_iff.1 h
    cases h
    exact .literal (denotes_of_resolveAttribute ha)
  | equality left right =>
    obtain ⟨a, ha, h⟩ := bind_eq_ok_iff.1 h
    obtain ⟨b, hb, h⟩ := bind_eq_ok_iff.1 h
    cases h
    exact .equality (denotes_of_resolveAttribute ha) (denotes_of_resolveAttribute hb)

theorem mem_flatMap_names_of_resolveAttribute {name : String} {a : Attribute}
    (h : resolveAttribute rs name = .ok a) : a.name ∈ rs.flatMap fun r => r.relation.names := by
  obtain ⟨-, r, hr, ha⟩ := denotes_of_resolveAttribute h
  exact List.mem_flatMap.2 ⟨r, hr, List.mem_map_of_mem ha⟩

/-- The predicate of a condition compares attributes of the relations. -/
theorem mem_flatMap_names_of_resolveCondition {k : Condition} {p : Predicate}
    (h : resolveCondition rs k = .ok p) :
    ∀ n ∈ p.names, n ∈ rs.flatMap fun r => r.relation.names := by
  cases k with
  | literal name value =>
    obtain ⟨a, ha, h⟩ := bind_eq_ok_iff.1 h
    cases h
    intro n hn
    obtain rfl := List.mem_singleton.1 hn
    exact mem_flatMap_names_of_resolveAttribute ha
  | equality left right =>
    obtain ⟨a, ha, h⟩ := bind_eq_ok_iff.1 h
    obtain ⟨b, hb, h⟩ := bind_eq_ok_iff.1 h
    cases h
    intro n hn
    rcases List.mem_pair.1 hn with rfl | rfl
    · exact mem_flatMap_names_of_resolveAttribute ha
    · exact mem_flatMap_names_of_resolveAttribute hb

/-! ### The plan -/

/-- A canonical plan is put together from relations of the catalogue, predicates on their
attributes, and at most one list of attributes. -/
theorem plan_eq_ok (h : q.plan c = .ok p) :
    ∃ rs scanned ps tops, resolveRelations c q.relations = .ok rs ∧ scanAll rs = .ok scanned ∧
      q.conditions.mapM (resolveCondition rs) = .ok ps ∧
      (q.attributes = none ∧ tops = [] ∨
        ∃ names as, q.attributes = some names ∧ names.mapM (resolveAttribute rs) = .ok as ∧
          tops = [as]) ∧
      p = tops.foldl Plan.narrowed (ps.foldl Plan.filtered scanned) := by
  simp only [plan, bind_eq_ok_iff] at h
  obtain ⟨rs, hrs, scanned, hscanned, ps, hps, h⟩ := h
  split at h
  · next hq =>
    cases h
    exact ⟨rs, scanned, ps, [], hrs, hscanned, hps, Or.inl ⟨hq, rfl⟩, rfl⟩
  · next names hq =>
    obtain ⟨as, has, h⟩ := bind_eq_ok_iff.1 h
    cases h
    exact ⟨rs, scanned, ps, [as], hrs, hscanned, hps, Or.inr ⟨names, as, hq, has, rfl⟩, rfl⟩

/-- Canonical plans carry no estimates. -/
theorem bare_of_plan (h : q.plan c = .ok p) : p.Bare := by
  obtain ⟨rs, scanned, ps, tops, -, hscanned, -, -, rfl⟩ := plan_eq_ok h
  exact (scanAll_eq_ok hscanned).2.1.foldl_filtered.foldl_narrowed

/-- Canonical plans can be estimated: the names in their predicates and projections were looked up
in the relations that they read. -/
theorem resolved_of_plan (h : q.plan c = .ok p) : p.Resolved := by
  obtain ⟨rs, scanned, ps, tops, -, hscanned, hps, htops, rfl⟩ := plan_eq_ok h
  obtain ⟨hresolved, -, -, hvisible⟩ := scanAll_eq_ok hscanned
  have hfiltered : (ps.foldl Plan.filtered scanned).Resolved := by
    rw [Plan.resolved_foldl_filtered, hvisible]
    refine ⟨hresolved, ?_⟩
    intro p hp
    obtain ⟨k, -, hk⟩ := exists_of_mapM_eq_ok hps p hp
    exact mem_flatMap_names_of_resolveCondition hk
  rcases htops with ⟨-, rfl⟩ | ⟨names, as, -, has, rfl⟩
  · exact hfiltered
  · refine ⟨hfiltered, ?_⟩
    rw [Plan.visible_foldl_filtered, hvisible]
    intro n hn
    obtain ⟨a, ha, rfl⟩ := List.mem_map.1 hn
    obtain ⟨name, -, hname⟩ := exists_of_mapM_eq_ok has a ha
    exact mem_flatMap_names_of_resolveAttribute hname

theorem picked_scans_of_plan (h : q.plan c = .ok p) : Picked c p.scans := by
  obtain ⟨rs, scanned, ps, tops, hrs, hscanned, -, -, rfl⟩ := plan_eq_ok h
  obtain ⟨-, -, hscans, -⟩ := scanAll_eq_ok hscanned
  rw [Plan.scans_foldl_narrowed, Plan.scans_foldl_filtered, hscans]
  exact picked_of_resolveRelations hrs

/-- Over a valid catalogue, no two relations that a canonical plan reads have an attribute name in
common. -/
theorem distinct_of_plan (hc : c.Valid) (h : q.plan c = .ok p) : p.Distinct :=
  (picked_scans_of_plan h).pairwise_apart hc

/-! ### The parts of the plan -/

/-- The parts of the plan are those that the query lists, in the same order, and the plan can be
estimated. -/
structure Canonical (c : Catalogue) (q : Query) (p : Plan) : Prop where
  /-- Nothing is joined. -/
  unjoined : p.containsJoin = false
  /-- No attribute name occurs twice in what is read. -/
  nodup : p.baseNames.Nodup
  /-- What is read are relations of the catalogue. -/
  mem : ∀ r ∈ p.parts.scans, r ∈ c.relations
  /-- They are those that the query lists, in this order. -/
  relations : p.parts.scans.map BaseRelation.name = q.relations
  /-- There is one predicate for each condition, in this order. -/
  predicates : List.Forall₂ (Means p.parts.scans) q.conditions p.parts.predicates
  /-- A query that lists no attributes has no projection. -/
  all : q.attributes = none → p.parts.projections = []
  /-- A query that lists attributes has one projection, to these. -/
  listed : ∀ ns, q.attributes = some ns →
    ∃ as, p.parts.projections = [as] ∧ List.Forall₂ (Denotes p.parts.scans) ns as
  /-- There is no other projection. -/
  inner : p.parts.innerProjections = 0
  /-- The plan can be estimated. -/
  estimable : ∃ s, p.estimate.outcome = .ok s

theorem canonical_of_plan (hc : c.attributeNames.Nodup) (h : q.plan c = .ok p) :
    Canonical c q p := by
  have hestimable := Plan.resolved_iff.1 (resolved_of_plan h)
  obtain ⟨rs, scanned, ps, tops, hrs, hscanned, hps, htops, rfl⟩ := plan_eq_ok h
  obtain ⟨-, -, hscans, -⟩ := scanAll_eq_ok hscanned
  obtain ⟨hunjoined, hpredicates, hunnarrowed⟩ := contents_of_scanAll hscanned
  obtain ⟨hprojections, hinner⟩ :=
    Plan.unnarrowed_iff_parts.1 (Plan.unnarrowed_foldl_filtered ps scanned |>.2 hunnarrowed)
  have hpicked := picked_of_resolveRelations hrs
  have hparts : (tops.foldl Plan.narrowed (ps.foldl Plan.filtered scanned)).parts.scans = rs := by
    rw [Plan.scans_parts, Plan.scans_foldl_narrowed, Plan.scans_foldl_filtered, hscans]
  have hlists : (tops.foldl Plan.narrowed (ps.foldl Plan.filtered scanned)).parts.projections =
      tops := by
    rw [Plan.projections_parts, Plan.projections_foldl_narrowed, hprojections, List.nil_append]
  refine ⟨?_, ?_, ?_, ?_, ?_, ?_, ?_, ?_, hestimable⟩
  · rw [Plan.containsJoin_foldl_narrowed, Plan.containsJoin_foldl_filtered, hunjoined]
  · rw [Plan.baseNames, ← Plan.scans_parts, hparts]
    exact hpicked.nodup_flatMap hc
  · rw [hparts]
    exact hpicked.mem
  · rw [hparts]
    exact names_of_resolveRelations hrs
  · rw [hparts, Plan.predicates_parts, Plan.predicates_foldl_narrowed,
      Plan.predicates_foldl_filtered, hpredicates, List.nil_append]
    exact (forall₂_of_mapM_eq_ok hps).imp fun _ _ => means_of_resolveCondition
  · intro hq
    rw [hlists]
    rcases htops with ⟨-, rfl⟩ | ⟨ns, as, hsome, -, -⟩
    · rfl
    · rw [hq] at hsome
      cases hsome
  · intro ns hq
    rw [hlists, hparts]
    rcases htops with ⟨hnone, -⟩ | ⟨ns', as, hsome, has, rfl⟩
    · rw [hq] at hnone
      cases hnone
    · rw [hq] at hsome
      cases hsome
      exact ⟨as, rfl, (forall₂_of_mapM_eq_ok has).imp fun _ _ => denotes_of_resolveAttribute⟩
  · rw [Plan.innerProjections_foldl_narrowed, hinner]

end Query

end RelPlan
