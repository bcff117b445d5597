import RelPlan.Proofs.Optimise.Placement

/-!
# Candidates of resolved inputs

The candidate of resolved inputs can be written down without the steps that compute it
(`Situation.result_candidate_eq`): each input is narrowed to its `side`, and the two sides are
combined by the placement of the pending predicates. A side reads what its input reads and keeps
every needed attribute its input shows (`mem_visible_side`). For inputs without a common name the
candidate always comes about (`Situation.result_candidate`).
-/

namespace RelPlan.Situation

variable (s : Situation)

/-! ### Sides -/

/-- An input as it is combined: narrowed, if that drops an attribute. -/
def side (x : Plan) : Plan :=
  match s.retained? x.schema with
  | some kept => x.narrowed kept
  | none => x

theorem retained?_eq_some {schema : Relation} {kept : List Attribute}
    (h : s.retained? schema = some kept) :
    ∃ needed, s.needed? = some needed ∧
      kept = schema.attributes.filter fun a => a.name ∈ namesOf needed := by
  unfold retained? at h
  cases hn : s.needed? with
  | none => rw [hn] at h; cases h
  | some needed =>
    rw [hn] at h
    dsimp only at h
    split at h
    · cases h
    · exact ⟨needed, rfl, (Option.some.inj h).symm⟩

theorem retained?_of_needed?_none (h : s.needed? = none) (schema : Relation) :
    s.retained? schema = none := by
  rw [retained?, h]

/-- What a side does to an input holds if it holds of the input and of the input narrowed to the
needed ones of its attributes. -/
theorem side_cases {P : Plan → Prop} {x : Plan} (h : P x)
    (hp : ∀ needed, s.needed? = some needed →
      P (x.narrowed (x.schema.attributes.filter fun a => a.name ∈ namesOf needed))) :
    P (s.side x) := by
  unfold side
  cases hk : s.retained? x.schema with
  | none => exact h
  | some kept =>
    obtain ⟨needed, hn, rfl⟩ := s.retained?_eq_some hk
    exact hp needed hn

theorem side_of_needed?_none (h : s.needed? = none) (x : Plan) : s.side x = x := by
  rw [side, s.retained?_of_needed?_none h]

@[simp] theorem scans_side (x : Plan) : (s.side x).scans = x.scans :=
  s.side_cases (P := fun y => y.scans = x.scans) rfl fun _ _ => rfl

@[simp] theorem baseNames_side (x : Plan) : (s.side x).baseNames = x.baseNames := by
  rw [Plan.baseNames, scans_side, Plan.baseNames]

@[simp] theorem predicates_side (x : Plan) : (s.side x).predicates = x.predicates :=
  s.side_cases (P := fun y => y.predicates = x.predicates) rfl fun _ _ => rfl

theorem bare_side {x : Plan} (h : x.Bare) : (s.side x).Bare :=
  s.side_cases h fun _ _ => ⟨rfl, h⟩

variable {s} {x : Plan}

theorem mem_visible_of_side {n : String} (h : n ∈ (s.side x).visible) : n ∈ x.visible :=
  s.side_cases (P := fun y => n ∈ y.visible → n ∈ x.visible) id
    (fun _ _ h => (Plan.mem_visible_project.1 h).1) h

theorem resolved_side (h : x.Resolved) : (s.side x).Resolved := by
  refine s.side_cases h fun needed _ => ⟨h, fun n hn => ?_⟩
  rw [Estimate.namesOf_filter (· ∈ namesOf needed)] at hn
  rw [← h.names_schema]
  exact (List.mem_filter.1 hn).1

/-- A side shows what its input shows and what is needed. -/
theorem mem_visible_side (h : x.Resolved) {n : String} (hn : n ∈ x.visible)
    (hneed : ∀ needed, s.needed? = some needed → n ∈ namesOf needed) :
    n ∈ (s.side x).visible := by
  refine s.side_cases (P := fun y => n ∈ y.visible) hn fun needed hs => ?_
  rw [Plan.mem_visible_project, Estimate.namesOf_filter (· ∈ namesOf needed)]
  refine ⟨hn, List.mem_filter.2 ⟨?_, decide_eq_true (hneed needed hs)⟩⟩
  have := h.names_schema
  rw [Relation.names] at this
  rwa [this]

/-- Narrowing a resolved input gives its side. -/
theorem result_narrow (h : x.Resolved) :
    (s.narrow x).result = .ok (s.side x, (s.side x).schema) := by
  have hside : (s.side x).estimate.outcome = .ok (s.side x).schema := (resolved_side h).outcome
  refine Logged.result_bind_eq_ok_iff.2 ⟨x.schema, h.outcome, ?_⟩
  unfold side at hside ⊢
  cases hk : s.retained? x.schema with
  | none => rfl
  | some kept =>
    rw [hk] at hside
    exact Logged.result_bind_eq_ok_iff.2 ⟨_, hside, rfl⟩

/-! ### Combinations -/

variable (s) (left right : Plan)

/-- Where the pending predicates go when two inputs are combined. -/
def placement : Placement := place (s.side left).schema (s.side right).schema s.pending

/-- The pending predicates that two inputs leave pending. -/
def unplaced : List Predicate :=
  s.pending.filter fun p => ¬ p.Within ((s.side left).schema.beside (s.side right).schema)

/-- The predicates that are applied are taken out of the pending ones by their positions. -/
theorem eraseAll_applied_placement :
    Search.eraseAll (s.placement left right).applied s.pending = s.unplaced left right :=
  eraseAll_applied_place _ _ _

/-- A combination loses no pending predicate and applies none twice. -/
theorem unsided_placement_perm :
    (((s.placement left right).predicates ++ s.unplaced left right).map Predicate.unsided).Perm
      (s.pending.map Predicate.unsided) := by
  have hplace := unsided_place_perm (s.side left).schema (s.side right).schema s.pending
  have hsplit := List.filter_append_perm (fun p : Predicate =>
    decide (p.Within ((s.side left).schema.beside (s.side right).schema))) s.pending
  have hsplit := hsplit.map Predicate.unsided
  simp only [← decide_not] at hsplit
  rw [List.map_append] at hsplit ⊢
  exact (hplace.append_right _).trans hsplit

/-- The two inputs combined. -/
def combination : Plan := (s.placement left right).combine (s.side left) (s.side right)

/-- The combination as a candidate. -/
def costed : Candidate where
  plan := s.combination left right
  cost := (s.combination left right).schema.tuples
  applied := (s.placement left right).applied

@[simp] theorem scans_combination :
    (s.combination left right).scans = left.scans ++ right.scans := by
  rw [combination, Placement.scans_combine, scans_side, scans_side]

@[simp] theorem baseNames_combination :
    (s.combination left right).baseNames = left.baseNames ++ right.baseNames := by
  rw [combination, Placement.baseNames_combine, baseNames_side, baseNames_side]

theorem mem_baseNames_combination {x : Plan} (hx : x = left ∨ x = right) {n : String}
    (hn : n ∈ x.baseNames) : n ∈ (s.combination left right).baseNames := by
  rw [baseNames_combination, List.mem_append]
  rcases hx with rfl | rfl
  · exact Or.inl hn
  · exact Or.inr hn

@[simp] theorem predicates_combination :
    (s.combination left right).predicates =
      left.predicates ++ right.predicates ++ (s.placement left right).predicates := by
  rw [combination, Placement.predicates_combine, predicates_side, predicates_side]

@[simp] theorem projections_combination : (s.combination left right).projections = [] :=
  Placement.projections_combine _ _ _

variable {s left right}

theorem mem_visible_combination {n : String} :
    n ∈ (s.combination left right).visible ↔
      n ∈ (s.side left).visible ∨ n ∈ (s.side right).visible :=
  Placement.mem_visible_combine _ _ _

theorem bare_combination (hl : left.Bare) (hr : right.Bare) : (s.combination left right).Bare :=
  Placement.bare_combine _ (s.bare_side hl) (s.bare_side hr)

/-- Without projections nothing is narrowed. -/
theorem unnarrowed_combination (h : s.needed? = none) (hl : left.Unnarrowed)
    (hr : right.Unnarrowed) : (s.combination left right).Unnarrowed := by
  rw [combination, Placement.unnarrowed_combine, s.side_of_needed?_none h,
    s.side_of_needed?_none h]
  exact ⟨hl, hr⟩

theorem disjoint_side (hd : left.baseNames.Disjoint right.baseNames) :
    (s.side left).visible.Disjoint (s.side right).visible := fun _ hl hr =>
  hd (Plan.mem_baseNames_of_mem_visible (mem_visible_of_side hl))
    (Plan.mem_baseNames_of_mem_visible (mem_visible_of_side hr))

/-- Resolved inputs have a resolved combination unless the first pending predicate that links their
sides is lopsided. -/
theorem resolved_combination_iff (hl : left.Resolved) (hr : right.Resolved) :
    (s.combination left right).Resolved ↔
      ∀ p, s.pending.find? (fun p => p.Links (s.side left).schema (s.side right).schema) = some p →
        ¬ p.Lopsided (s.side left).schema (s.side right).schema :=
  Plan.resolved_combine_iff (resolved_side hl) (resolved_side hr) s.pending

/-- Resolved inputs without a common name have a resolved combination. -/
theorem resolved_combination (hl : left.Resolved) (hr : right.Resolved)
    (hd : left.baseNames.Disjoint right.baseNames) : (s.combination left right).Resolved :=
  (resolved_side hl).combine (resolved_side hr) (disjoint_side hd) _

/-- The candidate of resolved inputs is their combination, if that can be estimated. -/
theorem result_candidate_eq (hl : left.Resolved) (hr : right.Resolved) :
    (s.candidate left right).result =
      (s.combination left right).estimate.outcome.map fun output =>
        ⟨s.combination left right, output.tuples, (s.placement left right).applied⟩ := by
  rw [candidate, Logged.result_bind, result_narrow hl]
  show Logged.result (s.narrow right >>= _) = _
  rw [Logged.result_bind, result_narrow hr]
  show Logged.result ((s.combination left right).estimated >>= _) = _
  rw [Logged.result_bind, Plan.estimated, Estimation.result_logged]
  cases (s.combination left right).estimate.outcome <;> rfl

/-- Resolved inputs have a candidate exactly when their combination is resolved. -/
theorem candidate_eq_ok_iff (hl : left.Resolved) (hr : right.Resolved) {c : Candidate} :
    (s.candidate left right).result = .ok c ↔
      (s.combination left right).Resolved ∧ c = s.costed left right := by
  rw [result_candidate_eq hl hr]
  constructor
  · intro h
    cases ho : (s.combination left right).estimate.outcome with
    | error e =>
      rw [ho] at h
      cases h
    | ok output =>
      rw [ho] at h
      refine ⟨Plan.resolved_iff.2 ⟨output, ho⟩, ?_⟩
      rw [costed, Plan.schema_of_outcome ho]
      exact (Except.ok.inj h).symm
  · rintro ⟨hc, rfl⟩
    rw [hc.outcome]
    rfl

/-- The candidate of resolved inputs without a common name. -/
theorem result_candidate (hl : left.Resolved) (hr : right.Resolved)
    (hd : left.baseNames.Disjoint right.baseNames) :
    (s.candidate left right).result = .ok (s.costed left right) :=
  (candidate_eq_ok_iff hl hr).2 ⟨resolved_combination hl hr hd, rfl⟩

end RelPlan.Situation
