import RelPlan.Proofs.Optimise.Invariant

/-!
# The start of the search

Before its first step a search has one plan for every base relation, under the predicates that
were pushed onto it. If attribute names are distinct, no predicate fits two base relations, so
pushing neither loses nor doubles one (`predicates_initial_perm`), and the search is sound
(`Sound.initial`).
-/

namespace RelPlan

/-- Predicates that are stacked one by one, each with its report, make the stack. -/
theorem result_foldlM_filtered (event : Predicate → Plan → Event) (ps : List Predicate)
    (x : Plan) :
    (ps.foldlM (fun plan p => do
      Logged.report (event p plan)
      return plan.filtered p) x).result = .ok (ps.foldl Plan.filtered x) := by
  induction ps generalizing x with
  | nil => rfl
  | cons p ps ih =>
    rw [List.foldlM_cons, Logged.result_bind, Logged.result_bind, Logged.result_report]
    exact ih (x.filtered p)

theorem result_pushAll (x : Plan) (ps : List Predicate) :
    (pushAll x ps).result = .ok (ps.foldl Plan.filtered x) :=
  result_foldlM_filtered .pushed ps x

theorem result_stackUnplaced (x : Plan) (ps : List Predicate) :
    (stackUnplaced x ps).result = .ok (ps.foldl Plan.filtered x) :=
  result_foldlM_filtered (fun p _ => .unplaced p) ps x

theorem result_mapM {α β : Type} {f : α → Logged β} {g : α → β}
    (h : ∀ a, (f a).result = .ok (g a)) (as : List α) : (as.mapM f).result = .ok (as.map g) := by
  induction as with
  | nil => rfl
  | cons a as ih =>
    rw [List.mapM_cons, Logged.result_bind, h]
    show (as.mapM f >>= fun bs => pure (g a :: bs)).result = _
    rw [Logged.result_bind, ih]
    rfl

namespace Search

variable (options : Options) (scans : List BaseRelation) (ps : List Predicate)

/-- A base relation under the predicates it can evaluate alone. -/
def leaf (ps : List Predicate) (r : BaseRelation) : Plan :=
  (ps.filter fun p => p.Within r.relation).foldl Plan.filtered (.read r)

/-- The search before its first step. -/
def initial : Search :=
  if options.pushSelections then
    { combined := none
      pool := scans.map (leaf ps)
      pending := ps.filter fun p => ¬ ∃ r ∈ scans, p.Within r.relation }
  else { combined := none, pool := scans.map Plan.read, pending := ps }

theorem result_start : (start options scans ps).result = .ok (initial options scans ps) := by
  rw [start, initial]
  split
  · rw [Logged.result_bind, result_mapM (g := leaf ps) fun r => result_pushAll _ _]
    rfl
  · rfl

variable {options scans ps}

@[simp] theorem combined_initial : (initial options scans ps).combined = none := by
  unfold initial
  split <;> rfl

/-- What holds of every base relation under selections it can evaluate holds of every plan at hand
at the start. -/
theorem forall_mem_initial {P : Plan → Prop}
    (h : ∀ r ∈ scans, ∀ qs : List Predicate, (∀ q ∈ qs, q.Within r.relation) →
      P (qs.foldl Plan.filtered (.read r))) :
    ∀ x ∈ (initial options scans ps).plans, P x := by
  intro x hx
  unfold initial at hx
  split at hx
  · obtain ⟨r, hr, rfl⟩ := List.mem_map.1 hx
    exact h r hr _ fun q hq => by simpa using (List.mem_filter.1 hq).2
  · obtain ⟨r, hr, rfl⟩ := List.mem_map.1 hx
    exact h r hr [] nofun

theorem scans_leaf (ps : List Predicate) (r : BaseRelation) : (leaf ps r).scans = [r] :=
  Plan.scans_foldl_filtered _ _

@[simp] theorem scans_initial : (initial options scans ps).scans = scans := by
  unfold initial
  split
  · show (scans.map (leaf ps)).flatMap Plan.scans = scans
    simp only [List.flatMap_map, scans_leaf, List.flatMap_singleton']
  · show (scans.map Plan.read).flatMap Plan.scans = scans
    simp only [List.flatMap_map, Plan.scans, List.flatMap_singleton']

theorem baseNames_eq (s : Search) : s.baseNames = s.scans.flatMap fun r => r.relation.names := by
  rw [baseNames, Search.scans, List.flatMap_assoc]
  rfl

@[simp] theorem baseNames_initial :
    (initial options scans ps).baseNames = scans.flatMap fun r => r.relation.names := by
  rw [baseNames_eq, scans_initial]

@[simp] theorem length_plans_initial : (initial options scans ps).plans.length = scans.length := by
  unfold initial
  split <;> simp [plans]

/-- With distinct names every predicate is pushed onto one base relation at most. -/
theorem filter_within_perm (hd : scans.Pairwise BaseRelation.Apart) :
    (scans.flatMap (fun r => ps.filter fun p => p.Within r.relation) ++
      ps.filter fun p => ¬ ∃ r ∈ scans, p.Within r.relation).Perm ps := by
  induction scans with
  | nil => simp
  | cons r scans ih =>
    obtain ⟨hdj, hd⟩ := List.pairwise_cons.1 hd
    have hih := ih hd
    have hsplit := List.filter_append_perm (fun p : Predicate => decide (p.Within r.relation))
      (ps.filter fun p => ¬ ∃ r ∈ scans, p.Within r.relation)
    have hhere : ((ps.filter fun p => ¬ ∃ r ∈ scans, p.Within r.relation).filter
        fun p => p.Within r.relation) = ps.filter fun p => p.Within r.relation := by
      rw [List.filter_filter]
      refine List.filter_congr fun p _ => ?_
      rw [← Bool.decide_and, decide_eq_decide]
      refine and_iff_left_of_imp fun hp ⟨r', hr', hp'⟩ => ?_
      exact Predicate.Inside.not_of_disjoint (Predicate.within_iff.1 hp)
        (fun n hn hn' => hdj r' hr' n hn hn') (Predicate.within_iff.1 hp')
    have hrest : ((ps.filter fun p => ¬ ∃ r ∈ scans, p.Within r.relation).filter
        fun p => ¬ p.Within r.relation) =
          ps.filter fun p => ¬ ∃ r' ∈ r :: scans, p.Within r'.relation := by
      rw [List.filter_filter]
      refine List.filter_congr fun p _ => ?_
      rw [← Bool.decide_and, decide_eq_decide]
      simp only [List.mem_cons, exists_eq_or_imp, not_or]
    simp only [← decide_not] at hsplit
    rw [hhere, hrest] at hsplit
    rw [List.flatMap_cons, List.append_assoc]
    refine List.Perm.trans ?_ hih
    refine List.Perm.trans ?_ (hsplit.append_left _)
    rw [← List.append_assoc, ← List.append_assoc]
    exact List.perm_append_comm.append_right _

/-- Pushing predicates loses none of them and doubles none. -/
theorem predicates_initial_perm (hd : scans.Pairwise BaseRelation.Apart) :
    (initial options scans ps).predicates.Perm ps := by
  unfold initial
  split
  · have hleaf : ∀ r, (leaf ps r).predicates = ps.filter fun p => p.Within r.relation := fun r =>
      Plan.predicates_foldl_filtered _ _
    show ((scans.map (leaf ps)).flatMap Plan.predicates ++ _).Perm ps
    simp only [List.flatMap_map, hleaf]
    exact filter_within_perm hd
  · have hnil : (scans.map Plan.read).flatMap Plan.predicates = [] :=
      List.flatMap_eq_nil_iff.2 (by simp [Plan.predicates])
    show ((scans.map Plan.read).flatMap Plan.predicates ++ ps).Perm ps
    rw [hnil]
    exact .refl _

theorem unnarrowed_initial : ∀ x ∈ (initial options scans ps).plans, x.Unnarrowed :=
  forall_mem_initial fun _ _ qs _ => (Plan.unnarrowed_foldl_filtered qs _).2 trivial

theorem mem_of_mem_pending_initial {p : Predicate} (h : p ∈ (initial options scans ps).pending) :
    p ∈ ps := by
  unfold initial at h
  split at h
  · exact (List.mem_filter.1 h).1
  · exact h

/-- **Start**: a search for names of the base relations starts provided. -/
theorem Provided.initial {projections : List (List Attribute)}
    (hp : ∀ p ∈ ps, p.Inside (scans.flatMap fun r => r.relation.names))
    (hπ : ∀ as ∈ projections, ∀ n ∈ namesOf as, n ∈ scans.flatMap fun r => r.relation.names) :
    (initial options scans ps).Provided projections where
  resolved := forall_mem_initial fun r _ qs hqs =>
    Plan.resolved_foldl_filtered.2 ⟨trivial, fun q hq => Predicate.within_iff.1 (hqs q hq)⟩
  shown := by
    intro n hn
    have hbase : n ∈ (Search.initial options scans ps).baseNames := by
      rw [baseNames_initial]
      rcases needs_iff.1 hn with ⟨p, hpp, hn⟩ | ⟨as, has, hn⟩
      · exact hp p (mem_of_mem_pending_initial hpp) n hn
      · exact hπ as has n hn
    obtain ⟨x, hx, hn⟩ := List.mem_flatMap.1 hbase
    exact ⟨x, hx, (unnarrowed_initial x hx).mem_visible_iff.2 hn⟩

/-- **Start**: over distinct names the search starts sound. -/
theorem Sound.initial {projections : List (List Attribute)}
    (hd : scans.Pairwise BaseRelation.Apart)
    (hp : ∀ p ∈ ps, p.Inside (scans.flatMap fun r => r.relation.names))
    (hπ : ∀ as ∈ projections, ∀ n ∈ namesOf as, n ∈ scans.flatMap fun r => r.relation.names) :
    (initial options scans ps).Sound projections where
  resolved := (Provided.initial hp hπ).resolved
  distinct := by rwa [scans_initial]
  shown := (Provided.initial hp hπ).shown
  topless := forall_mem_initial fun r _ qs _ => Plan.projections_foldl_filtered qs _
  unnarrowed _ := unnarrowed_initial
  bare := forall_mem_initial fun r _ qs _ => Plan.Bare.foldl_filtered rfl

end Search

end RelPlan
