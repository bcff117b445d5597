import Mathlib.Data.List.Find
import RelPlan.Proofs.Optimise.Leftovers

/-!
# The orientation of joins

The first pending predicate that links the two sides of a candidate becomes the predicate of a join,
turned if the left side does not have its left attribute. Where the sides have attribute names in
common this test is too weak: a predicate that is `Lopsided` links the sides by its right attribute
on the left, is not turned, and then the join does not find that attribute on the right
(`Predicate.Links.exists_join_oriented_iff`). So the candidate fails, and with it the step
(`Situation.candidate_eq_error_iff`).

A lopsided predicate can be evaluated on the left input alone. No such predicate is pending on what
has been combined, nor on a scan if selections are pushed, so only the first step can fail, and only
without pushed selections (`Plan.candidates_fail_iff`). Whether a plan is optimised can thus be
told from its base relations and predicates (`Plan.optimise_fails_iff`).
-/

namespace RelPlan

namespace Predicate

variable {p : Predicate} {a b : Attribute} {l r l' r' : Relation}

/-- A predicate that links two schemas, turned to the left one, can be joined on unless it is
lopsided. -/
theorem Links.exists_join_oriented_iff (h : p.Links l r) :
    (∃ s, Estimate.join (p.oriented l) l r = .ok s) ↔ ¬ p.Lopsided l r :=
  Estimate.exists_join_iff.trans h.exists_oriented_iff

/-- A lopsided predicate is not turned, and its right attribute is not found. -/
theorem Lopsided.join_oriented (h : (equality a b).Lopsided l r) :
    Estimate.join ((equality a b).oriented l) l r = .error (.attributeNotFound b.name) := by
  obtain ⟨ha, -, -, hb⟩ := h
  obtain ⟨key, hkey⟩ := Relation.has_iff_attribute?.1 ha
  have hleft : l.lookup a = .ok key := Relation.lookup_eq_ok_iff.2 hkey
  have hright : r.lookup b = .error (.attributeNotFound b.name) :=
    Relation.lookup_error_iff.2 ⟨hb, rfl⟩
  have hkept : (equality a b).oriented l = equality a b := if_pos ha
  rw [hkept, Estimate.join, hleft, hright]
  rfl

/-- Only the names of the predicate matter. -/
theorem lopsided_congr (hl : ∀ n ∈ p.names, l.Has n ↔ l'.Has n)
    (hr : ∀ n ∈ p.names, r.Has n ↔ r'.Has n) : p.Lopsided l r ↔ p.Lopsided l' r' := by
  cases p with
  | literal => rfl
  | equality a b =>
    have ha : a.name ∈ (equality a b).names := by simp [names, attributes]
    have hb : b.name ∈ (equality a b).names := by simp [names, attributes]
    simp only [Lopsided, hl _ ha, hl _ hb, hr _ ha, hr _ hb]

end Predicate

/-! ### Candidates that fail -/

namespace Plan

/-- Selections on a plan that cannot be estimated do not change the reason. -/
theorem outcome_foldl_filtered_of_error {x : Plan} {e : PlanError}
    (h : x.estimate.outcome = .error e) (ps : List Predicate) :
    (ps.foldl filtered x).estimate.outcome = .error e := by
  induction ps generalizing x with
  | nil => exact h
  | cons p ps ih =>
    refine ih ?_
    rw [outcome_select, h]
    rfl

/-- If the predicate that two inputs are to be joined on is lopsided, its right attribute is not
found. -/
theorem outcome_combine_of_lopsided {left right : Plan} (hl : left.Resolved) (hr : right.Resolved)
    {ps : List Predicate} {a b : Attribute}
    (hp : ps.find? (fun p => p.Links left.schema right.schema) = some (.equality a b))
    (hlop : (Predicate.equality a b).Lopsided left.schema right.schema) :
    ((place left.schema right.schema ps).combine left right).estimate.outcome =
      .error (.attributeNotFound b.name) := by
  rw [Placement.combine_eq]
  refine outcome_foldl_filtered_of_error ?_ _
  rw [Placement.core, joinOn_place, hp]
  show (left.joined right _).estimate.outcome = _
  rw [outcome_join, hl.outcome, hr.outcome]
  exact hlop.join_oriented

end Plan

/-- The candidate of resolved inputs fails exactly if the first pending predicate that links their
sides is lopsided, and then for its right attribute. -/
theorem Situation.candidate_eq_error_iff {s : Situation} {left right : Plan} (hl : left.Resolved)
    (hr : right.Resolved) {e : PlanError} :
    (s.candidate left right).result = .error e ↔
      ∃ a b, s.pending.find? (fun p => p.Links (s.side left).schema (s.side right).schema) =
          some (.equality a b) ∧
        (Predicate.equality a b).Lopsided (s.side left).schema (s.side right).schema ∧
        e = .attributeNotFound b.name := by
  have hfails : ∀ {a b : Attribute},
      s.pending.find? (fun p => p.Links (s.side left).schema (s.side right).schema) =
        some (.equality a b) →
      (Predicate.equality a b).Lopsided (s.side left).schema (s.side right).schema →
        (s.candidate left right).result = .error (.attributeNotFound b.name) := by
    intro a b hp hlop
    rw [result_candidate_eq hl hr, combination, placement,
      Plan.outcome_combine_of_lopsided (resolved_side hl) (resolved_side hr) hp hlop]
    rfl
  constructor
  · intro h
    by_cases hnew : (s.combination left right).Resolved
    · rw [(candidate_eq_ok_iff hl hr).2 ⟨hnew, rfl⟩] at h
      cases h
    · rw [resolved_combination_iff hl hr] at hnew
      push Not at hnew
      obtain ⟨p, hp, hlop⟩ := hnew
      cases p with
      | literal => exact hlop.elim
      | equality a b =>
        rw [hfails hp hlop] at h
        exact ⟨a, b, hp, hlop, (Except.error.inj h).symm⟩
  · rintro ⟨a, b, hp, hlop, rfl⟩
    exact hfails hp hlop

namespace Search

variable {s t : Search} {c : Choice} {options : Options} {projections : List (List Attribute)}
  {x : Plan} {p : Predicate}

/-- A side has what a pending predicate names if its input does. -/
theorem Provided.has_side_iff (h : s.Provided projections) (options : Options) (hx : x ∈ s.plans)
    (hp : p ∈ s.pending) {n : String} (hn : n ∈ p.names) :
    ((s.situation options projections).side x).schema.Has n ↔ x.schema.Has n := by
  have hres := h.resolved x hx
  have hneed : s.Needs projections n := needs_iff.2 (Or.inl ⟨p, hp, hn⟩)
  rw [Relation.Has, Relation.Has, (Situation.resolved_side hres).names_schema, hres.names_schema]
  exact ⟨Situation.mem_visible_of_side, h.mem_visible_side options hx hneed⟩

/-- In a provided search the candidate of a choice fails exactly if the first pending predicate that
links the two inputs is lopsided: narrowing them makes no difference. -/
theorem Provided.candidate_eq_error_iff (h : s.Provided projections) (options : Options)
    (hc : c ∈ s.choices) {e : PlanError} :
    ((s.situation options projections).candidate c.left c.right).result = .error e ↔
      ∃ a b, s.pending.find? (fun p => p.Links c.left.schema c.right.schema) =
          some (.equality a b) ∧
        (Predicate.equality a b).Lopsided c.left.schema c.right.schema ∧
        e = .attributeNotFound b.name := by
  have hl := Sound.left_mem hc
  have hr := Sound.right_mem hc
  have hfind : s.pending.find? (fun p =>
      p.Links ((s.situation options projections).side c.left).schema
        ((s.situation options projections).side c.right).schema) =
      s.pending.find? (fun p => p.Links c.left.schema c.right.schema) := by
    refine List.find?_congr fun p hp => decide_eq_decide.2 ?_
    exact Predicate.links_congr (fun _ => h.has_side_iff options hl hp)
      (fun _ => h.has_side_iff options hr hp)
  rw [Situation.candidate_eq_error_iff (h.resolved _ hl) (h.resolved _ hr), pending_situation,
    hfind]
  refine exists_congr fun a => exists_congr fun b => and_congr_right fun hp => ?_
  have hp := List.mem_of_find?_eq_some hp
  exact and_congr_left' (Predicate.lopsided_congr (fun _ => h.has_side_iff options hl hp)
    (fun _ => h.has_side_iff options hr hp))

/-- A predicate that is pending on a closed plan is not lopsided to its left. -/
theorem Closed.not_lopsided (h : s.Closed x) (hx : x.Resolved) (hp : p ∈ s.pending)
    (r : Relation) : ¬ p.Lopsided x.schema r := by
  intro hlop
  have hin := Predicate.within_iff.1 hlop.within_left
  rw [hx.names_schema] at hin
  exact h p hp hin

/-- Beside a closed left input no candidate fails. -/
theorem Provided.candidate_ne_error (h : s.Provided projections) (options : Options)
    (hc : c ∈ s.choices) (hleft : s.Closed c.left) (e : PlanError) :
    ((s.situation options projections).candidate c.left c.right).result ≠ .error e := by
  rw [Ne, h.candidate_eq_error_iff options hc]
  rintro ⟨a, b, hp, hlop, -⟩
  exact hleft.not_lopsided (h.resolved _ (Sound.left_mem hc)) (List.mem_of_find?_eq_some hp) _ hlop

/-! ### Steps and runs that fail -/

/-- A step succeeds only if no candidate fails. -/
theorem exists_candidate_of_mem_choices {k : Nat}
    (hstep : (s.step options projections k).result = .ok t) (hc : c ∈ s.choices) :
    ∃ best, ((s.situation options projections).candidate c.left c.right).result = .ok best := by
  obtain ⟨best, chosen, hcheapest, -⟩ := exists_cheapest_of_step hstep
  rw [cheapest, Logged.result_foldlM] at hcheapest
  obtain ⟨o, o', h⟩ := exists_of_foldlM_eq_ok hcheapest c hc
  obtain ⟨candidate, hcandidate, -⟩ := Logged.result_bind_eq_ok_iff.1 h
  exact ⟨candidate, hcandidate⟩

/-- **Progress**: where there are two plans at hand and no candidate fails, a step takes a choice
with a resolved combination. -/
theorem Provided.exists_step (h : s.Provided projections) (options : Options)
    (hlen : 2 ≤ s.plans.length)
    (hall : ∀ c ∈ s.choices, ∀ e,
      ((s.situation options projections).candidate c.left c.right).result ≠ .error e) :
    ∃ c ∈ s.choices, ((s.situation options projections).combination c.left c.right).Resolved ∧
      ∀ k, (s.step options projections k).result =
        .ok (s.after (s.situation options projections) c) := by
  have hok : ∀ c ∈ s.choices,
      ((s.situation options projections).combination c.left c.right).Resolved ∧
        ((s.situation options projections).candidate c.left c.right).result =
          .ok ((s.situation options projections).costed c.left c.right) := by
    intro c hc
    cases hbest : ((s.situation options projections).candidate c.left c.right).result with
    | error e => exact absurd hbest (hall c hc e)
    | ok best =>
      obtain ⟨hnew, rfl⟩ := (Situation.candidate_eq_ok_iff (h.resolved _ (Sound.left_mem hc))
        (h.resolved _ (Sound.right_mem hc))).1 hbest
      exact ⟨hnew, rfl⟩
  obtain ⟨c, hc, -, hstep⟩ :=
    exists_step_of_candidates options projections hlen fun c hc => (hok c hc).2
  exact ⟨c, hc, (hok c hc).1, hstep⟩

/-- What was combined in a step is the left input of every choice of the next. -/
theorem left_of_mem_choices_after {σ : Situation} {c d : Choice} (hd : d ∈ (s.after σ c).choices) :
    d.left = σ.combination c.left c.right := by
  rcases mem_choices_iff.1 hd with ⟨hnone, -⟩ | ⟨hsome, -⟩
  · cases hnone
  · exact (Option.some.inj hsome).symm

/-- **Run**: if no candidate of the first step fails, the search succeeds. -/
theorem Provided.exists_run (h : s.Provided projections) (options : Options)
    (hall : ∀ c ∈ s.choices, ∀ e,
      ((s.situation options projections).candidate c.left c.right).result ≠ .error e)
    {n : Nat} (hlen : s.plans.length = n + 1) : ∃ t, run options projections n s = .ok t := by
  induction n generalizing s with
  | zero => exact ⟨s, rfl⟩
  | succ n ih =>
    obtain ⟨c, hc, hnew, hstep⟩ := h.exists_step options (by omega) hall
    have hafter := h.after options hc hnew
    -- From now on the left input is what was combined last, and that is closed.
    have hclosed := closed_combination (s := s) (σ := s.situation options projections)
      (h.resolved _ (Sound.left_mem hc)) (h.resolved _ (Sound.right_mem hc))
    obtain ⟨t, ht⟩ := ih hafter
      (fun d hd => hafter.candidate_ne_error options hd
        ((left_of_mem_choices_after hd).symm ▸ hclosed))
      (by
        have := length_plans_of_step (hstep 0)
        omega)
    refine ⟨t, ?_⟩
    rw [run, hstep]
    exact ht

end Search

/-! ### Whole plans -/

namespace Plan

variable {p : Plan} {options : Options}

/-- After `k` steps the left inputs are closed, unless `k` is `0` and selections are not pushed. -/
theorem Resolved.closed_left_of_run (h : p.Resolved) {k : Nat} {t : Search}
    (hrun : Search.run options p.outermost k (p.search options) = .ok t) {c : Choice}
    (hc : c ∈ t.choices) : t.Closed c.left ∨ (k = 0 ∧ options.pushSelections = false) := by
  by_cases hpush : options.pushSelections = true
  · exact Or.inl (h.closed_plans_of_run hpush hrun _ (Search.Sound.left_mem hc))
  by_cases hk : k = 0
  · exact Or.inr ⟨hk, Bool.eq_false_iff.2 hpush⟩
  · have hlen := Search.length_combined_of_run hrun (Nat.one_le_iff_ne_zero.2 hk)
    rcases Search.mem_choices_iff.1 hc with ⟨hnone, -⟩ | ⟨hsome, -⟩
    · rw [hnone] at hlen
      cases hlen
    · exact Or.inl (h.closed_combined_of_run hrun _ hsome)

/-- **Orientation**: a predicate that links two schemas, turned to the left one, can be joined on
unless it is lopsided. So whatever the search for a plan that can be estimated has come to, a
candidate of its next step fails exactly if that is the first step, selections are not pushed, and
the first predicate that links the two inputs is lopsided; and then its right attribute is not
found. -/
theorem candidates_fail_iff {output : Relation} (options : Options)
    (h : p.estimated.result = .ok output) :
    (∀ (q : Predicate) (l r : Relation), q.Links l r →
      ((∃ s, Estimate.join (q.oriented l) l r = .ok s) ↔ ¬ q.Lopsided l r)) ∧
    ∀ k t, (Search.start options p.parts.scans p.parts.predicates >>= fun start =>
        start.steps options (p.parts.outerProjections output) k).result = .ok t →
      ∀ c ∈ t.choices, ∀ e,
        ((t.situation options (p.parts.outerProjections output)).candidate
            c.left c.right).result = .error e ↔
          k = 0 ∧ options.pushSelections = false ∧
            ∃ a b, t.pending.find? (fun q => q.Links c.left.schema c.right.schema) =
                some (.equality a b) ∧
              (Predicate.equality a b).Lopsided c.left.schema c.right.schema ∧
              e = .attributeNotFound b.name := by
  have hr : p.Resolved := resolved_iff.2 ⟨output, h⟩
  refine ⟨fun q l r => Predicate.Links.exists_join_oriented_iff, ?_⟩
  rw [outerProjections_eq_outermost h]
  intro k t hsteps c hc e
  rw [result_start_steps] at hsteps
  have ht := hr.provided_of_run hsteps
  have hfails := ht.candidate_eq_error_iff options hc (e := e)
  constructor
  · intro he
    rcases hr.closed_left_of_run hsteps hc with hclosed | ⟨hk, hpush⟩
    · exact absurd he (ht.candidate_ne_error options hc hclosed e)
    · exact ⟨hk, hpush, hfails.1 he⟩
  · rintro ⟨-, -, hlop⟩
    exact hfails.2 hlop

/-- The staff of an office, with the boss of each. -/
def staff : BaseRelation := ⟨"staff", ⟨.clamp 6, [⟨"boss", .clamp 3⟩, ⟨"name", .clamp 6⟩]⟩⟩

/-- The desks of the office, with the boss that each belongs to. -/
def desks : BaseRelation := ⟨"desks", ⟨.clamp 4, [⟨"boss", .clamp 3⟩]⟩⟩

/-- The boss and the name are the same. -/
def bossByName : Predicate := .equality ⟨"boss", .clamp 3⟩ ⟨"name", .clamp 6⟩

/-- Staff and desks by the name of a boss. -/
def staffByDesk : Plan := ((read staff).times (read desks)).filtered bossByName

/-- The predicate links staff and desks, and is fit for a join if the desks come first, but not if
the staff does. -/
theorem staffByDesk_candidate_fails :
    staffByDesk.estimated.result = .ok staffByDesk.schema ∧
      (∃ s, Estimate.join (bossByName.oriented desks.relation) desks.relation staff.relation =
        .ok s) ∧
      (¬ ∃ s, Estimate.join (bossByName.oriented staff.relation) staff.relation desks.relation =
        .ok s) ∧
      ∃ t c, (Search.start ⟨false, true⟩ staffByDesk.parts.scans staffByDesk.parts.predicates >>=
          fun start => start.steps ⟨false, true⟩
            (staffByDesk.parts.outerProjections staffByDesk.schema) 0).result = .ok t ∧
        c ∈ t.choices ∧
        ((t.situation ⟨false, true⟩
            (staffByDesk.parts.outerProjections staffByDesk.schema)).candidate
          c.left c.right).result = .error (.attributeNotFound "name") := by
  have h : staffByDesk.estimated.result = .ok staffByDesk.schema := by decide
  have hlinks : bossByName.Links staff.relation desks.relation := by decide
  have hswapped : bossByName.Links desks.relation staff.relation := by decide
  obtain ⟨hjoins, hfails⟩ := candidates_fail_iff ⟨false, true⟩ h
  refine ⟨h, (hjoins _ _ _ hswapped).2 (by decide), ?_, ?_⟩
  · intro hs
    exact (hjoins _ _ _ hlinks).1 hs (by decide)
  · refine ⟨⟨none, [read staff, read desks], [bossByName]⟩, ⟨read staff, read desks, [0, 1]⟩, rfl,
      List.mem_singleton_self _, ?_⟩
    refine (hfails 0 _ rfl _ (List.mem_singleton_self _) _).2 ⟨rfl, rfl, ?_⟩
    exact ⟨⟨"boss", .clamp 3⟩, ⟨"name", .clamp 6⟩, by decide, by decide, rfl⟩

/-- A predicate that links two base relations does not make a join of them, for it is not turned,
and a plan that can be estimated is not optimised. -/
theorem bossByName_not_joined :
    bossByName.Links staff.relation desks.relation ∧
      Estimate.join (bossByName.oriented staff.relation) staff.relation desks.relation =
        .error (.attributeNotFound "name") ∧
      (∃ r, staffByDesk.estimated.result = .ok r) ∧
      (staffByDesk.optimise ⟨false, true⟩).result = .error (.attributeNotFound "name") := by
  refine ⟨by decide, by decide, ⟨staffByDesk.schema, by decide⟩, by decide⟩

/-! ### Whether a plan is optimised -/

/-- Optimising succeeds exactly if the search does. -/
theorem Resolved.exists_optimise_iff (h : p.Resolved) :
    (∃ q, (p.optimise options).result = .ok q) ↔
      ∃ t, Search.run options p.outermost p.parts.products (p.search options) = .ok t := by
  constructor
  · rintro ⟨q, hq⟩
    obtain ⟨r, w, cost, hr, hw, -⟩ := optimise_eq_ok hq
    obtain rfl : p.schema = r := schema_of_outcome hr
    obtain ⟨t, -, -, hrun, -⟩ := Parts.rearrange_eq_ok hw
    rw [scans_parts, predicates_parts] at hrun
    exact ⟨t, hrun⟩
  · rintro ⟨t, hrun⟩
    obtain ⟨x, hx⟩ := exists_plans_of_run hrun
    have hw := (h.provided_of_run hrun).resolved_whole h hx
    rw [search, ← scans_parts, ← predicates_parts] at hrun
    exact ⟨_, h.result_optimise (Parts.result_rearrange hrun hx hw)⟩

/-- If selections are not pushed, the first step chooses from all pairs of base relations. -/
theorem mem_choices_search (hpush : options.pushSelections = false) {l r : Plan} :
    (∃ c ∈ (p.search options).choices, c.left = l ∧ c.right = r) ↔
      ∃ a b, (a, b) ∈ pairs p.scans ∧ l = read a ∧ r = read b := by
  have hsearch : p.search options = ⟨none, p.scans.map read, p.predicates⟩ := by
    rw [search, Search.initial, hpush]
    rfl
  have hpool : ∀ {x : Plan} {i : Nat}, (p.scans.map read)[i]? = some x ↔
      ∃ a, p.scans[i]? = some a ∧ read a = x := by
    intro x i
    rw [List.getElem?_map, Option.map_eq_some_iff]
  rw [hsearch]
  constructor
  · rintro ⟨c, hc, rfl, rfl⟩
    rcases Search.mem_choices_iff.1 hc with ⟨-, i, j, hij, hl, hr, -⟩ | ⟨hsome, -⟩
    · obtain ⟨a, ha, hl⟩ := hpool.1 hl
      obtain ⟨b, hb, hr⟩ := hpool.1 hr
      exact ⟨a, b, mem_pairs_iff.2 ⟨i, j, hij, ha, hb⟩, hl.symm, hr.symm⟩
    · cases hsome
  · rintro ⟨a, b, hab, rfl, rfl⟩
    obtain ⟨i, j, hij, ha, hb⟩ := mem_pairs_iff.1 hab
    refine ⟨⟨read a, read b, [i, j]⟩, Search.mem_choices_iff.2 (Or.inl ?_), rfl, rfl⟩
    exact ⟨rfl, i, j, hij, hpool.2 ⟨a, ha, rfl⟩, hpool.2 ⟨b, hb, rfl⟩, rfl⟩

/-- A plan that can be estimated fails to be optimised exactly if a candidate of the first step
fails. -/
theorem Resolved.optimise_fails_iff_candidate (h : p.Resolved) :
    (∃ e, (p.optimise options).result = .error e) ↔
      ∃ c ∈ (p.search options).choices, ∃ e,
        (((p.search options).situation options p.outermost).candidate c.left c.right).result =
          .error e := by
  have hlen := length_plans_search options p
  constructor
  · rintro ⟨e, he⟩
    by_contra hnone
    push Not at hnone
    have hrun := (h.provided_search options).exists_run options hnone hlen
    obtain ⟨q, hq⟩ := h.exists_optimise_iff.2 hrun
    rw [he] at hq
    cases hq
  · rintro ⟨c, hc, e, hfail⟩
    cases hres : (p.optimise options).result with
    | error e' => exact ⟨e', rfl⟩
    | ok q =>
      -- If there were a result, the first step would have succeeded, and with it every candidate.
      obtain ⟨t, hrun⟩ := h.exists_optimise_iff.1 ⟨q, hres⟩
      have htwo := (Search.plans_perm_of_mem_choices hc).length_eq
      rw [List.length_cons, List.length_cons] at htwo
      obtain ⟨n, hn⟩ : ∃ n, p.parts.products = n + 1 := ⟨p.parts.products - 1, by omega⟩
      rw [hn, Search.run, bind_eq_ok_iff] at hrun
      obtain ⟨u, hu, -⟩ := hrun
      obtain ⟨best, hbest⟩ := Search.exists_candidate_of_mem_choices hu hc
      rw [hfail] at hbest
      cases hbest

/-- **Failure**: a plan that can be estimated fails to be optimised exactly if selections are not
pushed and for some two of its base relations the first predicate that links them is lopsided. -/
theorem Resolved.optimise_fails_iff (h : p.Resolved) :
    (∃ e, (p.optimise options).result = .error e) ↔
      options.pushSelections = false ∧ ∃ l r q, (l, r) ∈ pairs p.scans ∧
        p.predicates.find? (fun q => q.Links l.relation r.relation) = some q ∧
        q.Lopsided l.relation r.relation := by
  have hstart := h.provided_search options
  have hpending : options.pushSelections = false → (p.search options).pending = p.predicates := by
    intro hpush
    rw [search, Search.initial, hpush]
    rfl
  rw [h.optimise_fails_iff_candidate]
  constructor
  · rintro ⟨c, hc, e, hfail⟩
    obtain ⟨a, b, hfind, hlop, -⟩ := (hstart.candidate_eq_error_iff options hc).1 hfail
    have hrun : Search.run options p.outermost 0 (p.search options) = .ok (p.search options) := rfl
    rcases h.closed_left_of_run hrun hc with hclosed | ⟨-, hpush⟩
    · exact absurd hfail (hstart.candidate_ne_error options hc hclosed e)
    · obtain ⟨l, r, hlr, hl, hr⟩ := (mem_choices_search hpush).1 ⟨c, hc, rfl, rfl⟩
      rw [hpending hpush, hl, hr] at hfind
      rw [hl, hr] at hlop
      exact ⟨hpush, l, r, _, hlr, hfind, hlop⟩
  · rintro ⟨hpush, l, r, q, hlr, hfind, hlop⟩
    obtain ⟨c, hc, hl, hr⟩ := (mem_choices_search (p := p) hpush).2 ⟨l, r, hlr, rfl, rfl⟩
    cases q with
    | literal => exact hlop.elim
    | equality a b =>
      refine ⟨c, hc, _, (hstart.candidate_eq_error_iff options hc).2 ⟨a, b, ?_, ?_, rfl⟩⟩
      · rw [hpending hpush, hl, hr]
        exact hfind
      · rw [hl, hr]
        exact hlop

end Plan

end RelPlan
