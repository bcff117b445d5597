import RelPlan.Proofs.Optimise.Leftovers

/-!
# Frugal inputs

What pushing projections comes to in the end. An input of a product or join is narrowed to what the
predicates that are pending then and the projections name. These predicates are all placed further
up, at that node or above it, so in the finished plan an input puts out attributes that are all used
from there on upwards, or, where narrowing it would leave nothing, none that is
(`Plan.Frugal`, `Plan.optimise_frugal`).

The invariant of the search is `Search.Frugal`: what has been combined is frugal if the names that
are still needed are counted as used above it.
-/

namespace RelPlan

namespace Plan

/-- The plan can be estimated, and of the attributes it puts out all are among the names, or none
is. -/
def AllOrNone (names : List String) (x : Plan) : Prop :=
  ∃ s, x.estimated.result = .ok s ∧ ((∀ n ∈ s.names, n ∈ names) ∨ ∀ n ∈ s.names, n ∉ names)

/-- Every input of a product or join puts out attributes that are all used, or none that is. Used
are the names in `above` and those of the predicates at that product or join and on the way from it
up to the root. -/
def Frugal (above : List String) : Plan → Prop
  | scan _ _ => True
  | select p i _ => i.Frugal (p.names ++ above)
  | project _ i _ => i.Frugal above
  | product l r _ => (l.AllOrNone above ∧ l.Frugal above) ∧ r.AllOrNone above ∧ r.Frugal above
  | join p l r _ => (l.AllOrNone (p.names ++ above) ∧ l.Frugal (p.names ++ above)) ∧
      r.AllOrNone (p.names ++ above) ∧ r.Frugal (p.names ++ above)

instance (names : List String) (x : Plan) : Decidable (x.AllOrNone names) :=
  match h : x.estimated.result with
  | .ok s => decidable_of_iff ((∀ n ∈ s.names, n ∈ names) ∨ ∀ n ∈ s.names, n ∉ names) <| by
      simp [AllOrNone, h]
  | .error _ => isFalse <| by simp [AllOrNone, h]

instance decidableFrugal : (above : List String) → (x : Plan) → Decidable (x.Frugal above)
  | _, scan _ _ => isTrue trivial
  | above, select p i _ => decidableFrugal (p.names ++ above) i
  | above, project _ i _ => decidableFrugal above i
  | above, product l r _ =>
    have := decidableFrugal above l
    have := decidableFrugal above r
    inferInstanceAs (Decidable
      ((l.AllOrNone above ∧ l.Frugal above) ∧ r.AllOrNone above ∧ r.Frugal above))
  | above, join p l r _ =>
    have := decidableFrugal (p.names ++ above) l
    have := decidableFrugal (p.names ++ above) r
    inferInstanceAs (Decidable
      ((l.AllOrNone (p.names ++ above) ∧ l.Frugal (p.names ++ above)) ∧
        r.AllOrNone (p.names ++ above) ∧ r.Frugal (p.names ++ above)))

variable {x : Plan} {ns ms above : List String}

/-- The order of the names does not matter, nor how often one is listed. -/
theorem AllOrNone.congr (hx : x.AllOrNone ns) (h : ∀ n, n ∈ ns ↔ n ∈ ms) : x.AllOrNone ms := by
  obtain ⟨s, hs, hnames⟩ := hx
  refine ⟨s, hs, hnames.imp ?_ ?_⟩
  · exact fun hall n hn => (h n).1 (hall n hn)
  · exact fun hnone n hn hm => hnone n hn ((h n).2 hm)

theorem Frugal.congr (hx : x.Frugal ns) (h : ∀ n, n ∈ ns ↔ n ∈ ms) : x.Frugal ms := by
  have hmore : ∀ (p : Predicate) {ns ms : List String}, (∀ n, n ∈ ns ↔ n ∈ ms) →
      ∀ n, n ∈ p.names ++ ns ↔ n ∈ p.names ++ ms := by
    intro p ns ms h n
    rw [List.mem_append, List.mem_append, h n]
  induction x generalizing ns ms with
  | scan => trivial
  | select p i o ih => exact ih hx (hmore p h)
  | project as i o ih => exact ih hx h
  | product l r o ihl ihr =>
    obtain ⟨⟨hl, hfl⟩, hr, hfr⟩ := hx
    exact ⟨⟨hl.congr h, ihl hfl h⟩, hr.congr h, ihr hfr h⟩
  | join p l r o ihl ihr =>
    obtain ⟨⟨hl, hfl⟩, hr, hfr⟩ := hx
    have h := hmore p h
    exact ⟨⟨hl.congr h, ihl hfl h⟩, hr.congr h, ihr hfr h⟩

/-- What selections on top name is used. -/
@[simp] theorem frugal_foldl_filtered (ps : List Predicate) (x : Plan) :
    (ps.foldl filtered x).Frugal above ↔ x.Frugal (ps.flatMap Predicate.names ++ above) := by
  induction ps generalizing x with
  | nil => rfl
  | cons p ps ih =>
    rw [List.foldl_cons, ih, List.flatMap_cons, List.append_assoc]
    rfl

@[simp] theorem frugal_foldl_narrowed (lists : List (List Attribute)) (x : Plan) :
    (lists.foldl narrowed x).Frugal above ↔ x.Frugal above := by
  induction lists generalizing x with
  | nil => rfl
  | cons as lists ih => exact ih (x.narrowed as)

end Plan

/-- Two inputs are combined frugally if they are frugal with the placed predicates above them. -/
theorem Placement.frugal_combine {placement : Placement} {left right : Plan} {above : List String}
    (hl : left.AllOrNone (placement.predicates.flatMap Predicate.names ++ above) ∧
      left.Frugal (placement.predicates.flatMap Predicate.names ++ above))
    (hr : right.AllOrNone (placement.predicates.flatMap Predicate.names ++ above) ∧
      right.Frugal (placement.predicates.flatMap Predicate.names ++ above)) :
    (placement.combine left right).Frugal above := by
  rw [combine_eq, Plan.frugal_foldl_filtered, core]
  rw [Placement.predicates] at hl hr
  cases hj : placement.joinOn with
  | none =>
    rw [hj] at hl hr
    exact ⟨hl, hr⟩
  | some p =>
    rw [hj, Option.toList_some, List.singleton_append, List.flatMap_cons,
      List.append_assoc] at hl hr
    exact ⟨hl, hr⟩

/-! ### Sides -/

namespace Situation

variable {σ : Situation} {x : Plan} {above : List String}

theorem frugal_side (h : x.Frugal above) : (σ.side x).Frugal above :=
  σ.side_cases (P := fun y => y.Frugal above) h fun _ _ => h

/-- An input is left as it is if all its attributes are needed, or none is. -/
theorem all_or_none_of_retained?_eq_none {needed : List Attribute} {schema : Relation}
    (hσ : σ.needed? = some needed) (h : σ.retained? schema = none) :
    (∀ n ∈ schema.names, n ∈ namesOf needed) ∨ ∀ n ∈ schema.names, n ∉ namesOf needed := by
  unfold retained? at h
  rw [hσ] at h
  dsimp only at h
  split at h
  · next hkept =>
    have hnames : ∀ {P : String → Prop}, (∀ a ∈ schema.attributes, P a.name) →
        ∀ n ∈ schema.names, P n := by
      intro P hP n hn
      obtain ⟨a, ha, rfl⟩ := List.mem_map.1 hn
      exact hP a ha
    rcases hkept with hnone | hall
    · refine Or.inr (hnames fun a ha => ?_)
      simpa using List.filter_eq_nil_iff.1 (List.isEmpty_iff.1 hnone) a ha
    · refine Or.inl (hnames fun a ha => ?_)
      simpa using List.length_filter_eq_length_iff.1 hall a ha
  · cases h

/-- A side puts out needed attributes only, unless its input has none. -/
theorem allOrNone_side {needed : List Attribute} (hσ : σ.needed? = some needed)
    (hx : x.Resolved) : (σ.side x).AllOrNone (namesOf needed) := by
  have hside : (σ.side x).Resolved := resolved_side hx
  refine ⟨_, hside.outcome, ?_⟩
  rw [hside.names_schema, side]
  cases hkept : σ.retained? x.schema with
  | none =>
    rw [← hx.names_schema]
    exact all_or_none_of_retained?_eq_none hσ hkept
  | some kept =>
    obtain ⟨needed', hneeded, rfl⟩ := σ.retained?_eq_some hkept
    obtain rfl : needed = needed' := Option.some.inj (hσ.symm.trans hneeded)
    refine Or.inl fun n hn => ?_
    have hn := (Plan.mem_visible_project.1 hn).2
    rw [Estimate.namesOf_filter (· ∈ namesOf needed), List.mem_filter, decide_eq_true_eq] at hn
    exact hn.2

/-- What is needed for a step is what the placed predicates name and what is needed after it. -/
theorem mem_names_placement_iff (projections : List (List Attribute)) (left right : Plan)
    (n : String) :
    n ∈ (σ.placement left right).predicates.flatMap Predicate.names ++
        namesOf (neededAttributes projections (σ.unplaced left right)) ↔
      n ∈ namesOf (neededAttributes projections σ.pending) := by
  have hperm := σ.unsided_placement_perm left right
  have hpending : (∃ p ∈ (σ.placement left right).predicates ++ σ.unplaced left right,
      n ∈ p.names) ↔ ∃ p ∈ σ.pending, n ∈ p.names := by
    constructor
    · rintro ⟨p, hp, hn⟩
      obtain ⟨q, hq, he⟩ := Predicate.exists_mem_of_perm_unsided hperm hp
      exact ⟨q, hq, (Predicate.mem_names_of_unsided_eq he).2 hn⟩
    · rintro ⟨p, hp, hn⟩
      obtain ⟨q, hq, he⟩ := Predicate.exists_mem_of_perm_unsided hperm.symm hp
      exact ⟨q, hq, (Predicate.mem_names_of_unsided_eq he).2 hn⟩
  rw [List.mem_append, mem_names_neededAttributes, mem_names_neededAttributes, ← or_assoc]
  refine or_congr_left (Iff.trans ?_ hpending)
  simp only [List.mem_flatMap, List.mem_append, or_and_right, exists_or]
  rfl

end Situation

/-! ### The invariant -/

namespace Search

variable {s t : Search} {options : Options} {projections : List (List Attribute)} {c : Choice}
  {x : Plan}

/-- What holds at every point of a search that narrows its inputs. -/
structure Frugal (projections : List (List Attribute)) (s : Search) : Prop where
  /-- The inputs that are not used yet have no product or join with an input to narrow. -/
  pool : ∀ x ∈ s.pool, ∀ above, x.Frugal above
  /-- What has been combined is frugal with all names above it that are needed. -/
  combined : ∀ x ∈ s.combined, x.Frugal (namesOf (neededAttributes projections s.pending))

theorem Frugal.of_mem_plans (h : s.Frugal projections) (hx : x ∈ s.plans) :
    x.Frugal (namesOf (neededAttributes projections s.pending)) := by
  rcases List.mem_append.1 hx with hx | hx
  · exact h.combined x (Option.mem_toList.1 hx)
  · exact h.pool x hx _

theorem Frugal.initial (options : Options) (scans : List BaseRelation) (ps : List Predicate) :
    (initial options scans ps).Frugal projections where
  pool x hx := by
    refine forall_mem_initial (P := fun x => ∀ above, x.Frugal above) ?_ x
      (List.mem_append_right _ hx)
    intro r _ qs _ above
    exact (Plan.frugal_foldl_filtered qs _).2 trivial
  combined x hx := by
    rw [combined_initial] at hx
    cases hx

/-- If projections are pushed and there are some, inputs are narrowed to what is needed. -/
theorem needed?_situation_of_push (hpush : options.pushProjections = true)
    (hne : projections ≠ []) :
    (s.situation options projections).needed? = some (neededAttributes projections s.pending) := by
  simp [situation, hpush, hne]

/-- **Step**: taking a choice keeps a search frugal. -/
theorem Frugal.after (hs : s.Frugal projections) (h : s.Provided projections)
    (hpush : options.pushProjections = true) (hne : projections ≠ []) (hc : c ∈ s.choices) :
    (s.after (s.situation options projections) c).Frugal projections where
  pool x hx := hs.pool x (mem_of_mem_eraseAll hx)
  combined := by
    have hside : ∀ y ∈ s.plans,
        ((s.situation options projections).side y).AllOrNone
            (namesOf (neededAttributes projections s.pending)) ∧
          ((s.situation options projections).side y).Frugal
            (namesOf (neededAttributes projections s.pending)) := by
      intro y hy
      exact ⟨Situation.allOrNone_side (needed?_situation_of_push hpush hne) (h.resolved y hy),
        Situation.frugal_side (hs.of_mem_plans hy)⟩
    -- The names that are needed before the step are above its sides after it.
    have habove := fun n => ((s.situation options projections).mem_names_placement_iff projections
      c.left c.right n).symm
    intro x hx
    cases hx
    obtain ⟨hl, hfl⟩ := hside _ (Sound.left_mem hc)
    obtain ⟨hr, hfr⟩ := hside _ (Sound.right_mem hc)
    exact Placement.frugal_combine ⟨hl.congr habove, hfl.congr habove⟩
      ⟨hr.congr habove, hfr.congr habove⟩

/-- Where a frugal search has come to one plan, completing it leaves it frugal. -/
theorem Frugal.whole (h : s.Frugal projections) (hx : x ∈ s.plans) :
    (s.whole projections x).Frugal (namesOf projections.flatten) := by
  rw [Search.whole, Plan.frugal_foldl_narrowed, Plan.frugal_foldl_filtered]
  refine (h.of_mem_plans hx).congr fun n => ?_
  rw [mem_names_neededAttributes, List.mem_append, List.mem_flatMap]
  refine or_congr_right ?_
  simp only [namesOf, List.mem_map, List.mem_flatten]
  grind

end Search

/-! ### Whole plans -/

namespace Plan

variable {p q : Plan}

/-- Whatever a run comes to has no projection at the top. -/
theorem topless_of_run {options : Options} {projections : List (List Attribute)} {n : Nat}
    {t : Search} (hrun : Search.run options projections n (p.search options) = .ok t) :
    ∀ x ∈ t.plans, x.projections = [] := by
  refine Search.forall_mem_of_run (P := fun x => x.projections = []) ?_ ?_ hrun
  · intro σ l r c _ _ h
    obtain ⟨l', ls, r', rs, -, -, -, hplan, -⟩ := Situation.candidate_eq_ok h
    rw [hplan]
    exact Placement.projections_combine _ _ _
  · exact Search.forall_mem_initial fun r _ qs _ => projections_foldl_filtered qs _

/-- A plan with a projection has projections to put back on top. -/
theorem outermost_ne_nil (h : p.parts.projections ≠ [] ∨ 0 < p.parts.innerProjections) :
    p.outermost ≠ [] := by
  rw [projections_parts] at h
  rw [outermost_eq]
  split
  · exact List.cons_ne_nil _ _
  · next hnone =>
    refine fun hnil => ?_
    rcases h with h | h
    · exact h hnil
    · exact hnone ⟨hnil, h⟩

/-- **Frugality**: let projections be pushed, and let a plan have a projection. What the plan is
optimised to is the plan as given, if that costs less than the rearranged one, and else the
rearranged one; and there every input of a product or join puts out attributes that are all named by
the projections on top or by a predicate from that product or join upwards, or none that is. -/
theorem optimise_frugal (push : Bool)
    (hprojects : p.parts.projections ≠ [] ∨ 0 < p.parts.innerProjections)
    (h : (p.optimise ⟨push, true⟩).result = .ok q) :
    ∃ output w cost, p.estimated.result = .ok output ∧
      (p.parts.rearrange ⟨push, true⟩ (p.parts.outerProjections output)).result = .ok (w, cost) ∧
      w.Frugal (namesOf w.parts.projections.flatten) ∧
      q = if output.tuples < cost then p.clearOutputs else w := by
  obtain ⟨output, w, cost, houtput, hw, hq⟩ := optimise_eq_ok h
  refine ⟨output, w, cost, houtput, hw, ?_, hq⟩
  have hp : p.Resolved := resolved_iff.2 ⟨output, houtput⟩
  rw [outerProjections_eq_outermost houtput] at hw
  obtain ⟨t, x, -, hrun, hx, rfl, -⟩ := Parts.rearrange_eq_ok hw
  rw [scans_parts, predicates_parts] at hrun
  have hmem : x ∈ t.plans := Search.mem_plans_of_plan? hx
  have hne : p.outermost ≠ [] := outermost_ne_nil hprojects
  obtain ⟨-, hfrugal⟩ := (hp.provided_search ⟨push, true⟩).of_run
    (fun hs h hc => Search.Frugal.after hs h rfl hne hc) (.initial _ _ _) hrun
  rw [projections_parts, projections_whole_of_topless (topless_of_run hrun x hmem)]
  exact hfrugal.whole hmem

/-- The sales are narrowed to the goods before they are joined to the wares, and both together to
the shelf before the tills are put beside them. -/
theorem teaRearranged_frugal :
    (teaByTill.parts.projections ≠ [] ∨ 0 < teaByTill.parts.innerProjections) ∧
      (teaByTill.optimise ⟨true, true⟩).result = .ok teaRearranged ∧
      teaRearranged.Frugal (namesOf teaRearranged.parts.projections.flatten) := by
  have hprojects : teaByTill.parts.projections ≠ [] ∨ 0 < teaByTill.parts.innerProjections := by
    decide
  have h : (teaByTill.optimise ⟨true, true⟩).result = .ok teaRearranged := by decide
  have hne : teaRearranged ≠ teaByTill.clearOutputs := by decide
  obtain ⟨output, w, cost, -, -, hfrugal, hq⟩ := optimise_frugal true hprojects h
  split_ifs at hq
  · exact absurd hq hne
  · exact ⟨hprojects, h, hq ▸ hfrugal⟩

/-- If projections are not pushed, the tills stand beside attributes that nothing uses any more. -/
example : ((teaByTill.optimise ⟨true, false⟩).result.map fun q =>
    decide (q.Frugal (namesOf q.parts.projections.flatten))) = .ok false := by decide

end Plan

end RelPlan
