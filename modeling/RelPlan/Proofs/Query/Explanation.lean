import RelPlan.Proofs.Optimise.InPlace
import RelPlan.Proofs.Plan.Annotated
import RelPlan.Proofs.Query.Canonical

/-!
# Queries that can be explained

Over a catalogue that was built by its own operations a query can be explained as soon as its
canonical plan can be built (`Query.explain_iff_canonicalPlanOf`): nothing that comes later fails.
The canonical plan can be estimated and reads relations without a common attribute name, so it can
be optimised, and what it is optimised to can be estimated as well.
-/

namespace RelPlan

namespace Plan

variable {p : Plan} {s : Relation}

theorem result_annotated (h : p.estimate.outcome = .ok s) :
    p.annotated.result = .ok (p.estimate.plan, s) := by
  show p.estimate.outcome.map (fun r => (p.estimate.plan, r)) = _
  rw [h]
  rfl

theorem costOf_estimate (h : p.estimate.outcome = .ok s) :
    Explanation.costOf p.estimate.plan = s.tuples := by
  rw [Explanation.costOf, output_estimate h]
  rfl

end Plan

namespace Query

variable {c : Catalogue} {options : Options} {text : String} {p q : Plan}

theorem canonicalPlanOf_eq_ok (h : (canonicalPlanOf c text).result = .ok p) :
    ∃ q : Query, parse text = .ok q ∧ q.plan c = .ok p := by
  rw [canonicalPlanOf, Logged.result_bind_eq_ok_iff] at h
  obtain ⟨q, hq, h⟩ := h
  rw [canonicalPlan, Logged.result_bind_eq_ok_iff] at h
  obtain ⟨p', hp, h⟩ := h
  cases h
  exact ⟨q, hq, hp⟩

theorem explain_error {e : PlanError} (h : (canonicalPlanOf c text).result = .error e) :
    (explain c options text).result = .error e := by
  rw [explain, Logged.result_bind, h]
  rfl

/-- Explaining a query estimates its canonical plan and what that is optimised to. -/
theorem result_explain {s t : Relation} (hp : (canonicalPlanOf c text).result = .ok p)
    (hq : (p.optimise options).result = .ok q) (hs : p.estimate.outcome = .ok s)
    (ht : q.estimate.outcome = .ok t) :
    (explain c options text).result = .ok ⟨p.estimate.plan, q.estimate.plan⟩ := by
  refine Logged.result_bind_eq_ok_iff.2 ⟨p, hp, ?_⟩
  refine Logged.result_bind_eq_ok_iff.2 ⟨q, (p.result_optimiseInPlace options).trans hq, ?_⟩
  refine Logged.result_bind_eq_ok_iff.2 ⟨(p.estimate.plan, s), Plan.result_annotated hs, ?_⟩
  refine Logged.result_bind_eq_ok_iff.2 ⟨(q.estimate.plan, t), Plan.result_annotated ht, ?_⟩
  refine Logged.result_bind_eq_ok_iff.2 ⟨(), rfl, ?_⟩
  split <;> rfl

/-- Nothing fails behind the canonical plan. -/
theorem exists_optimise_of_canonicalPlanOf (hc : c.Valid) (options : Options)
    (h : (canonicalPlanOf c text).result = .ok p) :
    ∃ q, (p.optimise options).result = .ok q ∧ q.Rearranges p ∧
      (explain c options text).result = .ok ⟨p.estimate.plan, q.estimate.plan⟩ := by
  obtain ⟨k, -, hk⟩ := canonicalPlanOf_eq_ok h
  have hp := resolved_of_plan hk
  have hd := distinct_of_plan hc hk
  obtain ⟨q, hq⟩ := hp.exists_optimise hd options
  have hw := hd.rearranges_optimise hq
  exact ⟨q, hq, hw, result_explain h hq hp.outcome hw.resolved.outcome⟩

/-- What an explanation shows: the canonical plan and what it is optimised to, with an estimate at
every node, no more tuples estimated for the second than for the first, and the same base relations
in both. -/
structure Shows (c : Catalogue) (options : Options) (text : String) (x : Explanation) : Prop where
  /-- Without its estimates, the first plan is the canonical one. -/
  canonical : (canonicalPlanOf c text).result = .ok x.canonical.clearOutputs
  /-- Without its estimates, the second plan is what the first one is optimised to. -/
  optimised : (x.canonical.clearOutputs.optimise options).result = .ok x.optimised.clearOutputs
  /-- Every node of the first plan carries its estimate. -/
  canonical_carries : x.canonical.Everywhere Plan.Carries
  /-- Every node of the second plan carries its estimate. -/
  optimised_carries : x.optimised.Everywhere Plan.Carries
  /-- The second plan does not cost more. -/
  cost_le : x.optimisedCost ≤ x.canonicalCost
  /-- Both plans read the same base relations, each as often. -/
  scans : x.optimised.scans.Perm x.canonical.scans

theorem shows_of_optimise (h : (canonicalPlanOf c text).result = .ok p)
    (hq : (p.optimise options).result = .ok q) (hw : q.Rearranges p) :
    Shows c options text ⟨p.estimate.plan, q.estimate.plan⟩ := by
  obtain ⟨k, -, hk⟩ := canonicalPlanOf_eq_ok h
  have hp : p.estimate.plan.clearOutputs = p :=
    p.clearOutputs_estimate.trans (Plan.bare_iff_clearOutputs_eq.1 (bare_of_plan hk))
  have hq' : q.estimate.plan.clearOutputs = q :=
    q.clearOutputs_estimate.trans (Plan.bare_iff_clearOutputs_eq.1 hw.bare)
  obtain ⟨r, s, hr, hs, hle⟩ := Plan.exists_outcome_le_of_optimise hq
  refine ⟨?_, ?_, Plan.carries_estimate hr, Plan.carries_estimate hs, ?_, ?_⟩
  · rwa [hp]
  · rwa [hp, hq']
  · show Explanation.costOf _ ≤ Explanation.costOf _
    rwa [Plan.costOf_estimate hr, Plan.costOf_estimate hs]
  · rw [Plan.scans_estimate, Plan.scans_estimate]
    exact hw.scans

/-- **Acceptance**: over a catalogue that was built by its own operations, a query is explained
exactly if its canonical plan can be built, and fails with the same error otherwise; an explanation
shows the canonical plan and what it is optimised to. -/
theorem explain_iff_canonicalPlanOf (hc : c.Built) (options : Options) (text : String) :
    ((∃ x, (explain c options text).result = .ok x) ↔
        ∃ p, (canonicalPlanOf c text).result = .ok p) ∧
      (∀ e, (explain c options text).result = .error e ↔
        (canonicalPlanOf c text).result = .error e) ∧
      ∀ x, (explain c options text).result = .ok x → Shows c options text x := by
  cases h : (canonicalPlanOf c text).result with
  | error e =>
    rw [explain_error h]
    simp
  | ok p =>
    obtain ⟨q, hq, hw, hx⟩ := exists_optimise_of_canonicalPlanOf hc.valid options h
    rw [hx]
    refine ⟨by simp, by simp, ?_⟩
    rintro x hx
    cases hx
    exact shows_of_optimise h hq hw

/-- The ships of a harbour, each with its home port. -/
def ships : BaseRelation :=
  ⟨"ships", ⟨.clamp 40, [⟨"hull", .clamp 40⟩, ⟨"port", .clamp 5⟩]⟩⟩

/-- Who sails on which ship. -/
def crew : BaseRelation :=
  ⟨"crew", ⟨.clamp 600, [⟨"sailor", .clamp 600⟩, ⟨"ship", .clamp 40⟩]⟩⟩

/-- The relations of a harbour. -/
def harbour : Catalogue := ⟨[ships, crew]⟩

theorem built_harbour : harbour.Built := by
  have h := Catalogue.Built.empty.createRelation
    (rfl : Catalogue.empty.createRelation "ships" (.clamp 40) = .ok _)
  replace h := h.createAttribute
    (rfl : Catalogue.createAttribute _ "ships" "hull" (.clamp 40) = .ok _)
  replace h := h.createAttribute
    (rfl : Catalogue.createAttribute _ "ships" "port" (.clamp 5) = .ok _)
  replace h := h.createRelation
    (rfl : Catalogue.createRelation _ "crew" (.clamp 600) = .ok _)
  replace h := h.createAttribute
    (rfl : Catalogue.createAttribute _ "crew" "sailor" (.clamp 600) = .ok _)
  exact h.createAttribute
    (rfl : Catalogue.createAttribute _ "crew" "ship" (.clamp 40) = .ok harbour)

/-- The sailors of the ships of one port. -/
def sailors : String := "select sailor from ships, crew where ship = hull, port = 7"

/-- What `sailors` spells out over the harbour. -/
def sailorsPlan : Plan :=
  ((Plan.read ships).times (.read crew) |>.filtered
    (.equality ⟨"ship", .clamp 40⟩ ⟨"hull", .clamp 40⟩) |>.filtered
    (.literal ⟨"port", .clamp 5⟩ "7")).narrowed [⟨"sailor", .clamp 600⟩]

theorem sailors_explained :
    harbour.Built ∧ (canonicalPlanOf harbour sailors).result = .ok sailorsPlan ∧
      ∃ x, (explain harbour ⟨true, true⟩ sailors).result = .ok x ∧
        Shows harbour ⟨true, true⟩ sailors x := by
  have hp : (canonicalPlanOf harbour sailors).result = .ok sailorsPlan := by decide +kernel
  obtain ⟨haccepts, -, hshows⟩ := explain_iff_canonicalPlanOf built_harbour ⟨true, true⟩ sailors
  obtain ⟨x, hx⟩ := haccepts.2 ⟨sailorsPlan, hp⟩
  exact ⟨built_harbour, hp, x, hx, hshows x hx⟩

end Query

end RelPlan
