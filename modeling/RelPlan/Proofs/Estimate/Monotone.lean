import RelPlan.Proofs.Counts
import RelPlan.Proofs.Plan.Places

/-!
# Larger base relations

Two plans that differ only in the tuple counts of the base relations they read, and in the estimates
they carry, are estimated alike but for tuple counts: both fail in the same way, or every node of
the plan over the smaller relations is estimated at no more tuples than the same node of the other
one, and at the same attributes (`Plan.estimate_mono`). Each formula keeps this order, since it
looks at attributes only to find its divisor, and since a product that is held at the largest count
is still monotone.
-/

namespace RelPlan

/-- The first relation has no more tuples than the second one, and the same attributes. -/
def Relation.Below (r s : Relation) : Prop := r.tuples ≤ s.tuples ∧ r.attributes = s.attributes

theorem Relation.lookup_congr {r s : Relation} (h : r.attributes = s.attributes) (a : Attribute) :
    r.lookup a = s.lookup a := by
  obtain ⟨t, as⟩ := r
  cases h
  rfl

/-! ### Outcomes in order -/

/-- Both outcomes are the same error, or relations of which the first is below the second. -/
inductive OutcomeBelow : Except PlanError Relation → Except PlanError Relation → Prop
  /-- Both succeed. -/
  | ok {r s : Relation} (h : r.Below s) : OutcomeBelow (.ok r) (.ok s)
  /-- Both fail in the same way. -/
  | error (e : PlanError) : OutcomeBelow (.error e) (.error e)

namespace OutcomeBelow

variable {α : Type} {x y : Except PlanError Relation} {f g : Relation → Except PlanError Relation}

theorem cases (h : OutcomeBelow x y) :
    (∃ e, x = .error e ∧ y = .error e) ∨ ∃ r s, x = .ok r ∧ y = .ok s ∧ r.Below s := by
  cases h with
  | ok h => exact .inr ⟨_, _, rfl, rfl, h⟩
  | error e => exact .inl ⟨e, rfl, rfl⟩

theorem bind (h : OutcomeBelow x y) (hfg : ∀ r s, r.Below s → OutcomeBelow (f r) (g s)) :
    OutcomeBelow (x >>= f) (y >>= g) := by
  cases h with
  | ok h => exact hfg _ _ h
  | error e => exact .error e

/-- After the same first part, the outcomes of the second parts decide. -/
theorem bind_same {z : Except PlanError α} {f g : α → Except PlanError Relation}
    (hfg : ∀ a, OutcomeBelow (f a) (g a)) : OutcomeBelow (z >>= f) (z >>= g) := by
  cases z with
  | ok a => exact hfg a
  | error e => exact .error e

end OutcomeBelow

/-! ### The formulas -/

namespace Estimate

variable {l l' r r' : Relation}

theorem select_below (p : Predicate) (h : r.Below r') :
    OutcomeBelow (select p r) (select p r') := by
  cases p with
  | literal a v =>
    rw [select, select, Relation.lookup_congr h.2, h.2]
    exact .bind_same fun _ => .ok ⟨Count.ceilDiv_mono h.1, rfl⟩
  | equality a b =>
    rw [select, select, Relation.lookup_congr h.2, Relation.lookup_congr h.2 b, h.2]
    exact .bind_same fun _ => .bind_same fun _ => .ok ⟨Count.ceilDiv_mono h.1, rfl⟩

theorem project_below (as : List Attribute) (h : r.Below r') :
    OutcomeBelow (project as r) (project as r') := by
  obtain ⟨t, cs⟩ := r
  obtain ⟨t', cs'⟩ := r'
  obtain ⟨hle, rfl⟩ := h
  have hfind : (as.find? fun a => ¬ (Relation.mk t' cs).Has a.name) =
      as.find? fun a => ¬ (Relation.mk t cs).Has a.name := rfl
  rw [project, project, hfind]
  cases as.find? fun a => ¬ (Relation.mk t cs).Has a.name with
  | none => exact .ok ⟨hle, rfl⟩
  | some a => exact .error _

theorem product_below (hl : l.Below l') (hr : r.Below r') :
    (product l r).Below (product l' r') :=
  ⟨Count.mul_mono hl.1 hr.1, congrArg₂ (· ++ ·) hl.2 hr.2⟩

theorem join_below (p : Predicate) (hl : l.Below l') (hr : r.Below r') :
    OutcomeBelow (join p l r) (join p l' r') := by
  cases p with
  | literal a v => exact .error _
  | equality a b =>
    have hseen : (fun c : Attribute => decide ¬ l.Has c.name) =
        fun c => decide ¬ l'.Has c.name := by
      obtain ⟨t, cs⟩ := l
      obtain ⟨-, rfl⟩ := hl
      rfl
    rw [join, join, Relation.lookup_congr hl.2, Relation.lookup_congr hr.2, hseen, hl.2, hr.2]
    exact .bind_same fun _ => .bind_same fun _ =>
      .ok ⟨Count.ceilDiv_mono (Count.mul_mono hl.1 hr.1), rfl⟩

end Estimate

/-! ### Plans -/

namespace Plan

/-- The plans are the same but for the estimates they carry and for the tuple counts of their base
relations, of which those of the first plan are at most those of the second one. -/
inductive Below : Plan → Plan → Prop
  /-- A base relation under the same name. -/
  | scan {name : String} {r s : Relation} {o o' : Option Relation} (h : r.Below s) :
    Below (scan ⟨name, r⟩ o) (scan ⟨name, s⟩ o')
  /-- The same selection. -/
  | select {p : Predicate} {i j : Plan} {o o' : Option Relation} (h : Below i j) :
    Below (select p i o) (select p j o')
  /-- The same projection. -/
  | project {as : List Attribute} {i j : Plan} {o o' : Option Relation} (h : Below i j) :
    Below (project as i o) (project as j o')
  /-- Products, side by side. -/
  | product {l l' r r' : Plan} {o o' : Option Relation} (hl : Below l l') (hr : Below r r') :
    Below (product l r o) (product l' r' o')
  /-- The same join, side by side. -/
  | join {p : Predicate} {l l' r r' : Plan} {o o' : Option Relation} (hl : Below l l')
    (hr : Below r r') : Below (join p l r o) (join p l' r' o')

variable {p q i n : Plan}

/-- **Outcome**: the estimates of whole plans are in order. -/
theorem Below.outcome (h : p.Below q) : OutcomeBelow p.estimate.outcome q.estimate.outcome := by
  induction h with
  | scan h => exact .ok h
  | select h ih =>
    rw [outcome_select, outcome_select]
    exact ih.bind fun _ _ => Estimate.select_below _
  | project h ih =>
    rw [outcome_project, outcome_project]
    exact ih.bind fun _ _ => Estimate.project_below _
  | product hl hr ihl ihr =>
    rw [outcome_product, outcome_product]
    exact ihl.bind fun _ _ hl => ihr.bind fun _ _ hr => .ok (Estimate.product_below hl hr)
  | join hl hr ihl ihr =>
    rw [outcome_join, outcome_join]
    exact ihl.bind fun _ _ hl => ihr.bind fun _ _ hr => Estimate.join_below _ hl hr

theorem Below.exists_input (h : p.Below q) {k : Nat} (hi : p.inputs[k]? = some i) :
    ∃ j, q.inputs[k]? = some j ∧ i.Below j := by
  cases h with
  | scan => cases hi
  | select h | project h =>
    rcases k with _ | k
    · cases hi
      exact ⟨_, rfl, h⟩
    · cases hi
  | product hl hr | join hl hr =>
    rcases k with _ | _ | k
    · cases hi
      exact ⟨_, rfl, hl⟩
    · cases hi
      exact ⟨_, rfl, hr⟩
    · cases hi

/-- The parts at a place are in order, as the whole plans are. -/
theorem Below.exists_at? (h : p.Below q) {path : List Nat} (hn : p.at? path = some n) :
    ∃ m, q.at? path = some m ∧ n.Below m := by
  induction path generalizing p q with
  | nil =>
    cases hn
    exact ⟨q, rfl, h⟩
  | cons k path ih =>
    obtain ⟨i, hi, hn⟩ := Option.bind_eq_some_iff.1 hn
    obtain ⟨j, hj, hij⟩ := h.exists_input hi
    obtain ⟨m, hm, hnm⟩ := ih hij hn
    exact ⟨m, Option.bind_eq_some_iff.2 ⟨j, hj, hm⟩, hnm⟩

/-- **Monotone**: with larger base relations a plan fails to be estimated in the same way, or every
node of it is estimated at no fewer tuples, with the same attributes and value counts. -/
theorem estimate_mono (h : p.Below q) :
    (∃ e, p.estimated.result = .error e ∧ q.estimated.result = .error e) ∨
    ∃ s t, p.estimated.result = .ok s ∧ q.estimated.result = .ok t ∧
      ∀ path n, p.at? path = some n → ∃ m, q.at? path = some m ∧ n.Below m ∧
        ∃ a b, (p.estimate.plan.at? path).bind output = some a ∧
          (q.estimate.plan.at? path).bind output = some b ∧
          a.tuples ≤ b.tuples ∧ a.attributes = b.attributes := by
  rcases h.outcome.cases with ⟨e, hp, hq⟩ | ⟨s, t, hp, hq, -⟩
  · exact .inl ⟨e, hp, hq⟩
  · refine .inr ⟨s, t, hp, hq, fun path n hn => ?_⟩
    obtain ⟨m, hm, hnm⟩ := h.exists_at? hn
    obtain ⟨⟨a, ha⟩, hpat⟩ := estimate_at? hp hn
    obtain ⟨⟨b, hb⟩, hqat⟩ := estimate_at? hq hm
    have hab : a.Below b := by
      have hout := hnm.outcome
      rw [ha, hb] at hout
      cases hout with
      | ok hab => exact hab
    refine ⟨m, hm, hnm, a, b, ?_, ?_, hab⟩
    · rw [hpat]
      exact output_estimate ha
    · rw [hqat]
      exact output_estimate hb

/-- The samples taken at the stations, with so many tuples of each. -/
def samplesAtStations (samples stations : Count) : Plan :=
  ((read ⟨"samples", ⟨samples, [⟨"depth", .clamp 30⟩, ⟨"station", .clamp 11⟩]⟩⟩).joined
    ((read ⟨"stations", ⟨stations, [⟨"code", .clamp 14⟩, ⟨"depth", 0⟩]⟩⟩).filtered
      (.literal ⟨"depth", 1⟩ "5"))
    (.equality ⟨"station", 1⟩ ⟨"code", 1⟩)).narrowed [⟨"depth", 1⟩]

/-- The product of the larger base relations leaves the range of counts. -/
theorem samplesAtStations_mono :
    (samplesAtStations (.clamp 40) (.clamp 2)).Below
        (samplesAtStations (.clamp countLimit) (.clamp 3)) ∧
      ∃ a b, ((samplesAtStations (.clamp 40) (.clamp 2)).estimate.plan.at? [0]).bind output =
          some a ∧
        ((samplesAtStations (.clamp countLimit) (.clamp 3)).estimate.plan.at? [0]).bind output =
          some b ∧ a.tuples ≤ b.tuples ∧ a.attributes = b.attributes := by
  have h : (samplesAtStations (.clamp 40) (.clamp 2)).Below
      (samplesAtStations (.clamp countLimit) (.clamp 3)) :=
    .project (.join (.scan ⟨by decide, rfl⟩) (.select (.scan ⟨by decide, rfl⟩)))
  obtain ⟨e, he, -⟩ | ⟨s, t, -, -, hat⟩ := estimate_mono h
  · cases he
  · obtain ⟨m, -, -, a, b, hab⟩ := hat [0] _ rfl
    exact ⟨h, a, b, hab⟩

end Plan

end RelPlan
