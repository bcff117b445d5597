import RelPlan.Estimate.Pass

/-!
# Computations without estimates

`Logged.erase` removes estimates from what a computation works on and from the plans it reports. A
sequence, a fold and a list of computations are erased part by part, so that a computation that is
put together in one of these ways is known without estimates if its parts are. No estimate is seen
in a log (`Event.line_clearOutputs`).
-/

namespace RelPlan

namespace Event

/-- The event with the estimates removed from its plan. -/
def clearOutputs : Event → Event
  | pushed p x => pushed p x.clearOutputs
  | costed x cost => costed x.clearOutputs cost
  | committed k x cost => committed k x.clearOutputs cost
  | rearranged x cost => rearranged x.clearOutputs cost
  | kept x cost other => kept x.clearOutputs cost other
  | canonical x => canonical x.clearOutputs
  | e => e

/-- A log does not show the estimates that a plan carries. -/
theorem line_clearOutputs (e : Event) : e.clearOutputs.line = e.line := by
  have hlevel : e.clearOutputs.level = e.level := by
    cases e <;> rfl
  have hmessage : e.clearOutputs.message = e.message := by
    cases e with
    | pushed _ x | costed x _ | committed _ x _ | rearranged x _ | kept x _ _ | canonical x =>
      dsimp only [clearOutputs, message]
      rw [x.compact_clearOutputs]
    | estimated | unplaced | loadedRelation | loadedCatalogue | explained | productsKept => rfl
  rw [line, line, hlevel, hmessage]

end Event

namespace Logged

variable {α β γ δ : Type}

/-- The computation without estimates: `f` removes them from its value, and they are removed from
the plans it reports. -/
def erase (f : α → γ) (x : Logged α) : Logged γ :=
  ⟨x.result.map f, x.events.map Event.clearOutputs⟩

/-- A sequence is erased part by part. -/
theorem erase_bind {f : α → γ} {g : β → δ} {x : Logged α} {x' : Logged γ} {k : α → Logged β}
    {k' : γ → Logged δ} (hx : x.erase f = x') (hk : ∀ a, (k a).erase g = k' (f a)) :
    (x >>= k).erase g = x' >>= k' := by
  subst hx
  obtain ⟨r, es⟩ := x
  cases r with
  | error e => rfl
  | ok a =>
    refine Logged.ext ?_ ?_
    · show (k a).result.map g = (k' (f a)).result
      rw [← hk a]
      rfl
    · show (es ++ (k a).events).map Event.clearOutputs = es.map _ ++ (k' (f a)).events
      rw [← hk a, List.map_append]
      rfl

/-- A fold is erased step by step. -/
theorem erase_foldlM {f : β → γ} {step : β → α → Logged β} {step' : γ → α → Logged γ}
    (h : ∀ b a, (step b a).erase f = step' (f b) a) (as : List α) (b : β) :
    (as.foldlM step b).erase f = as.foldlM step' (f b) := by
  induction as generalizing b with
  | nil => rfl
  | cons a as ih =>
    rw [List.foldlM_cons, List.foldlM_cons]
    exact erase_bind (h b a) ih

/-- A list of computations is erased item by item. -/
theorem erase_mapM {f : β → γ} {k : α → Logged β} {k' : α → Logged γ}
    (h : ∀ a, (k a).erase f = k' a) (as : List α) :
    (as.mapM k).erase (List.map f) = as.mapM k' := by
  induction as with
  | nil => rfl
  | cons a as ih =>
    rw [List.mapM_cons, List.mapM_cons]
    exact erase_bind (h a) fun b => erase_bind ih fun bs => rfl

end Logged

/-- Estimating reports no plan, and a relation carries no estimates. -/
theorem Plan.erase_estimated (p : Plan) : p.estimated.erase id = p.estimated := by
  have hevents : p.estimate.events.map Event.clearOutputs = p.estimate.events :=
    (List.map_congr_left (p.forall_mem_events_estimate fun _ _ => rfl)).trans (List.map_id _)
  refine Logged.ext ?_ hevents
  show p.estimate.outcome.map id = p.estimate.outcome
  cases p.estimate.outcome <;> rfl

end RelPlan
