import RelPlan.Estimate.Pass

/-!
# Warnings

Which events of a computation a log of warnings shows. The warnings of a sequence are those of its
parts, as far as it gets (`warnings_bind_of_ok`, `warnings_bind_of_error`). A computation without
warnings is `Calm`, and what is put together from calm computations is calm; in particular
estimating a plan is (`Plan.calm_estimated`).
-/

namespace RelPlan

theorem eventsAt_append (level : Level) (es fs : List Event) :
    eventsAt level (es ++ fs) = eventsAt level es ++ eventsAt level fs :=
  List.filter_append es fs

namespace Logged

variable {α β : Type}

/-- The events that are at least as severe as a warning, in order. -/
def warnings (x : Logged α) : List Event := eventsAt .warn x.events

/-- Nothing as severe as a warning is reported. -/
def Calm (x : Logged α) : Prop := x.warnings = []

section Sequence

variable {x : Logged α} {f : α → Logged β}

theorem warnings_bind_of_ok {a : α} (h : x.result = .ok a) :
    (x >>= f).warnings = x.warnings ++ (f a).warnings := by
  rw [warnings, events_bind, h, eventsAt_append]
  rfl

theorem warnings_bind_of_error {e : PlanError} (h : x.result = .error e) :
    (x >>= f).warnings = x.warnings := by
  rw [warnings, events_bind, h]
  exact congrArg (eventsAt .warn) (List.append_nil x.events)

/-- A calm second part adds no warning. -/
theorem warnings_bind_of_calm (hf : ∀ a, x.result = .ok a → (f a).Calm) :
    (x >>= f).warnings = x.warnings := by
  cases h : x.result with
  | error e => exact warnings_bind_of_error h
  | ok a => rw [warnings_bind_of_ok h, hf a h, List.append_nil]

theorem Calm.bind (hx : x.Calm) (hf : ∀ a, x.result = .ok a → (f a).Calm) : (x >>= f).Calm :=
  (warnings_bind_of_calm hf).trans hx

end Sequence

theorem calm_pure (a : α) : (pure a : Logged α).Calm := rfl

/-- What is less severe than a warning can be reported. -/
theorem calm_report {e : Event} (level : Level) (he : e.level = level)
    (h : Level.warn.verbosity < level.verbosity) : (report e).Calm := by
  have hn : ¬ e.level.verbosity ≤ Level.warn.verbosity := he ▸ Nat.not_le.2 h
  simp [Calm, warnings, eventsAt, hn]

theorem calm_foldlM {f : β → α → Logged β} (hf : ∀ b a, (f b a).Calm) (as : List α) (b : β) :
    (as.foldlM f b).Calm := by
  induction as generalizing b with
  | nil => exact calm_pure b
  | cons a as ih =>
    rw [List.foldlM_cons]
    exact (hf b a).bind fun c _ => ih c

theorem calm_mapM {f : α → Logged β} (hf : ∀ a, (f a).Calm) (as : List α) : (as.mapM f).Calm := by
  induction as with
  | nil => exact calm_pure []
  | cons a as ih =>
    rw [List.mapM_cons]
    exact (hf a).bind fun b _ => ih.bind fun bs _ => calm_pure (b :: bs)

end Logged

/-- Estimating a plan gives no warning. -/
theorem Plan.calm_estimated (p : Plan) : p.estimated.Calm := by
  refine List.filter_eq_nil_iff.2 (p.forall_mem_events_estimate fun operator r => ?_)
  show ¬ decide (Level.trace.verbosity ≤ Level.warn.verbosity) = true
  decide

end RelPlan
