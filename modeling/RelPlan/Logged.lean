import RelPlan.Event
import RelPlan.PlanError

/-!
# Computations that report events

A `Logged α` is the outcome of a computation together with the events it reported, in order. The
events before a failure are kept. Two laws describe sequencing: `result_bind` and `events_bind`.
-/

namespace RelPlan

/-- An outcome and the events on the way to it. -/
structure Logged (α : Type) where
  /-- The value, or why there is none. -/
  result : Except PlanError α
  /-- What was reported, in order. -/
  events : List Event

namespace Logged

variable {α β : Type}

/-- The outcome `r`, with nothing to report. -/
def ofExcept (r : Except PlanError α) : Logged α := ⟨r, []⟩

/-- The failure `e`, with nothing to report. -/
def fail (e : PlanError) : Logged α := ⟨.error e, []⟩

/-- Report one event. -/
def report (e : Event) : Logged Unit := ⟨.ok (), [e]⟩

/-- First `x`, then `f` with its value; `f` is not reached if `x` fails. -/
def andThen (x : Logged α) (f : α → Logged β) : Logged β :=
  match x.result with
  | .error e => ⟨.error e, x.events⟩
  | .ok a => ⟨(f a).result, x.events ++ (f a).events⟩

instance : Monad Logged where
  pure a := ⟨.ok a, []⟩
  bind := andThen

@[simp] theorem result_pure (a : α) : (pure a : Logged α).result = .ok a := rfl

@[simp] theorem events_pure (a : α) : (pure a : Logged α).events = [] := rfl

@[simp] theorem result_ofExcept (r : Except PlanError α) : (ofExcept r).result = r := rfl

@[simp] theorem events_ofExcept (r : Except PlanError α) : (ofExcept r).events = [] := rfl

@[simp] theorem result_fail (e : PlanError) : (fail e : Logged α).result = .error e := rfl

@[simp] theorem result_report (e : Event) : (report e).result = .ok () := rfl

@[simp] theorem events_report (e : Event) : (report e).events = [e] := rfl

/-- The outcomes of a sequence are sequenced as outcomes without events are. -/
@[simp] theorem result_bind (x : Logged α) (f : α → Logged β) :
    (x >>= f).result = x.result >>= fun a => (f a).result := by
  show (x.andThen f).result = _
  unfold andThen
  cases x.result <;> rfl

/-- The events of a sequence follow each other; those of the second part are there only if the
first part succeeds. -/
theorem events_bind (x : Logged α) (f : α → Logged β) :
    (x >>= f).events =
      x.events ++ match x.result with
        | .error _ => []
        | .ok a => (f a).events := by
  show (x.andThen f).events = _
  unfold andThen
  cases x.result <;> simp

@[ext]
theorem ext {x y : Logged α} (h : x.result = y.result) (h' : x.events = y.events) : x = y := by
  cases x; cases y; simp_all

theorem andThen_pure (x : Logged α) : (x.andThen fun a => pure a) = x := by
  unfold andThen
  cases hx : x.result <;> ext <;> simp [hx]

theorem pure_andThen (a : α) (f : α → Logged β) : (pure a : Logged α).andThen f = f a := by
  ext <;> simp [andThen]

theorem andThen_assoc {γ : Type} (x : Logged α) (f : α → Logged β) (g : β → Logged γ) :
    (x.andThen f).andThen g = x.andThen fun a => (f a).andThen g := by
  unfold andThen
  cases hx : x.result with
  | error => simp
  | ok a => cases hf : (f a).result <;> simp [hf]

instance : LawfulMonad Logged :=
  LawfulMonad.mk' Logged andThen_pure pure_andThen andThen_assoc

end Logged

end RelPlan
