import Mathlib.Data.List.Forall2
import RelPlan.Logged

/-!
# Success of a computation

What it tells about the parts of a computation that the whole of it gives a result: a sequence
succeeds if both parts do and fails where one of them does, a fold succeeds if every step does, and
a list of computations if each of them does. With `Logged.result_bind` and `Logged.result_foldlM`
this is said of computations that report events as well.
-/

namespace RelPlan

variable {ε α β : Type}

/-- A sequence gives a result exactly when both parts do. -/
theorem bind_eq_ok_iff {x : Except ε α} {f : α → Except ε β} {b : β} :
    x >>= f = .ok b ↔ ∃ a, x = .ok a ∧ f a = .ok b := by
  cases x <;> simp [bind, Except.bind]

/-- A sequence fails if the first part does, or if the second part does behind the first. -/
theorem bind_eq_error_iff {x : Except ε α} {f : α → Except ε β} {e : ε} :
    x >>= f = .error e ↔ x = .error e ∨ ∃ a, x = .ok a ∧ f a = .error e := by
  cases x <;> simp [bind, Except.bind]

/-- What holds at the start of a fold and is kept by every step that succeeds holds at the end. -/
theorem of_foldlM_eq_ok {P : β → Prop} {f : β → α → Except ε β} {as : List α} {b d : β} (hb : P b)
    (hf : ∀ b, P b → ∀ a ∈ as, ∀ c, f b a = .ok c → P c) (h : as.foldlM f b = .ok d) : P d := by
  induction as generalizing b with
  | nil =>
    cases h
    exact hb
  | cons a as ih =>
    rw [List.foldlM_cons, bind_eq_ok_iff] at h
    obtain ⟨c, hc, h⟩ := h
    refine ih (hf b hb a List.mem_cons_self c hc) ?_ h
    intro b hb a' ha'
    exact hf b hb a' (List.mem_cons_of_mem a ha')

/-- A fold succeeds only if the step for each element does, wherever the fold stands then. -/
theorem exists_of_foldlM_eq_ok {f : β → α → Except ε β} {as : List α} {b d : β}
    (h : as.foldlM f b = .ok d) : ∀ a ∈ as, ∃ b c, f b a = .ok c := by
  induction as generalizing b with
  | nil => exact fun _ ha => absurd ha List.not_mem_nil
  | cons a as ih =>
    rw [List.foldlM_cons, bind_eq_ok_iff] at h
    obtain ⟨c, hc, h⟩ := h
    intro a' ha'
    rcases List.mem_cons.1 ha' with rfl | ha'
    · exact ⟨b, c, hc⟩
    · exact ih h a' ha'

/-- Every result of a list of computations is the result of one of them. -/
theorem exists_of_mapM_eq_ok {f : α → Except ε β} {as : List α} {bs : List β}
    (h : as.mapM f = .ok bs) : ∀ b ∈ bs, ∃ a ∈ as, f a = .ok b := by
  induction as generalizing bs with
  | nil =>
    cases h
    nofun
  | cons a as ih =>
    rw [List.mapM_cons, bind_eq_ok_iff] at h
    obtain ⟨b, hb, h⟩ := h
    rw [bind_eq_ok_iff] at h
    obtain ⟨bs', hbs, h⟩ := h
    cases h
    intro b' hb'
    rcases List.mem_cons.1 hb' with rfl | hb'
    · exact ⟨a, List.mem_cons_self, hb⟩
    · obtain ⟨a', ha', he⟩ := ih hbs b' hb'
      exact ⟨a', List.mem_cons_of_mem a ha', he⟩

/-- Each result of a list of computations is that of the computation in the same place. -/
theorem forall₂_of_mapM_eq_ok {f : α → Except ε β} {as : List α} {bs : List β}
    (h : as.mapM f = .ok bs) : List.Forall₂ (fun a b => f a = .ok b) as bs := by
  induction as generalizing bs with
  | nil =>
    cases h
    exact .nil
  | cons a as ih =>
    rw [List.mapM_cons, bind_eq_ok_iff] at h
    obtain ⟨b, hb, h⟩ := h
    obtain ⟨bs', hbs, h⟩ := bind_eq_ok_iff.1 h
    cases h
    exact .cons hb (ih hbs)

namespace Logged

theorem result_bind_eq_ok_iff {x : Logged α} {f : α → Logged β} {b : β} :
    (x >>= f).result = .ok b ↔ ∃ a, x.result = .ok a ∧ (f a).result = .ok b := by
  rw [result_bind, bind_eq_ok_iff]

/-- The outcomes of the steps of a fold are folded as outcomes without events are. -/
theorem result_foldlM (f : β → α → Logged β) (as : List α) (b : β) :
    (as.foldlM f b).result = as.foldlM (fun b a => (f b a).result) b := by
  induction as generalizing b with
  | nil => rfl
  | cons a as ih =>
    rw [List.foldlM_cons, List.foldlM_cons, result_bind]
    exact congrArg _ (funext ih)

end Logged

end RelPlan
