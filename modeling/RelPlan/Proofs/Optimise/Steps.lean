import Mathlib.Data.List.MinMax
import Mathlib.Data.List.Perm.Basic
import RelPlan.Proofs.Optimise.Candidate

/-!
# The steps of the search

The search, without its events: a step takes the first of the cheapest choices
(`Search.result_step`), and a run repeats that (`Search.result_steps`). A choice takes its two
inputs out of the plans at hand and leaves the others (`plans_perm_of_mem_choices`), and there is a
choice as long as two plans are left (`choices_ne_nil`).
-/

namespace RelPlan

/-! ### Pairs -/

theorem pairs_cons {α : Type} (x : α) (xs : List α) :
    pairs (x :: xs) = xs.map (fun y => (x, y)) ++ pairs xs := rfl

/-- The pairs are those of an element and a later one. -/
theorem mem_pairs_iff {α : Type} {xs : List α} {x y : α} :
    (x, y) ∈ pairs xs ↔ ∃ i j : Nat, i < j ∧ xs[i]? = some x ∧ xs[j]? = some y := by
  induction xs with
  | nil => simp [pairs]
  | cons z xs ih =>
    rw [pairs_cons, List.mem_append, ih]
    constructor
    · rintro (h | ⟨i, j, hij, hx, hy⟩)
      · obtain ⟨w, hw, he⟩ := List.mem_map.1 h
        cases he
        obtain ⟨j, hj⟩ := List.mem_iff_getElem?.1 hw
        exact ⟨0, j + 1, Nat.succ_pos j, rfl, hj⟩
      · exact ⟨i + 1, j + 1, Nat.succ_lt_succ hij, hx, hy⟩
    · rintro ⟨i, j, hij, hx, hy⟩
      obtain ⟨j, rfl⟩ : ∃ k, j = k + 1 := ⟨j - 1, by omega⟩
      rw [List.getElem?_cons_succ] at hy
      cases i with
      | zero =>
        cases hx
        exact Or.inl (List.mem_map.2 ⟨y, List.mem_of_getElem? hy, rfl⟩)
      | succ i => exact Or.inr ⟨i, j, Nat.lt_of_succ_lt_succ hij, hx, hy⟩

/-- In a rearranged list every pair is found again, perhaps the other way round. -/
theorem mem_pairs_of_perm {α : Type} {xs ys : List α} (h : xs.Perm ys) {x y : α}
    (hm : (x, y) ∈ pairs xs) : (x, y) ∈ pairs ys ∨ (y, x) ∈ pairs ys := by
  induction h generalizing x y with
  | nil => exact Or.inl hm
  | cons z h ih =>
    simp only [pairs_cons, List.mem_append, List.mem_map, Prod.mk.injEq] at hm ⊢
    rcases hm with ⟨w, hw, rfl, rfl⟩ | hm
    · exact Or.inl (Or.inl ⟨w, h.subset hw, rfl, rfl⟩)
    · exact (ih hm).imp Or.inr Or.inr
  | swap z w xs =>
    simp only [pairs_cons, List.mem_append, List.mem_map, Prod.mk.injEq, List.mem_cons] at hm ⊢
    rcases hm with ⟨v, rfl | hv, rfl, rfl⟩ | ⟨v, hv, rfl, rfl⟩ | hm
    · exact Or.inr (Or.inl ⟨_, Or.inl rfl, rfl, rfl⟩)
    · exact Or.inl (Or.inr (Or.inl ⟨v, hv, rfl, rfl⟩))
    · exact Or.inl (Or.inl ⟨v, Or.inr hv, rfl, rfl⟩)
    · exact Or.inl (Or.inr (Or.inr hm))
  | trans _ _ ih₁ ih₂ =>
    rcases ih₁ hm with hm | hm
    · exact ih₂ hm
    · exact (ih₂ hm).symm

theorem pairs_map {α β : Type} (f : α → β) (xs : List α) :
    pairs (xs.map f) = (pairs xs).map (Prod.map f f) := by
  induction xs with
  | nil => rfl
  | cons x xs ih => simp [pairs_cons, ih]

/-! ### The cheapest choice -/

/-- The first of least cost comes first if nothing costs less. -/
theorem argmin_cons_of_le {α : Type} {f : α → Nat} {x : α} {xs : List α}
    (h : ∀ y ∈ xs, f x ≤ f y) : List.argmin f (x :: xs) = some x := by
  rw [List.argmin_cons]
  cases hm : List.argmin f xs with
  | none => rfl
  | some m => exact if_neg (Nat.not_lt.2 (h m (List.argmin_mem hm)))

namespace Search

/-- What a choice costs. -/
def cost (σ : Situation) (c : Choice) : Nat := (σ.costed c.left c.right).cost.toNat

/-- A choice displaces the best one so far if it costs less. -/
theorem beats_iff {σ : Situation} {c b : Choice} :
    (σ.costed c.left c.right).Beats ((some (σ.costed b.left b.right, b)).map Prod.fst) ↔
      cost σ c < cost σ b := by
  simp [Candidate.Beats, cost, Count.lt_def]

/-- If every choice has its candidate, the first of the cheapest is chosen. -/
theorem result_cheapest {σ : Situation} {choices : List Choice}
    (h : ∀ c ∈ choices, (σ.candidate c.left c.right).result = .ok (σ.costed c.left c.right)) :
    (cheapest σ choices).result =
      .ok ((List.argmin (cost σ) choices).map fun c => (σ.costed c.left c.right, c)) := by
  have hfold : ∀ best : Option Choice, (choices.foldlM (fun best choice => do
      let candidate ← σ.candidate choice.left choice.right
      return if candidate.Beats (best.map Prod.fst) then some (candidate, choice) else best)
        (best.map fun c => (σ.costed c.left c.right, c)) : Logged _).result =
      .ok ((choices.foldl (List.argAux fun b c => cost σ b < cost σ c) best).map
        fun c => (σ.costed c.left c.right, c)) := by
    induction choices with
    | nil => exact fun _ => rfl
    | cons c choices ih =>
      rw [List.forall_mem_cons] at h
      intro best
      rw [List.foldlM_cons, List.foldl_cons, ← ih h.2, Logged.result_bind, Logged.result_bind, h.1]
      show Logged.result (choices.foldlM _ (if (σ.costed c.left c.right).Beats _ then _ else _)) = _
      congr 2
      cases best with
      | none => exact if_pos nofun
      | some b =>
        show ite _ _ _ = Option.map _ (if cost σ c < cost σ b then some c else some b)
        by_cases hb : cost σ c < cost σ b
        · rw [if_pos hb]
          exact if_pos (beats_iff.2 hb)
        · rw [if_neg hb]
          exact if_neg fun h => hb (beats_iff.1 h)
  exact hfold none

/-! ### Choices -/

/-- The plans at hand: what has been combined, then the inputs that are not used yet. -/
def plans (s : Search) : List Plan := s.combined.toList ++ s.pool

/-- A first step chooses a pair from the pool; a later one adds an input to what is combined. -/
theorem mem_choices_iff {s : Search} {c : Choice} :
    c ∈ s.choices ↔
      (s.combined = none ∧ ∃ i j : Nat, i < j ∧ s.pool[i]? = some c.left ∧
        s.pool[j]? = some c.right ∧ c.used = [i, j]) ∨
      (s.combined = some c.left ∧ ∃ j : Nat, s.pool[j]? = some c.right ∧ c.used = [j]) := by
  obtain ⟨left, right, used⟩ := c
  unfold choices
  cases s.combined with
  | none =>
    simp only [List.mem_map, Prod.exists, mem_pairs_iff, List.getElem?_zipIdx,
      Option.map_eq_some_iff, Prod.mk.injEq, Choice.mk.injEq, Nat.zero_add, true_and, reduceCtorEq,
      false_and, or_false]
    constructor
    · rintro ⟨l, _, r, _, ⟨i, j, hij, ⟨_, hl, rfl, rfl⟩, ⟨_, hr, rfl, rfl⟩⟩, rfl, rfl, rfl⟩
      exact ⟨i, j, hij, hl, hr, rfl⟩
    · rintro ⟨i, j, hij, hl, hr, rfl⟩
      exact ⟨left, i, right, j, ⟨i, j, hij, ⟨left, hl, rfl, rfl⟩, ⟨right, hr, rfl, rfl⟩⟩,
        rfl, rfl, rfl⟩
  | some plan =>
    simp only [List.mem_map, Prod.exists, List.mem_zipIdx_iff_getElem?, Choice.mk.injEq,
      reduceCtorEq, false_and, false_or, Option.some.injEq]
    constructor
    · rintro ⟨r, j, hr, rfl, rfl, rfl⟩
      exact ⟨rfl, j, hr, rfl⟩
    · rintro ⟨rfl, j, hr, rfl⟩
      exact ⟨right, j, hr, rfl, rfl, rfl⟩

theorem mem_of_mem_eraseAll {α : Type} {positions : List Nat} {xs : List α} {x : α}
    (h : x ∈ eraseAll positions xs) : x ∈ xs := by
  induction positions with
  | nil => exact h
  | cons i positions ih => exact ih (List.mem_of_mem_eraseIdx h)

theorem perm_eraseIdx {α : Type} {xs : List α} {i : Nat} {x : α} (h : xs[i]? = some x) :
    xs.Perm (x :: xs.eraseIdx i) := by
  obtain ⟨hi, rfl⟩ := List.getElem?_eq_some_iff.1 h
  exact (List.getElem_cons_eraseIdx_perm hi).symm

/-- A choice takes its inputs from the plans at hand, and the others stay in the pool. -/
theorem plans_perm_of_mem_choices {s : Search} {c : Choice} (h : c ∈ s.choices) :
    s.plans.Perm (c.left :: c.right :: eraseAll c.used s.pool) := by
  rw [plans]
  rcases mem_choices_iff.1 h with ⟨hs, i, j, hij, hl, hr, hu⟩ | ⟨hs, j, hr, hu⟩
  · rw [hs, hu]
    have hl' : (s.pool.eraseIdx j)[i]? = some c.left := by
      rw [List.getElem?_eraseIdx_of_lt hij, hl]
    exact (perm_eraseIdx hr).trans (((perm_eraseIdx hl').cons c.right).trans (.swap _ _ _))
  · rw [hs, hu]
    exact (perm_eraseIdx hr).cons c.left

/-- The first choice is that of the first two plans at hand. -/
theorem choices_eq_cons {s : Search} {left right : Plan} {others : List Plan}
    (h : s.plans = left :: right :: others) :
    ∃ c cs, s.choices = c :: cs ∧ c.left = left ∧ c.right = right ∧
      eraseAll c.used s.pool = others := by
  obtain ⟨combined, pool, pending⟩ := s
  cases combined with
  | none =>
    obtain rfl : pool = left :: right :: others := h
    exact ⟨⟨left, right, [0, 1]⟩, _, rfl, rfl, rfl, rfl⟩
  | some plan =>
    obtain ⟨rfl, rfl⟩ := List.cons.inj h
    exact ⟨⟨plan, right, [0]⟩, _, rfl, rfl, rfl, rfl⟩

theorem choices_ne_nil {s : Search} (h : 2 ≤ s.plans.length) : s.choices ≠ [] := by
  match hp : s.plans with
  | left :: right :: others =>
    obtain ⟨c, cs, hc, -⟩ := choices_eq_cons hp
    exact hc ▸ List.cons_ne_nil c cs
  | [_] => simp [hp] at h
  | [] => simp [hp] at h

/-! ### Other plans in the place of the plans at hand -/

end Search

/-- The choice with the inputs changed by `f`. -/
def Choice.mapPlans (f : Plan → Plan) (c : Choice) : Choice :=
  { c with left := f c.left, right := f c.right }

namespace Search

/-- The search with the plans at hand changed by `f`. -/
def mapPlans (f : Plan → Plan) (s : Search) : Search where
  combined := s.combined.map f
  pool := s.pool.map f
  pending := s.pending

theorem plans_mapPlans (f : Plan → Plan) (s : Search) :
    (s.mapPlans f).plans = s.plans.map f := by
  obtain ⟨combined, pool, pending⟩ := s
  cases combined <;> rfl

theorem plan?_mapPlans (f : Plan → Plan) (s : Search) :
    (s.mapPlans f).plan? = s.plan?.map f := by
  obtain ⟨combined, pool, pending⟩ := s
  cases combined with
  | none => exact List.head?_map
  | some x => rfl

theorem choices_mapPlans (f : Plan → Plan) (s : Search) :
    (s.mapPlans f).choices = s.choices.map (Choice.mapPlans f) := by
  obtain ⟨combined, pool, pending⟩ := s
  cases combined <;>
    simp [choices, mapPlans, List.zipIdx_map, pairs_map, Choice.mapPlans, Function.comp_def]

theorem eraseAll_map {α β : Type} (f : α → β) (positions : List Nat) (xs : List α) :
    eraseAll positions (xs.map f) = (eraseAll positions xs).map f := by
  induction positions with
  | nil => rfl
  | cons i positions ih =>
    show (eraseAll positions (xs.map f)).eraseIdx i = ((eraseAll positions xs).eraseIdx i).map f
    rw [ih, List.eraseIdx_map]

/-! ### Steps -/

/-- The search after a choice was taken. -/
def after (σ : Situation) (s : Search) (c : Choice) : Search where
  combined := some (σ.combination c.left c.right)
  pool := eraseAll c.used s.pool
  pending := σ.unplaced c.left c.right

@[simp] theorem plans_after (σ : Situation) (s : Search) (c : Choice) :
    (s.after σ c).plans = σ.combination c.left c.right :: eraseAll c.used s.pool := rfl

@[simp] theorem pending_after (σ : Situation) (s : Search) (c : Choice) :
    (s.after σ c).pending = σ.unplaced c.left c.right := rfl

/-- To commit a costed choice is to take it. -/
theorem mk_costed_eq_after {σ : Situation} {s : Search} (hσ : σ.pending = s.pending) (c : Choice) :
    Search.mk (some (σ.costed c.left c.right).plan) (eraseAll c.used s.pool)
      (eraseAll (σ.costed c.left c.right).applied s.pending) = s.after σ c := by
  rw [← hσ]
  exact congrArg (Search.mk (some (σ.combination c.left c.right)) (eraseAll c.used s.pool))
    (σ.eraseAll_applied_placement c.left c.right)

variable (options : Options) (projections : List (List Attribute))

/-- The choice the next step takes. -/
def best? (s : Search) : Option Choice :=
  List.argmin (cost (s.situation options projections)) s.choices

/-- A step takes the first of the cheapest choices. -/
theorem result_step {s : Search}
    (h : ∀ c ∈ s.choices, ((s.situation options projections).candidate c.left c.right).result =
      .ok ((s.situation options projections).costed c.left c.right)) (k : Nat) :
    (s.step options projections k).result =
      match s.best? options projections with
      | none => .error .emptyPlan
      | some c => .ok (s.after (s.situation options projections) c) := by
  rw [step, Logged.result_bind, result_cheapest h, best?]
  cases List.argmin (cost (s.situation options projections)) s.choices with
  | none => rfl
  | some c => exact congrArg Except.ok (mk_costed_eq_after rfl c)

/-- If no candidate fails and two plans are at hand, a step takes a choice. -/
theorem exists_step_of_candidates {s : Search} (hlen : 2 ≤ s.plans.length)
    (h : ∀ c ∈ s.choices, ((s.situation options projections).candidate c.left c.right).result =
      .ok ((s.situation options projections).costed c.left c.right)) :
    ∃ c ∈ s.choices, s.best? options projections = some c ∧ ∀ k,
      (s.step options projections k).result =
        .ok (s.after (s.situation options projections) c) := by
  have hstep := result_step options projections h
  cases hb : s.best? options projections with
  | none => exact absurd (List.argmin_eq_none.1 hb) (choices_ne_nil hlen)
  | some c => exact ⟨c, List.argmin_mem hb, rfl, fun k => by rw [hstep k, hb]⟩

/-- Take steps while the events go unheard. -/
def run : Nat → Search → Except PlanError Search
  | 0, s => .ok s
  | n + 1, s => (s.step options projections 0).result >>= run n

/-- The number of a step matters to its event alone. -/
theorem result_step_eq (s : Search) (k : Nat) :
    (s.step options projections k).result = (s.step options projections 0).result := by
  rw [step, step, Logged.result_bind, Logged.result_bind]
  congr 1
  funext o
  cases o <;> rfl

theorem result_steps (n : Nat) (s : Search) :
    (s.steps options projections n).result = run options projections n s := by
  have hfold : ∀ ks : List Nat, ∀ s : Search,
      (ks.foldlM (fun (s : Search) k => s.step options projections (k + 1)) s).result =
        run options projections ks.length s := by
    intro ks
    induction ks with
    | nil => exact fun _ => rfl
    | cons k ks ih =>
      intro s
      rw [List.foldlM_cons, Logged.result_bind, result_step_eq]
      exact congrArg _ (funext ih)
  rw [steps, hfold, List.length_range]

end Search

end RelPlan
