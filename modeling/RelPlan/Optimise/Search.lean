import RelPlan.Optimise.Candidate

/-!
# The search for a join order

The order is chosen step by step. The first step combines the cheapest pair of inputs; each later
step adds the input that is cheapest to add to what has been combined. Among equally cheap
choices the first one wins. A step takes the chosen inputs out of the pool and the predicates it
applies out of the pending ones.
-/

namespace RelPlan

/-- What is done to a plan besides choosing the join order. -/
structure Options where
  /-- Put selections that need one base relation directly on its scan. -/
  pushSelections : Bool := true
  /-- Narrow the inputs of products and joins to the attributes needed above them. -/
  pushProjections : Bool := true
  deriving DecidableEq

/-- A choice open to a step: two inputs, and the positions in the pool they take up. -/
structure Choice where
  /-- The left input. -/
  left : Plan
  /-- The right input. -/
  right : Plan
  /-- The positions in the pool, in ascending order. -/
  used : List Nat

/-- All pairs of an element and a later one, ordered by the first, then by the second. -/
def pairs {α : Type} : List α → List (α × α)
  | [] => []
  | x :: xs => xs.map (fun y => (x, y)) ++ pairs xs

/-- How far the search has come. -/
structure Search where
  /-- What has been combined, if a step was taken. -/
  combined : Option Plan
  /-- The inputs not used yet. -/
  pool : List Plan
  /-- The predicates not applied yet. -/
  pending : List Predicate

namespace Search

/-- The choices open to the next step. -/
def choices (s : Search) : List Choice :=
  match s.combined with
  | none => (pairs s.pool.zipIdx).map fun ((l, i), (r, j)) => ⟨l, r, [i, j]⟩
  | some plan => s.pool.zipIdx.map fun (r, j) => ⟨plan, r, [j]⟩

/-- The first of the cheapest choices, with its candidate; every choice is costed. -/
def cheapest (situation : Situation) (choices : List Choice) :
    Logged (Option (Candidate × Choice)) :=
  choices.foldlM (fun best choice => do
    let candidate ← situation.candidate choice.left choice.right
    return if candidate.Beats (best.map Prod.fst) then some (candidate, choice) else best) none

/-- The list without the elements at the given positions, which are in ascending order. -/
def eraseAll {α : Type} (positions : List Nat) (xs : List α) : List α :=
  positions.foldr (fun i ys => ys.eraseIdx i) xs

/-- The situation in which the next step chooses. Inputs are narrowed if that is wanted and the
query projects at all. -/
def situation (s : Search) (options : Options) (projections : List (List Attribute)) :
    Situation where
  pending := s.pending
  needed? :=
    if options.pushProjections ∧ ¬ projections.isEmpty then
      some (neededAttributes projections s.pending)
    else none

/-- Take step number `k`. -/
def step (options : Options) (projections : List (List Attribute)) (s : Search) (k : Nat) :
    Logged Search := do
  match ← cheapest (s.situation options projections) s.choices with
  | none => Logged.fail .emptyPlan
  | some (best, choice) =>
    Logged.report (.committed k best.plan best.cost)
    return {
      combined := some best.plan
      pool := eraseAll choice.used s.pool
      pending := eraseAll best.applied s.pending }

/-- Take `n` steps, numbered from `1`. -/
def steps (options : Options) (projections : List (List Attribute)) (n : Nat) (s : Search) :
    Logged Search :=
  (List.range n).foldlM (fun s k => s.step options projections (k + 1)) s

/-- What the search came to: the combined plan, or the only input if no step was taken. -/
def plan? (s : Search) : Option Plan :=
  match s.combined with
  | some plan => some plan
  | none => s.pool.head?

end Search

end RelPlan
