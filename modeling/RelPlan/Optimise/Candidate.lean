import RelPlan.Estimate.Pass
import RelPlan.Optimise.Needed

/-!
# Candidates

A candidate is one way to combine two inputs. The inputs are first narrowed to the attributes that
are still needed. Then the pending predicates are placed: the first equality that links the two
sides makes the combination a join, and every other predicate that the two sides together can
evaluate is stacked on top as a selection. The candidate's cost is the tuple count estimated for
it.
-/

namespace RelPlan

/-- What the candidates of one step have in common. -/
structure Situation where
  /-- The predicates that are not applied yet. -/
  pending : List Predicate
  /-- The attributes that must stay visible, if inputs are narrowed at all. -/
  needed? : Option (List Attribute)

/-! ### Narrowing an input -/

/-- The attributes of a schema to narrow an input to, unless that would keep all or none. -/
def Situation.retained? (s : Situation) (schema : Relation) : Option (List Attribute) :=
  match s.needed? with
  | none => none
  | some needed =>
    let kept := schema.attributes.filter fun a => a.name ∈ namesOf needed
    if kept.isEmpty ∨ kept.length = schema.width then none else some kept

/-- The input, narrowed if that drops an attribute, with the relation estimated for it. -/
def Situation.narrow (s : Situation) (input : Plan) : Logged (Plan × Relation) := do
  let schema ← input.estimated
  match s.retained? schema with
  | none => return (input, schema)
  | some kept =>
    let narrowed ← (input.narrowed kept).estimated
    return (input.narrowed kept, narrowed)

/-! ### Placing the pending predicates -/

/-- Where the pending predicates go when two inputs are combined. -/
structure Placement where
  /-- The predicate of the join; a product has none. -/
  joinOn : Option Predicate
  /-- The predicates of the selections on top, the lowest first. -/
  stacked : List Predicate
  /-- The positions of all these in the list of pending predicates, in ascending order. -/
  applied : List Nat

/-- The placement of the pending predicates from position `i` on. While `seeking`, the first
predicate that links the two sides becomes the join's. -/
def placeFrom (left right : Relation) : Bool → Nat → List Predicate → Placement
  | _, _, [] => ⟨none, [], []⟩
  | seeking, i, p :: rest =>
    if seeking ∧ p.Links left right then
      let later := placeFrom left right false (i + 1) rest
      { later with joinOn := some (p.oriented left), applied := i :: later.applied }
    else if p.Within (left.beside right) then
      let later := placeFrom left right seeking (i + 1) rest
      { later with stacked := p :: later.stacked, applied := i :: later.applied }
    else placeFrom left right seeking (i + 1) rest

/-- The placement of all pending predicates. -/
def place (left right : Relation) (pending : List Predicate) : Placement :=
  placeFrom left right true 0 pending

/-- The two inputs combined as the placement says. -/
def Placement.combine (placement : Placement) (left right : Plan) : Plan :=
  placement.stacked.foldl Plan.filtered <|
    match placement.joinOn with
    | some p => left.joined right p
    | none => left.times right

/-! ### Costs -/

/-- A way to combine two inputs, with its cost. -/
structure Candidate where
  /-- The combined plan. -/
  plan : Plan
  /-- The tuple count estimated for it. -/
  cost : Count
  /-- The positions of the predicates it applies in the list of pending predicates. -/
  applied : List Nat

/-- A candidate displaces the best one so far only if it costs less. -/
def Candidate.Beats (c : Candidate) (best : Option Candidate) : Prop :=
  ∀ b ∈ best, c.cost < b.cost

instance (c : Candidate) (best : Option Candidate) : Decidable (c.Beats best) :=
  match best with
  | none => isTrue fun _ h => nomatch h
  | some b => decidable_of_iff (c.cost < b.cost) <| by simp [Candidate.Beats]

/-- The candidate that combines two inputs. -/
def Situation.candidate (s : Situation) (left right : Plan) : Logged Candidate := do
  let (left, leftSchema) ← s.narrow left
  let (right, rightSchema) ← s.narrow right
  let placement := place leftSchema rightSchema s.pending
  let plan := placement.combine left right
  let output ← plan.estimated
  Logged.report (.costed plan output.tuples)
  return ⟨plan, output.tuples, placement.applied⟩

end RelPlan
