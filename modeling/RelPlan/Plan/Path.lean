import RelPlan.Plan.Basic

/-!
# Places in a plan

A node is addressed by the way to it from the root: at each step, the index of the input to go
to. `Plan.at?` finds the node and `Plan.replaceAt` puts another plan in its place.
-/

namespace RelPlan.Plan

/-- The plan with input number `i` changed by `f`; there is no change if it has no such input. -/
def mapInput (f : Plan → Plan) : Plan → Nat → Plan
  | select p i o, 0 => select p (f i) o
  | project as i o, 0 => project as (f i) o
  | product l r o, 0 => product (f l) r o
  | product l r o, 1 => product l (f r) o
  | join p l r o, 0 => join p (f l) r o
  | join p l r o, 1 => join p l (f r) o
  | p, _ => p

/-- The node at the end of a path. -/
def at? : Plan → List Nat → Option Plan
  | p, [] => some p
  | p, k :: path => p.inputs[k]?.bind fun i => i.at? path

/-- The plan with `q` in place of the node at the end of a path. -/
def replaceAt (q : Plan) : List Nat → Plan → Plan
  | [], _ => q
  | k :: path, p => p.mapInput (replaceAt q path) k

end RelPlan.Plan
