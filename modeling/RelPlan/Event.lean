import RelPlan.Plan.Compact

/-!
# Events

What estimating, optimising and loading report while they work. An event is a value; its severity
is `Event.level` and its wording `Event.message`.
-/

namespace RelPlan

/-- How severe an event is. -/
inductive Level where
  /-- A failure. -/
  | error
  /-- Something unexpected that does no harm. -/
  | warn
  /-- A result. -/
  | info
  /-- A decision on the way to a result. -/
  | debug
  /-- A single step of the work. -/
  | trace
  deriving DecidableEq

namespace Level

/-- The level's name. -/
def name : Level → String
  | error => "ERROR"
  | warn => "WARN"
  | info => "INFO"
  | debug => "DEBUG"
  | trace => "TRACE"

/-- The verbosity a log needs to show the level. -/
def verbosity : Level → Nat
  | error => 1
  | warn => 2
  | info => 3
  | debug => 4
  | trace => 5

end Level

/-- What happened. -/
inductive Event where
  /-- A node was estimated. -/
  | estimated (operator : Operator) (output : Relation)
  /-- A selection was placed directly on a plan for one base relation. -/
  | pushed (predicate : Predicate) (onto : Plan)
  /-- A way to take the next step of the search was estimated. -/
  | costed (candidate : Plan) (cost : Count)
  /-- A step of the search was decided; steps are numbered from `1`. -/
  | committed (step : Nat) (plan : Plan) (cost : Count)
  /-- The search left a predicate over. -/
  | unplaced (predicate : Predicate)
  /-- The rearranged plan was estimated. -/
  | rearranged (plan : Plan) (cost : Count)
  /-- The plan as given is cheaper than the rearranged one. -/
  | kept (plan : Plan) (cost otherCost : Count)
  /-- The plan of a query as written was built. -/
  | canonical (plan : Plan)
  /-- A relation was loaded. -/
  | loadedRelation (relation : BaseRelation)
  /-- A whole catalogue was loaded. -/
  | loadedCatalogue (size : Nat)
  /-- A query was explained. -/
  | explained (canonicalCost optimisedCost : Count) (relations canonicalDepth optimisedDepth : Nat)
  /-- Several relations are combined without any join. -/
  | productsKept
  deriving DecidableEq

namespace Event

/-- The severity of an event. -/
def level : Event → Level
  | estimated .. => .trace
  | costed .. => .trace
  | unplaced .. => .warn
  | explained .. => .info
  | pushed .. => .debug
  | committed .. => .debug
  | rearranged .. => .debug
  | kept .. => .debug
  | canonical .. => .debug
  | loadedRelation .. => .debug
  | loadedCatalogue .. => .debug
  | productsKept => .debug

/-- The wording of an event. -/
def message : Event → String
  | estimated operator output =>
    operator.name ++ " estimated at " ++ output.tuples.text ++ " tuples over "
      ++ output.width.repr ++ " attributes"
  | pushed predicate onto => "pushed " ++ predicate.text ++ " onto " ++ onto.compact
  | costed candidate cost =>
    "candidate " ++ candidate.compact ++ " costs " ++ cost.text ++ " tuples"
  | committed step plan cost =>
    "join step " ++ step.repr ++ ": committed " ++ plan.compact ++ " at " ++ cost.text ++ " tuples"
  | unplaced predicate =>
    "predicate " ++ predicate.text
      ++ " was not placed during join ordering; applying it above the joins"
  | rearranged plan cost =>
    "optimised plan " ++ plan.compact ++ " estimated at " ++ cost.text ++ " tuples"
  | kept plan cost otherCost =>
    "keeping input plan " ++ plan.compact ++ " at " ++ cost.text ++ " tuples over rewrite at "
      ++ otherCost.text ++ " tuples"
  | canonical plan => "canonical plan: " ++ plan.compact
  | loadedRelation relation =>
    "relation " ++ relation.name ++ " with " ++ relation.relation.tuples.text ++ " tuples over ("
      ++ ", ".intercalate relation.relation.names ++ ")"
  | loadedCatalogue size => "loaded catalogue with " ++ size.repr ++ " relations"
  | explained canonicalCost optimisedCost relations canonicalDepth optimisedDepth =>
    "estimated cost " ++ canonicalCost.text ++ " -> " ++ optimisedCost.text ++ " over "
      ++ relations.repr ++ " relations, plan depth " ++ canonicalDepth.repr ++ " -> "
      ++ optimisedDepth.repr
  | productsKept => "no equi-join predicate links the relations, products are kept"

/-- The event's line in a log. -/
def line (e : Event) : String := e.level.name ++ " " ++ e.message

end Event

/-- The events a log of the given level shows: those of that level and the more severe ones. -/
def eventsAt (level : Level) (events : List Event) : List Event :=
  events.filter fun e => e.level.verbosity ≤ level.verbosity

end RelPlan
