import RelPlan.Predicate

/-!
# Plans

A plan is a tree of relational operators over base relations. Every node has a slot for the
relation it is estimated to produce; the slot is empty until the node is estimated. Nodes built by
`Plan.read`, `Plan.filtered`, `Plan.narrowed`, `Plan.times` and `Plan.joined` have an empty slot,
and `Plan.clearOutputs` empties every slot of a tree.
-/

namespace RelPlan

/-- The relational operators. -/
inductive Operator where
  /-- Read a base relation. -/
  | scan
  /-- Keep the tuples that satisfy a predicate. -/
  | select
  /-- Keep some attributes of every tuple. -/
  | project
  /-- Pair every left tuple with every right tuple. -/
  | product
  /-- Pair the tuples whose key attributes are equal. -/
  | join
  deriving DecidableEq

/-- The operator's name in plans and messages. -/
def Operator.name : Operator → String
  | scan => "SCAN"
  | select => "SELECT"
  | project => "PROJECT"
  | product => "PRODUCT"
  | join => "JOIN"

/-- An operator tree; the last field of each node is the relation estimated for it, if any. -/
inductive Plan where
  /-- Read `relation`. -/
  | scan (relation : BaseRelation) (output : Option Relation)
  /-- Keep the tuples of `input` that satisfy `predicate`. -/
  | select (predicate : Predicate) (input : Plan) (output : Option Relation)
  /-- Keep the listed attributes of `input`. -/
  | project (attributes : List Attribute) (input : Plan) (output : Option Relation)
  /-- Pair the tuples of `left` and `right`. -/
  | product (left right : Plan) (output : Option Relation)
  /-- Pair the tuples of `left` and `right` on which `predicate` holds; its left attribute
  belongs to `left` and its right attribute to `right`. -/
  | join (predicate : Predicate) (left right : Plan) (output : Option Relation)
  deriving DecidableEq

namespace Plan

/-! ### Building plans -/

/-- A scan without an estimate. -/
abbrev read (r : BaseRelation) : Plan := scan r none

/-- A selection on top of `input`. -/
abbrev filtered (input : Plan) (p : Predicate) : Plan := select p input none

/-- A projection on top of `input`. -/
abbrev narrowed (input : Plan) (attributes : List Attribute) : Plan := project attributes input none

/-- A product of two plans. -/
abbrev times (left right : Plan) : Plan := product left right none

/-- A join of two plans. -/
abbrev joined (left right : Plan) (p : Predicate) : Plan := join p left right none

/-! ### The root -/

/-- The operator at the root. -/
def operator : Plan → Operator
  | scan .. => .scan
  | select .. => .select
  | project .. => .project
  | product .. => .product
  | join .. => .join

/-- The relation estimated for the root. -/
def output : Plan → Option Relation
  | scan _ o => o
  | select _ _ o => o
  | project _ _ o => o
  | product _ _ o => o
  | join _ _ _ o => o

/-- The plan with another estimate at the root. -/
def withOutput : Plan → Option Relation → Plan
  | scan r _, o => scan r o
  | select p i _, o => select p i o
  | project as i _, o => project as i o
  | product l r _, o => product l r o
  | join p l r _, o => join p l r o

@[simp] theorem output_withOutput (p : Plan) (o : Option Relation) :
    (p.withOutput o).output = o := by
  cases p <;> rfl

@[simp] theorem operator_withOutput (p : Plan) (o : Option Relation) :
    (p.withOutput o).operator = p.operator := by
  cases p <;> rfl

/-- The plans below the root, left before right. -/
def inputs : Plan → List Plan
  | scan .. => []
  | select _ i _ => [i]
  | project _ i _ => [i]
  | product l r _ => [l, r]
  | join _ l r _ => [l, r]

/-! ### The whole tree -/

/-- The tree with every estimate removed. -/
def clearOutputs : Plan → Plan
  | scan r _ => scan r none
  | select p i _ => select p i.clearOutputs none
  | project as i _ => project as i.clearOutputs none
  | product l r _ => product l.clearOutputs r.clearOutputs none
  | join p l r _ => join p l.clearOutputs r.clearOutputs none

/-- No node of the tree has an estimate. -/
def Bare : Plan → Prop
  | scan _ o => o = none
  | select _ i o => o = none ∧ i.Bare
  | project _ i o => o = none ∧ i.Bare
  | product l r o => o = none ∧ l.Bare ∧ r.Bare
  | join _ l r o => o = none ∧ l.Bare ∧ r.Bare

theorem bare_clearOutputs (p : Plan) : p.clearOutputs.Bare := by
  induction p <;> simp_all [clearOutputs, Bare]

/-- The plans without estimates are the ones that clearing leaves alone. -/
theorem bare_iff_clearOutputs_eq {p : Plan} : p.Bare ↔ p.clearOutputs = p := by
  constructor
  · intro h
    induction p <;> simp_all [clearOutputs, Bare]
  · intro h
    exact h ▸ p.bare_clearOutputs

/-- The base relations that are read, from left to right. -/
def scans : Plan → List BaseRelation
  | scan r _ => [r]
  | select _ i _ => i.scans
  | project _ i _ => i.scans
  | product l r _ => l.scans ++ r.scans
  | join _ l r _ => l.scans ++ r.scans

/-- A plan reads at least one base relation. -/
theorem scans_ne_nil (p : Plan) : p.scans ≠ [] := by
  induction p <;> simp_all [scans]

/-- Some node of the tree is a join. -/
def containsJoin : Plan → Bool
  | scan .. => false
  | select _ i _ => i.containsJoin
  | project _ i _ => i.containsJoin
  | product l r _ => l.containsJoin || r.containsJoin
  | join .. => true

/-- The number of operators on the longest way from the root to a scan. -/
def depth : Plan → Nat
  | scan .. => 1
  | select _ i _ => i.depth + 1
  | project _ i _ => i.depth + 1
  | product l r _ => max l.depth r.depth + 1
  | join _ l r _ => max l.depth r.depth + 1

end Plan

end RelPlan
