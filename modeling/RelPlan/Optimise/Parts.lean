import RelPlan.Plan.Basic

/-!
# The parts of a plan

Before it is rearranged, a plan is taken apart: what is read, how many combinations of two inputs
there are, which predicates apply, and which projections. Parts are listed in the order in which
the operators would run, inputs before the node above them. A join counts as a product and its
predicate, so the parts of a rearranged plan are again parts of products and selections.
-/

namespace RelPlan

/-- The operators of a plan, sorted by kind. -/
structure Parts where
  /-- The base relations that are read, from left to right. -/
  scans : List BaseRelation
  /-- The number of products and joins. -/
  products : Nat
  /-- The predicates of the selections and joins. -/
  predicates : List Predicate
  /-- The projections above every product and join. -/
  projections : List (List Attribute)
  /-- The number of projections below some product or join. -/
  innerProjections : Nat

namespace Parts

/-- The parts of two plans side by side. -/
protected def append (a b : Parts) : Parts where
  scans := a.scans ++ b.scans
  products := a.products + b.products
  predicates := a.predicates ++ b.predicates
  projections := a.projections ++ b.projections
  innerProjections := a.innerProjections + b.innerProjections

instance : Append Parts := ⟨Parts.append⟩

/-- The parts of a scan. -/
def ofScan (r : BaseRelation) : Parts := ⟨[r], 0, [], [], 0⟩

/-- One more predicate. -/
def addPredicate (a : Parts) (p : Predicate) : Parts :=
  { a with predicates := a.predicates ++ [p] }

/-- One more product. -/
def addProduct (a : Parts) : Parts := { a with products := a.products + 1 }

/-- One more projection: listed when it is above every product and join, else only counted. -/
def addProjection (a : Parts) (above : Bool) (attributes : List Attribute) : Parts :=
  if above then { a with projections := a.projections ++ [attributes] }
  else { a with innerProjections := a.innerProjections + 1 }

end Parts

namespace Plan

/-- The parts of a plan that is, or is not, above every product and join. -/
def partsFrom : Plan → Bool → Parts
  | scan r _, _ => .ofScan r
  | select p i _, above => (i.partsFrom above).addPredicate p
  | project as i _, above => (i.partsFrom above).addProjection above as
  | product l r _, _ => (l.partsFrom false ++ r.partsFrom false).addProduct
  | join p l r _, _ => (l.partsFrom false ++ r.partsFrom false).addProduct.addPredicate p

/-- The parts of a plan. -/
def parts (p : Plan) : Parts := p.partsFrom true

/-- The parts list what is read as the plan does. -/
theorem scans_partsFrom (p : Plan) (above : Bool) : (p.partsFrom above).scans = p.scans := by
  induction p generalizing above with
  | scan => rfl
  | select _ _ _ ih => exact ih above
  | project _ _ _ ih => cases above <;> exact ih _
  | product l r _ ihl ihr =>
    show (l.partsFrom false).scans ++ (r.partsFrom false).scans = l.scans ++ r.scans
    rw [ihl, ihr]
  | join _ l r _ ihl ihr =>
    show (l.partsFrom false).scans ++ (r.partsFrom false).scans = l.scans ++ r.scans
    rw [ihl, ihr]

/-- There is one base relation more than there are products and joins. -/
theorem length_scans_partsFrom (p : Plan) (above : Bool) :
    (p.partsFrom above).scans.length = (p.partsFrom above).products + 1 := by
  induction p generalizing above with
  | scan => rfl
  | select _ _ _ ih => exact ih above
  | project _ _ _ ih => cases above <;> exact ih _
  | product l r _ ihl ihr =>
    show ((l.partsFrom false).scans ++ (r.partsFrom false).scans).length
      = (l.partsFrom false).products + (r.partsFrom false).products + 1 + 1
    rw [List.length_append, ihl, ihr]
    omega
  | join _ l r _ ihl ihr =>
    show ((l.partsFrom false).scans ++ (r.partsFrom false).scans).length
      = (l.partsFrom false).products + (r.partsFrom false).products + 1 + 1
    rw [List.length_append, ihl, ihr]
    omega

end Plan

end RelPlan
