import RelPlan.Catalogue.Basic
import RelPlan.Query.Basic

/-!
# Canonical plans

The plan that a query spells out: the relations in the order in which they are listed, combined by
products from the left, under one selection for each condition in turn, under a projection if the
query lists attributes. Names are looked up in the relations that the query lists.
-/

namespace RelPlan.Query

/-- The relations that a query lists. One that is listed again is reported before one that is not
known. -/
def resolveRelations (c : Catalogue) (names : List String) : Except PlanError (List BaseRelation) :=
  names.foldlM (fun found name =>
    if (found.find? fun r => r.name = name).isSome then .error (.duplicateRelation name)
    else
      match c.relation? name with
      | none => .error (.unknownRelation name)
      | some r => .ok (found ++ [r])) []

/-- The attribute of that name in the first relation that has one. -/
def resolveAttribute (relations : List BaseRelation) (name : String) : Except PlanError Attribute :=
  match relations.findSome? fun r => r.relation.attribute? name with
  | some a => .ok a
  | none => .error (.attributeNotFound name)

/-- The predicate of a condition. -/
def resolveCondition (relations : List BaseRelation) : Condition → Except PlanError Predicate
  | .literal name value => do
    let a ← resolveAttribute relations name
    return .literal a value
  | .equality left right => do
    let a ← resolveAttribute relations left
    let b ← resolveAttribute relations right
    return .equality a b

/-- The product of the scans of some relations. -/
def scanAll (relations : List BaseRelation) : Except PlanError Plan :=
  match relations with
  | [] => .error .emptyPlan
  | r :: rs => .ok ((rs.map Plan.read).foldl Plan.times (.read r))

/-- The canonical plan of a query. -/
def plan (q : Query) (c : Catalogue) : Except PlanError Plan := do
  let relations ← resolveRelations c q.relations
  let scanned ← scanAll relations
  let predicates ← q.conditions.mapM (resolveCondition relations)
  let filtered := predicates.foldl Plan.filtered scanned
  match q.attributes with
  | none => return filtered
  | some names =>
    let attributes ← names.mapM (resolveAttribute relations)
    return filtered.narrowed attributes

/-- The canonical plan of a query, reported when it is built. -/
def canonicalPlan (q : Query) (c : Catalogue) : Logged Plan := do
  let plan ← Logged.ofExcept (q.plan c)
  Logged.report (.canonical plan)
  return plan

end RelPlan.Query
