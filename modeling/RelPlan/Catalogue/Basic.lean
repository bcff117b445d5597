import RelPlan.Logged

/-!
# Catalogues

A catalogue lists base relations. Relations are entered one by one, and attributes are added to a
relation that is there. No relation name, and no attribute name in the whole catalogue, is taken
twice, and every attribute has a positive value count; so the name of an attribute alone says
which relation it belongs to.
-/

namespace RelPlan

/-- The base relations that queries can read, in the order in which they were entered. -/
structure Catalogue where
  /-- The relations. -/
  relations : List BaseRelation
  deriving DecidableEq

namespace Catalogue

/-- The catalogue without relations. -/
def empty : Catalogue := ⟨[]⟩

/-- The number of relations. -/
def size (c : Catalogue) : Nat := c.relations.length

/-- The relation of that name. -/
def relation? (c : Catalogue) (name : String) : Option BaseRelation :=
  c.relations.find? fun r => r.name = name

/-- The attribute of that name, in whichever relation it is. -/
def attribute? (c : Catalogue) (name : String) : Option Attribute :=
  c.relations.findSome? fun r => r.relation.attribute? name

/-! ### Entering relations and attributes -/

/-- The relations with an attribute added to the first one of the given name, if there is one. -/
def addTo? (name : String) (a : Attribute) : List BaseRelation → Option (List BaseRelation)
  | [] => none
  | r :: rs =>
    if r.name = name then some ({ r with relation := r.relation.addAttribute a } :: rs)
    else (addTo? name a rs).map (r :: ·)

/-- Enter a relation without attributes. -/
def createRelation (c : Catalogue) (name : String) (tuples : Count) : Except PlanError Catalogue :=
  if (c.relation? name).isSome then .error (.duplicateRelation name)
  else .ok ⟨c.relations ++ [⟨name, tuples, []⟩]⟩

/-- Add an attribute to a relation. A count of zero is reported first, then a name that is taken,
then a relation that is not there. -/
def createAttribute (c : Catalogue) (relation name : String) (values : Count) :
    Except PlanError Catalogue :=
  if values = 0 then .error (.noValues name)
  else if (c.attribute? name).isSome then .error (.duplicateAttribute name)
  else
    match addTo? relation ⟨name, values⟩ c.relations with
    | none => .error (.unknownRelation relation)
    | some relations => .ok ⟨relations⟩

/-- Add attributes to a relation as they are, whatever their names and counts. -/
def attach (c : Catalogue) (relation : String) (attributes : List Attribute) : Catalogue :=
  ⟨attributes.foldl (fun rs a => (addTo? relation a rs).getD rs) c.relations⟩

/-! ### Loading -/

/-- Enter a relation and its attributes, one by one. -/
def enter (c : Catalogue) (r : BaseRelation) : Logged Catalogue := do
  let c ← Logged.ofExcept (c.createRelation r.name r.relation.tuples)
  let c ← Logged.ofExcept <|
    r.relation.attributes.foldlM (fun c a => c.createAttribute r.name a.name a.values) c
  Logged.report (.loadedRelation r)
  return c

/-- The catalogue of the given relations, if it can be built. -/
def load (relations : List BaseRelation) : Logged Catalogue := do
  let c ← relations.foldlM enter empty
  Logged.report (.loadedCatalogue c.size)
  return c

end Catalogue

end RelPlan
