import RelPlan.Attribute

/-!
# Relations

A relation is known by its statistics: how many tuples it is estimated to hold and, in order,
which attributes. A base relation adds the name under which it is stored.
-/

namespace RelPlan

/-- The statistics of a stored or computed relation. -/
structure Relation where
  /-- The estimated number of tuples. -/
  tuples : Count
  /-- The attributes, in order. -/
  attributes : List Attribute
  deriving DecidableEq

namespace Relation

/-- The attribute names, in order. -/
def names (r : Relation) : List String := namesOf r.attributes

/-- The number of attributes. -/
def width (r : Relation) : Nat := r.attributes.length

/-- The first attribute of that name. -/
def attribute? (r : Relation) (name : String) : Option Attribute :=
  r.attributes.find? fun a => a.name = name

/-- The relation has an attribute of that name. -/
def Has (r : Relation) (name : String) : Prop := name ∈ r.names

instance (r : Relation) (name : String) : Decidable (r.Has name) :=
  inferInstanceAs (Decidable (name ∈ r.names))

theorem has_iff {r : Relation} {name : String} :
    r.Has name ↔ ∃ a ∈ r.attributes, a.name = name := by
  simp [Has, names, namesOf]

/-- An attribute is found exactly when the relation has it. -/
theorem isSome_attribute?_iff {r : Relation} {name : String} :
    (r.attribute? name).isSome ↔ r.Has name := by
  simp [attribute?, has_iff]

theorem name_of_attribute? {r : Relation} {name : String} {a : Attribute}
    (h : r.attribute? name = some a) : a.name = name := by
  simpa using List.find?_some h

theorem mem_of_attribute? {r : Relation} {name : String} {a : Attribute}
    (h : r.attribute? name = some a) : a ∈ r.attributes :=
  List.mem_of_find?_eq_some h

/-- The statistics agree in the tuple count and in the attribute names; value counts may differ. -/
def SameAs (r s : Relation) : Prop := r.tuples = s.tuples ∧ r.names = s.names

instance (r s : Relation) : Decidable (r.SameAs s) :=
  inferInstanceAs (Decidable (r.tuples = s.tuples ∧ r.names = s.names))

/-- The relation with one more attribute at the end. -/
def addAttribute (r : Relation) (a : Attribute) : Relation :=
  { r with attributes := r.attributes ++ [a] }

/-- The relation with the attributes of `s` behind its own. -/
def beside (r s : Relation) : Relation := { r with attributes := r.attributes ++ s.attributes }

@[simp] theorem names_beside (r s : Relation) : (r.beside s).names = r.names ++ s.names := by
  simp [names, beside]

theorem has_beside {r s : Relation} {name : String} :
    (r.beside s).Has name ↔ r.Has name ∨ s.Has name := by
  simp [Has]

end Relation

/-- A stored relation: its name and its statistics. -/
structure BaseRelation where
  /-- The name under which the relation is stored. -/
  name : String
  /-- Its statistics. -/
  relation : Relation
  deriving DecidableEq

namespace BaseRelation

/-- The base relations agree in name, tuple count and attribute names. -/
def SameAs (r s : BaseRelation) : Prop := r.name = s.name ∧ r.relation.SameAs s.relation

instance (r s : BaseRelation) : Decidable (r.SameAs s) :=
  inferInstanceAs (Decidable (r.name = s.name ∧ r.relation.SameAs s.relation))

end BaseRelation

end RelPlan
