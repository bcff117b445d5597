import RelPlan.PlanError

/-!
# Estimation formulas

How many tuples an operator puts out and how many values each attribute then takes, from the
same statistics of its inputs. With `T` for a tuple count and `V` for a value count:

* a scan puts out the base relation;
* a projection keeps `T` and the listed attributes, in the order of the input;
* a selection `A = v` puts out `T / V(A)` tuples, in which `A` takes one value;
* a selection `A = B` puts out `T / max (V(A), V(B))` tuples, in which both take the smaller
  number of values;
* a product multiplies the tuple counts and keeps all attributes;
* a join on `A = B` puts out `T(L) * T(R) / max (V(A), V(B))` tuples, with both keys as for a
  selection; a right attribute whose name is on the left already is dropped.

Quotients are rounded up.
-/

namespace RelPlan

/-- The attribute of a schema that has the name of `a`. -/
def Relation.lookup (r : Relation) (a : Attribute) : Except PlanError Attribute :=
  match r.attribute? a.name with
  | some b => .ok b
  | none => .error (.attributeNotFound a.name)

/-- Looking up fails exactly for the names the schema does not have, and the error says which. -/
theorem Relation.lookup_error_iff {r : Relation} {a : Attribute} {e : PlanError} :
    r.lookup a = .error e ↔ ¬ r.Has a.name ∧ e = .attributeNotFound a.name := by
  unfold lookup
  rw [← Relation.isSome_attribute?_iff]
  cases r.attribute? a.name <;> simp [eq_comm]

/-- The attributes with value count `n` for those whose name is among `names`. -/
def setValues (names : List String) (n : Count) (attributes : List Attribute) : List Attribute :=
  attributes.map fun a => if a.name ∈ names then a.withValues n else a

@[simp] theorem namesOf_setValues (names : List String) (n : Count) (as : List Attribute) :
    namesOf (setValues names n as) = namesOf as := by
  induction as with
  | nil => rfl
  | cons a as ih =>
    simp only [setValues, List.map_cons, namesOf_cons] at ih ⊢
    rw [ih]
    split <;> rfl

namespace Estimate

/-- The output of a scan. -/
def scan (r : BaseRelation) : Relation := r.relation

/-- The output of a projection. All listed attributes must be there; the first that is not is
reported. -/
def project (attributes : List Attribute) (input : Relation) : Except PlanError Relation :=
  match attributes.find? fun a => ¬ input.Has a.name with
  | some a => .error (.attributeNotFound a.name)
  | none =>
    .ok { input with attributes := input.attributes.filter fun a => a.name ∈ namesOf attributes }

/-- The output of a selection. -/
def select (predicate : Predicate) (input : Relation) : Except PlanError Relation :=
  match predicate with
  | .literal a _ => do
    let key ← input.lookup a
    return {
      tuples := input.tuples.ceilDiv key.values
      attributes := setValues [a.name] 1 input.attributes }
  | .equality a b => do
    let left ← input.lookup a
    let right ← input.lookup b
    return {
      tuples := input.tuples.ceilDiv (max left.values right.values)
      attributes := setValues [a.name, b.name] (min left.values right.values) input.attributes }

/-- The output of a product. -/
def product (left right : Relation) : Relation where
  tuples := left.tuples * right.tuples
  attributes := left.attributes ++ right.attributes

/-- The output of a join. The predicate must be an equality whose left attribute is in the left
schema and whose right attribute is in the right schema. -/
def join (predicate : Predicate) (left right : Relation) : Except PlanError Relation :=
  match predicate with
  | .literal _ _ => .error (.invalidPredicate .join predicate)
  | .equality a b => do
    let leftKey ← left.lookup a
    let rightKey ← right.lookup b
    let unseen := right.attributes.filter fun c => ¬ left.Has c.name
    return {
      tuples := (left.tuples * right.tuples).ceilDiv (max leftKey.values rightKey.values)
      attributes :=
        setValues [a.name, b.name] (min leftKey.values rightKey.values)
          (left.attributes ++ unseen) }

end Estimate

end RelPlan
