import RelPlan.Count

/-!
# Attributes

An attribute is a column with a statistic. The name alone says which attribute it is
(`Attribute.SameAs`); the value count is carried along, so structural equality is finer than
identity.
-/

namespace RelPlan

/-- A named column and the number of distinct values it is estimated to hold. -/
structure Attribute where
  /-- The column's name. -/
  name : String
  /-- The estimated number of distinct values. -/
  values : Count
  deriving DecidableEq

namespace Attribute

/-- Two attributes are the same when their names are. -/
def SameAs (a b : Attribute) : Prop := a.name = b.name

instance (a b : Attribute) : Decidable (a.SameAs b) := inferInstanceAs (Decidable (a.name = b.name))

/-- The same attribute with another value count. -/
def withValues (a : Attribute) (n : Count) : Attribute := { a with values := n }

@[simp] theorem withValues_name (a : Attribute) (n : Count) : (a.withValues n).name = a.name := rfl

@[simp] theorem withValues_values (a : Attribute) (n : Count) : (a.withValues n).values = n := rfl

end Attribute

/-- The names in a list of attributes. -/
def namesOf (attributes : List Attribute) : List String := attributes.map Attribute.name

@[simp] theorem namesOf_nil : namesOf [] = [] := rfl

@[simp] theorem namesOf_cons (a : Attribute) (as : List Attribute) :
    namesOf (a :: as) = a.name :: namesOf as := rfl

@[simp] theorem namesOf_append (as bs : List Attribute) :
    namesOf (as ++ bs) = namesOf as ++ namesOf bs := List.map_append

/-- The attributes by first occurrence: of several with one name only the first stays. -/
def firstByName : List Attribute → List Attribute
  | [] => []
  | a :: as => a :: (firstByName as).filter fun b => ¬ b.SameAs a

/-- Keeping first occurrences loses no name. -/
theorem mem_namesOf_firstByName {as : List Attribute} {n : String} :
    n ∈ namesOf (firstByName as) ↔ n ∈ namesOf as := by
  induction as with
  | nil => simp [firstByName]
  | cons a as ih =>
    simp only [firstByName, namesOf_cons, List.mem_cons, ← ih]
    by_cases h : n = a.name
    · simp [h]
    · simp only [h, false_or, namesOf, List.mem_map, List.mem_filter]
      constructor
      · rintro ⟨b, ⟨hb, -⟩, rfl⟩
        exact ⟨b, hb, rfl⟩
      · rintro ⟨b, hb, rfl⟩
        exact ⟨b, ⟨hb, decide_eq_true h⟩, rfl⟩

end RelPlan
