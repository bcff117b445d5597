/-!
# Queries

A query lists the attributes to put out, the relations to read, and the conditions to meet, all by
name, as they were written.
-/

namespace RelPlan

/-- A condition of a query. -/
inductive Condition where
  /-- The attribute of that name equals a literal text. -/
  | literal (name value : String)
  /-- The attributes of these names are equal. -/
  | equality (left right : String)
  deriving DecidableEq

/-- The attribute names in a condition, left first. -/
def Condition.names : Condition → List String
  | literal name _ => [name]
  | equality left right => [left, right]

/-- A query as written. -/
structure Query where
  /-- The attributes to put out; none are listed if all are wanted. -/
  attributes : Option (List String)
  /-- The relations to read. -/
  relations : List String
  /-- The conditions to meet. -/
  conditions : List Condition
  deriving DecidableEq

end RelPlan
