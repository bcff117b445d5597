import RelPlan.Json.Fault
import RelPlan.Plan.Basic

/-!
# Errors

What can go wrong while statistics are loaded or a plan is built, estimated or optimised, and the
message for each cause. None of these passes by trying again.
-/

namespace RelPlan

/-- The causes of failure. -/
inductive PlanError where
  /-- No attribute of that name is in reach. -/
  | attributeNotFound (name : String)
  /-- A node was estimated before one of its inputs. -/
  | missingInput (operator : Operator)
  /-- The operator cannot work with the predicate. -/
  | invalidPredicate (operator : Operator) (predicate : Predicate)
  /-- There is no relation to plan for. -/
  | emptyPlan
  /-- No relation of that name is known. -/
  | unknownRelation (name : String)
  /-- The relation is there already. -/
  | duplicateRelation (name : String)
  /-- An attribute of that name is there already. -/
  | duplicateAttribute (name : String)
  /-- The attribute has no values according to its statistics. -/
  | noValues (name : String)
  /-- The query breaks the grammar; the text says where. -/
  | badQuery (report : String)
  /-- A file cannot be read as text. -/
  | unreadable
  /-- A JSON text cannot be read. -/
  | badJson (fault : Json.Fault)
  deriving DecidableEq

/-- The message for each cause. -/
def PlanError.message : PlanError → String
  | attributeNotFound name => "attribute not found: " ++ name
  | missingInput operator => operator.name ++ " estimated before its input"
  | invalidPredicate operator predicate =>
    "invalid predicate for " ++ operator.name ++ ": " ++ predicate.text
  | emptyPlan => "plan has no relation to optimise"
  | unknownRelation name => "unknown relation: " ++ name
  | duplicateRelation name => "relation " ++ name ++ " is already in the catalogue"
  | duplicateAttribute name => "attribute " ++ name ++ " is already in the catalogue"
  | noValues name =>
    "invalid statistics: attribute " ++ name ++ " must have a positive value count"
  | badQuery report => "query syntax error: " ++ report
  | unreadable => "file cannot be read as text"
  | badJson .malformed => "malformed JSON"
  | badJson .truncated => "JSON text ends too early"
  | badJson .mistyped => "JSON value of the wrong kind"

end RelPlan
