import RelPlan.Catalogue.Basic
import RelPlan.Json.Structure
import RelPlan.Json.Value
import RelPlan.Optimise.Search

/-!
# JSON forms

How statistics, predicates, catalogues and options are written as JSON, and how they are read.
Everything but a predicate and a base relation is a record (see `Json.Structure`). A predicate is
an object with one member, whose name tells the kind of predicate and whose value is a record. A
base relation is an object that holds the relation's name and statistics side by side.
-/

namespace RelPlan

open Json

/-! ### Attributes -/

namespace Attribute

/-- The JSON form of an attribute. -/
def toJson (a : Attribute) : Value :=
  .object [("name", .text a.name), ("value_count", .number a.values)]

/-- Reads the JSON form of an attribute. -/
def read : Reader Attribute := fun cs => do
  let ((name, values), rest) ← recordOfTwo ⟨"name", text, none⟩ ⟨"value_count", count, none⟩ cs
  return (⟨name, values⟩, rest)

end Attribute

/-! ### Relations -/

namespace Relation

/-- The members of the JSON form of a relation. -/
def jsonMembers (r : Relation) : List (String × Value) :=
  [("tuple_count", .number r.tuples), ("attributes", .array (r.attributes.map Attribute.toJson))]

/-- The JSON form of a relation. -/
def toJson (r : Relation) : Value := .object r.jsonMembers

/-- Reads the JSON form of a relation; without attributes there are none. -/
def read : Reader Relation := fun cs => do
  let ((tuples, attributes), rest) ←
    recordOfTwo ⟨"tuple_count", count, none⟩ ⟨"attributes", list Attribute.read, some []⟩ cs
  return (⟨tuples, attributes⟩, rest)

end Relation

/-! ### Predicates -/

namespace Predicate

/-- The JSON form of a predicate. -/
def toJson : Predicate → Value
  | literal a v => .object [("EqualsValue", .object [("left", a.toJson), ("value", .text v)])]
  | equality a b => .object [("EqualsAttribute", .object [("left", a.toJson), ("right", b.toJson)])]

/-- Reads the value of the member `EqualsValue`. -/
def readLiteral : Reader Predicate := fun cs => do
  let ((a, v), rest) ← recordOfTwo ⟨"left", Attribute.read, none⟩ ⟨"value", Json.text, none⟩ cs
  return (.literal a v, rest)

/-- Reads the value of the member `EqualsAttribute`. -/
def readEquality : Reader Predicate := fun cs => do
  let ((a, b), rest) ←
    recordOfTwo ⟨"left", Attribute.read, none⟩ ⟨"right", Attribute.read, none⟩ cs
  return (.equality a b, rest)

/-- Reads the name of a predicate's only member. Where it should stand, everything but a quote is
malformed, as with the members of a record. -/
def readKind : Reader String := fun cs =>
  match skipBlanks cs with
  | [] => .error .truncated
  | '"' :: rest => string rest
  | _ => .error .malformed

/-- Reads the only member of a predicate's object, and the object's end. -/
def readMember : Reader Predicate := fun cs => do
  let (kind, rest) ← readKind cs
  let (p, rest) ←
    if kind = "EqualsValue" then afterColon readLiteral rest
    else if kind = "EqualsAttribute" then afterColon readEquality rest
    else .error .mistyped
  match skipBlanks rest with
  | [] => .error .truncated
  | '}' :: rest => return (p, rest)
  | _ => .error .malformed

/-- Reads the JSON form of a predicate. -/
def read : Reader Predicate := fun cs =>
  match skipBlanks cs with
  | [] => .error .truncated
  | '{' :: rest => readMember rest
  | '"' :: rest => .error (faultAfter (string rest))
  | _ => .error .malformed

end Predicate

/-! ### Base relations -/

namespace Json.Kept

/-- The only value of a member of that name, among members that were kept. -/
def only? (name : String) (members : List (String × Kept)) : Except Fault (Option Kept) :=
  match members.filter fun m => m.1 = name with
  | [] => .ok none
  | [m] => .ok (some m.2)
  | _ => .error .mistyped

/-- The only value of a member of that name, which must be there. -/
def only (name : String) (members : List (String × Kept)) : Except Fault Kept := do
  match ← only? name members with
  | some v => return v
  | none => .error .mistyped

/-- A kept value as a string. -/
def toText : Kept → Except Fault String
  | text s => .ok s
  | _ => .error .mistyped

/-- A kept value as a count. -/
def toCount : Kept → Except Fault Count
  | count n => .ok n
  | _ => .error .mistyped

/-- A kept value as an attribute. -/
def toAttribute : Kept → Except Fault Attribute
  | array [name, values] => do
    let name ← name.toText
    let values ← values.toCount
    return ⟨name, values⟩
  | object members => do
    let name ← (← only "name" members).toText
    let values ← (← only "value_count" members).toCount
    return ⟨name, values⟩
  | _ => .error .mistyped

/-- A kept value as a list of attributes. -/
def toAttributes : Kept → Except Fault (List Attribute)
  | array items => items.mapM toAttribute
  | _ => .error .mistyped

/-- The statistics among the kept members of a base relation. -/
def toRelation (members : List (String × Kept)) : Except Fault Relation := do
  let tuples ← (← only "tuple_count" members).toCount
  match ← only? "attributes" members with
  | none => return ⟨tuples, []⟩
  | some v =>
    let attributes ← v.toAttributes
    return ⟨tuples, attributes⟩

end Json.Kept

namespace BaseRelation

/-- The JSON form of a base relation. -/
def toJson (r : BaseRelation) : Value := .object (("name", .text r.name) :: r.relation.jsonMembers)

/-- The deepest nesting that is read, when values are kept. -/
def depthLimit : Nat := 127

/-- A member of a base relation: the name is taken, everything else is kept for later. -/
def member (depth : Nat) (met : Option String × List (String × Kept)) (key : String) :
    Reader (Option String × List (String × Kept)) := fun cs =>
  if key = "name" then do
    let (name, rest) ← Field.readOnce ⟨"name", text, none⟩ met.1 cs
    return ((name, met.2), rest)
  else do
    let (v, rest) ← afterColon (keep depth) cs
    return ((met.1, met.2 ++ [(key, v)]), rest)

/-- Reads the JSON form of a base relation inside of `outer` arrays and objects. The statistics
are made out when the object is complete. -/
def readWithin (outer : Nat) : Reader BaseRelation := fun cs =>
  match skipBlanks cs with
  | '{' :: rest => do
    let (met, rest) ← members string (member (depthLimit - 1 - outer)) (none, []) rest
    match met.1 with
    | none => .error .mistyped
    | some name =>
      let relation ← Kept.toRelation met.2
      return (⟨name, relation⟩, rest)
  | cs => .error (wrongKind cs)

/-- Reads the JSON form of a base relation. -/
def read : Reader BaseRelation := readWithin 0

end BaseRelation

/-! ### Catalogues -/

namespace Catalogue

/-- The JSON form of a catalogue. -/
def toJson (c : Catalogue) : Value :=
  .object [("relations", .array (c.relations.map BaseRelation.toJson))]

/-- Reads the JSON form of a catalogue; its rules are not checked. -/
def read : Reader Catalogue := fun cs => do
  let (relations, rest) ← recordOfOne ⟨"relations", list (BaseRelation.readWithin 2), none⟩ cs
  return (⟨relations⟩, rest)

end Catalogue

/-! ### Options -/

namespace Options

/-- The JSON form of options. -/
def toJson (o : Options) : Value :=
  .object [("push_selections", .truth o.pushSelections),
    ("push_projections", .truth o.pushProjections)]

/-- Reads the JSON form of options; what is missing is wanted. -/
def read : Reader Options := fun cs => do
  let ((selections, projections), rest) ←
    recordOfTwo ⟨"push_selections", truth, some true⟩ ⟨"push_projections", truth, some true⟩ cs
  return (⟨selections, projections⟩, rest)

end Options

end RelPlan
