import RelPlan.Plan.Compact
import RelPlan.Text.Indent

/-!
# The indented form of a plan

One operator per line, each line indented by its depth. The line of a node with an estimate ends
in the tuple count and the schema with its value counts.
-/

namespace RelPlan

/-- An attribute with its value count. -/
def Attribute.annotation (a : Attribute) : String := a.name ++ ":" ++ a.values.text

/-- The statistics behind a line: `T=5 {a:2, b:3}`; a relation without attributes shows
its tuple count alone. -/
def Relation.annotation (r : Relation) : String :=
  "T=" ++ r.tuples.text ++
    if r.attributes.isEmpty then ""
    else " \x7b" ++ ", ".intercalate (r.attributes.map Attribute.annotation) ++ "\x7d"

namespace Plan

/-- The root's line, without indentation. -/
def line (p : Plan) : String :=
  p.headline ++
    match p.output with
    | none => ""
    | some r => "  " ++ r.annotation

/-- The lines of the tree, each with the depth of its node. -/
def lines : Plan → Nat → List (Nat × String)
  | scan r o, d => [(d, (scan r o).line)]
  | select p i o, d => (d, (select p i o).line) :: i.lines (d + 1)
  | project as i o, d => (d, (project as i o).line) :: i.lines (d + 1)
  | product l r o, d => (d, (product l r o).line) :: (l.lines (d + 1) ++ r.lines (d + 1))
  | join p l r o, d => (d, (join p l r o).line) :: (l.lines (d + 1) ++ r.lines (d + 1))

/-- The tree as text, with `indent` spaces for each level below the root. -/
def render (indent : Nat) (p : Plan) : String :=
  String.join ((p.lines 0).map fun (d, l) => spaces (d * indent) ++ l ++ "\n")

end Plan

end RelPlan
