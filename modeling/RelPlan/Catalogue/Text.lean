import RelPlan.Json.Forms

/-!
# Catalogues as texts

A catalogue is stored as a JSON text. Loading one checks the rules of catalogues.
-/

namespace RelPlan.Catalogue

/-- The text of a catalogue, one member or item a line. -/
def toText (c : Catalogue) : String := c.toJson.toText .pretty

/-- The relations that a text lists. -/
def relationsOfText (text : String) : Except PlanError (List BaseRelation) :=
  match Json.whole Catalogue.read text with
  | .ok c => .ok c.relations
  | .error fault => .error (.badJson fault)

/-- The catalogue that a text describes. -/
def ofText (text : String) : Logged Catalogue := do
  let relations ← Logged.ofExcept (relationsOfText text)
  load relations

/-- The text in a file, given by its bytes if there is such a file. -/
def fileText (bytes : Option ByteArray) : Except PlanError String :=
  match bytes.bind String.fromUTF8? with
  | some text => .ok text
  | none => .error .unreadable

/-- The catalogue in a file, given by its bytes if there is such a file. -/
def ofFile (bytes : Option ByteArray) : Logged Catalogue := do
  let text ← Logged.ofExcept (fileText bytes)
  ofText text

end RelPlan.Catalogue
