import RelPlan.Event
import RelPlan.Pattern.Reader
import RelPlan.Text.Whitespace

/-!
# Log filters

A log filter says how much is logged: a level for everything, or `module=level` for a part of the
program, several of them separated by commas. A module alone stands for all its levels. Behind a
slash a pattern for messages may follow, which must be a regular expression; a filter with anything
else there is refused.
-/

namespace RelPlan

/-- The parts of a text between separators. -/
def splitOn (separator : Char) : List Char → List (List Char)
  | [] => [[]]
  | c :: cs =>
    if c = separator then [] :: splitOn separator cs
    else
      match splitOn separator cs with
      | [] => [[c]]
      | part :: parts => (c :: part) :: parts

/-- How much of one part of the program is logged. -/
structure LogRule where
  /-- The module; the rule is for everything if there is none. -/
  module? : Option String
  /-- The least severe level; nothing is logged if there is none. -/
  level? : Option Level

namespace LogRule

/-- The level of that name, in any letter case; `off` is no level. -/
def level (name : List Char) : Option (Option Level) :=
  match String.ofList (name.map Char.toLower) with
  | "off" => some none
  | "error" => some (some .error)
  | "warn" => some (some .warn)
  | "info" => some (some .info)
  | "debug" => some (some .debug)
  | "trace" => some (some .trace)
  | _ => none

/-- The rule that one entry of a filter spells out. White space around the equals sign counts for
nothing; in the name of a module there is none. -/
def ofEntry (entry : List Char) : Option LogRule :=
  match (splitOn '=' entry).map trim with
  | [only] =>
    if only.any isWhitespace then none
    else
      match level only with
      | some l => some ⟨none, l⟩
      | none => some ⟨some (String.ofList only), some .trace⟩
  | [module, name] =>
    if module.any isWhitespace then none
    else if name = [] then some ⟨some (String.ofList module), some .trace⟩
    else (level name).map fun l => ⟨some (String.ofList module), l⟩
  | _ => none

end LogRule

/-- What is logged. -/
structure LogFilter where
  /-- The rules, in order. -/
  rules : List LogRule
  /-- The pattern for messages. -/
  pattern? : Option Pattern

namespace LogFilter

/-- The rules in a list of entries; blank entries count for nothing. -/
def rulesOf (entries : List Char) : Option (List LogRule) :=
  (((splitOn ',' entries).map trim).filter fun e => ¬ e.isEmpty).mapM LogRule.ofEntry

/-- The filter that a text spells out. -/
def parse (text : String) : Option LogFilter :=
  match splitOn '/' text.toList with
  | [entries] => (rulesOf entries).map fun rules => ⟨rules, none⟩
  | [entries, text] => do
    let rules ← rulesOf entries
    let pattern ← Pattern.parse? text
    return ⟨rules, some pattern⟩
  | _ => none

/-- The level for everything. -/
def general (f : LogFilter) : Option Level :=
  match f.rules.filter fun r => r.module?.isNone with
  | [] => none
  | r :: _ => r.level?

end LogFilter

end RelPlan
