import RelPlan.Unicode.Age
import RelPlan.Unicode.Boundary

/-!
# Character properties

The properties of characters that can be asked for, and how. A property is asked for by its own
name, or by the name of a general category or of a script; or by two names, that of a property and
that of one of its values. Letter case, blanks, underscores and hyphens in a name count for
nothing, and neither does `is` in front of it (`foldedName`). The tables of Unicode hold names in
that folded form, abbreviations included.
-/

namespace RelPlan

/-! ### Folding names -/

/-- The characters of a name that count, in lower case. -/
def foldedChars (cs : List Char) : List Char :=
  (cs.filter fun c => c.toNat < 128 ∧ c ∉ [' ', '_', '-']).map Char.toLower

/-- A name in the form in which the tables hold names. The abbreviation `isc` is no `c` with `is`
in front. -/
def foldedName (name : List Char) : String :=
  match name with
  | i :: s :: rest =>
    if i.toLower = 'i' ∧ s.toLower = 's' then
      if foldedChars rest = ['c'] then "isc" else String.ofList (foldedChars rest)
    else String.ofList (foldedChars name)
  | _ => String.ofList (foldedChars name)

/-! ### Properties -/

/-- A property that a character has or has not. -/
inductive CharProperty where
  /-- It is an ASCII character. -/
  | ascii
  /-- It is in one of some general categories. -/
  | category (codes : List String)
  /-- It belongs to a script. -/
  | script (code : String)
  /-- It is used in a script. -/
  | scriptExtension (code : String)
  /-- It was assigned in a version of Unicode or before it. -/
  | age (version : String)
  /-- It has a binary property. -/
  | binary (property : BinaryProperty)
  /-- It is in a class for the division into graphemes. -/
  | graphemeClass (kind : GraphemeClass)
  /-- It is in a class for the division into words. -/
  | wordClass (kind : WordClass)
  /-- It is in a class for the division into sentences. -/
  | sentenceClass (kind : SentenceClass)
  deriving DecidableEq

namespace CharProperty

/-- The characters that have the property. -/
def characters : CharProperty → CodeSet
  | ascii => .ofRange 0 127
  | category codes => inCategories codes
  | script code => inScript code
  | scriptExtension code => usedInScript code
  | age version => assignedUntil version
  | binary property => property.characters
  | graphemeClass kind => kind.characters
  | wordClass kind => kind.characters
  | sentenceClass kind => kind.characters

/-- The categories of that name, or ASCII. -/
def categoryNamed? (name : String) : Option CharProperty :=
  if name = "ascii" then some ascii else (categoriesNamed? name).map category

/-- The property of that name: a binary one, a category or a script. -/
def named? (name : String) : Option CharProperty :=
  (BinaryProperty.named? name).map binary <|> categoryNamed? name <|> (scriptNamed? name).map script

/-- The property of having a named value for a named property. -/
def valued? (name value : String) : Option CharProperty :=
  match name with
  | "gc" | "generalcategory" => categoryNamed? value
  | "sc" | "script" => (scriptNamed? value).map script
  | "scx" | "scriptextensions" => (scriptNamed? value).map scriptExtension
  | "age" => (versionNamed? value).map age
  | "gcb" | "graphemeclusterbreak" => (GraphemeClass.named? value).map graphemeClass
  | "wb" | "wordbreak" => (WordClass.named? value).map wordClass
  | "sb" | "sentencebreak" => (SentenceClass.named? value).map sentenceClass
  | _ => none

/-! ### Asking for a property -/

/-- The text before and behind the first `!=`. -/
def splitUnequal? : List Char → Option (List Char × List Char)
  | '!' :: '=' :: rest => some ([], rest)
  | c :: rest => (splitUnequal? rest).map fun (name, value) => (c :: name, value)
  | [] => none

/-- The text before and behind the first such character. -/
def splitAt? (separator : Char) (cs : List Char) : Option (List Char × List Char) :=
  match cs.dropWhile (· ≠ separator) with
  | _ :: value => some (cs.takeWhile (· ≠ separator), value)
  | [] => none

/-- The property that a text between braces spells out, if it exists, and whether the text asks for
the characters that do not have it. Name and value are parted by `!=`, which negates, else by a
colon, else by an equals sign. -/
def parse (cs : List Char) : Option CharProperty × Bool :=
  match splitUnequal? cs with
  | some (name, value) => (valued? (foldedName name) (foldedName value), true)
  | none =>
    match splitAt? ':' cs <|> splitAt? '=' cs with
    | some (name, value) => (valued? (foldedName name) (foldedName value), false)
    | none => (named? (foldedName cs), false)

end CharProperty

end RelPlan
