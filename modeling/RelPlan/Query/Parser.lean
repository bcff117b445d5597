import RelPlan.PlanError
import RelPlan.Query.Basic
import RelPlan.Query.SyntaxError
import RelPlan.Text.Alphanumeric

/-!
# Reading queries

The text of a query has the form

    SELECT attributes FROM relations WHERE conditions ;

where the part from `WHERE` on and the semicolon may be missing. Keywords may be written in any
letter case. Attributes are `*` or names, separated by commas; relations are names, separated by
commas; so are conditions, `name = text`, `name = number` or `name = name`. Blanks may stand
around commas, equals signs and the semicolon.

A reader takes what it looks for from the front of a text and hands on the rest, or says what it
missed and where. A list goes on as long as a comma and a further item follow; otherwise it ends
before the comma. Of several forms the first that fits is taken, and if none fits the last one's
mismatch is reported.
-/

namespace RelPlan

namespace Query

/-- Something was looked for and not found. -/
structure Mismatch where
  /-- What was looked for. -/
  wanted : Wanted
  /-- The text at the place where it was looked for. -/
  rest : List Char
  deriving DecidableEq

/-- Takes an `α` from the front of a text. -/
abbrev Reader (α : Type) := List Char → Except Mismatch (α × List Char)

/-! ### Characters -/

/-- Space, tab, carriage return and line feed. -/
def isBlank (c : Char) : Bool := c = ' ' ∨ c = '\t' ∨ c = '\r' ∨ c = '\n'

/-- The characters of names: alphanumeric ones and the underscore. -/
def isNameChar (c : Char) : Bool := isAlphanumeric c || c = '_'

/-- The text without the blanks in front. -/
def skipBlanks (cs : List Char) : List Char := cs.dropWhile isBlank

/-- At least one blank. -/
def blanks : Reader Unit := fun cs =>
  match cs with
  | [] => .error ⟨.blank, []⟩
  | c :: rest => if isBlank c then .ok ((), skipBlanks rest) else .error ⟨.blank, c :: rest⟩

/-- One particular character. -/
def char (c : Char) : Reader Unit := fun cs =>
  match cs with
  | [] => .error ⟨.character, []⟩
  | d :: rest => if d = c then .ok ((), rest) else .error ⟨.character, d :: rest⟩

/-- One particular character between blanks. -/
def spacedChar (c : Char) : Reader Unit := fun cs => do
  let ((), rest) ← char c (skipBlanks cs)
  return ((), skipBlanks rest)

/-- What follows a keyword in front of the text; the keyword is given in lower case. -/
def dropKeyword? : List Char → List Char → Option (List Char)
  | [], cs => some cs
  | _ :: _, [] => none
  | k :: ks, c :: cs => if c.toLower = k then dropKeyword? ks cs else none

/-- A keyword, in any letter case. -/
def keyword (word : String) : Reader Unit := fun cs =>
  match dropKeyword? word.toList cs with
  | some rest => .ok ((), rest)
  | none => .error ⟨.keyword, cs⟩

/-! ### Names, texts and numbers -/

/-- A name: as many name characters as there are, and at least one. -/
def name : Reader String := fun cs =>
  match cs.takeWhile isNameChar with
  | [] => .error ⟨.name, cs⟩
  | n => .ok (String.ofList n, cs.dropWhile isNameChar)

/-- A text in double quotes; it cannot hold a double quote. -/
def quoted : Reader String := fun cs => do
  let ((), body) ← char '"' cs
  let ((), rest) ← char '"' (body.dropWhile (· ≠ '"'))
  return (String.ofList (body.takeWhile (· ≠ '"')), rest)

/-- As many digits as there are, and at least one. -/
def digits : Reader (List Char) := fun cs =>
  match cs.takeWhile Char.isDigit with
  | [] => .error ⟨.digit, cs⟩
  | ds => .ok (ds, cs.dropWhile Char.isDigit)

/-- A point and digits, or nothing. -/
def fraction (cs : List Char) : List Char × List Char :=
  match cs with
  | '.' :: more =>
    match digits more with
    | .ok (ds, rest) => ('.' :: ds, rest)
    | .error _ => ([], cs)
  | _ => ([], cs)

/-- Digits, with a fraction if there is one. -/
def unsigned : Reader (List Char) := fun cs => do
  let (whole, rest) ← digits cs
  let (part, rest) := fraction rest
  return (whole ++ part, rest)

/-- A number, as it is written: an optional minus sign, digits, and an optional fraction. -/
def number : Reader String := fun cs =>
  match cs with
  | '-' :: more => do
    let (n, rest) ← unsigned more
    return (String.ofList ('-' :: n), rest)
  | _ => do
    let (n, rest) ← unsigned cs
    return (String.ofList n, rest)

/-! ### Lists -/

/-- Further items, each behind a comma, and the text from the first comma on that no item
follows. There are at most as many as the bound. -/
def furtherItems {α : Type} (item : Reader α) : Nat → List Char → List α × List Char
  | 0, cs => ([], cs)
  | n + 1, cs =>
    match spacedChar ',' cs with
    | .error _ => ([], cs)
    | .ok ((), more) =>
      match item more with
      | .error _ => ([], cs)
      | .ok (a, rest) =>
        let (as, rest) := furtherItems item n rest
        (a :: as, rest)

/-- One or more items, separated by commas. Each comma takes a character, so the text is not
shorter than the number of items behind the first. -/
def items {α : Type} (item : Reader α) : Reader (List α) := fun cs => do
  let (a, rest) ← item cs
  let (as, rest) := furtherItems item rest.length rest
  return (a :: as, rest)

/-! ### The parts of a query -/

/-- A star, or the names of attributes. -/
def attributeList : Reader (Option (List String)) := fun cs =>
  match char '*' cs with
  | .ok ((), rest) => .ok (none, rest)
  | .error _ => do
    let (names, rest) ← items name cs
    return (some names, rest)

/-- What an attribute is compared with: a text, a number, or a second attribute. -/
def comparison (left : String) : Reader Condition := fun cs =>
  match quoted cs with
  | .ok (value, rest) => .ok (.literal left value, rest)
  | .error _ =>
    match number cs with
    | .ok (value, rest) => .ok (.literal left value, rest)
    | .error _ => do
      let (right, rest) ← name cs
      return (.equality left right, rest)

/-- A condition. -/
def condition : Reader Condition := fun cs => do
  let (left, rest) ← name cs
  let ((), rest) ← spacedChar '=' rest
  comparison left rest

/-- Blanks, `WHERE`, blanks, and conditions. -/
def whereClause : Reader (List Condition) := fun cs => do
  let ((), rest) ← blanks cs
  let ((), rest) ← keyword "where" rest
  let ((), rest) ← blanks rest
  items condition rest

/-- The conditions, if the text goes on with a `WHERE` clause. -/
def optionalWhere (cs : List Char) : List Condition × List Char :=
  match whereClause cs with
  | .ok found => found
  | .error _ => ([], cs)

/-- The text without blanks, a semicolon and blanks in front. -/
def skipEnding (cs : List Char) : List Char :=
  match skipBlanks cs with
  | ';' :: rest => skipBlanks rest
  | rest => rest

/-- A query, with any text behind it. -/
def query : Reader Query := fun cs => do
  let ((), rest) ← keyword "select" (skipBlanks cs)
  let ((), rest) ← blanks rest
  let (attributes, rest) ← attributeList rest
  let ((), rest) ← blanks rest
  let ((), rest) ← keyword "from" rest
  let ((), rest) ← blanks rest
  let (relations, rest) ← items name rest
  let (conditions, rest) := optionalWhere rest
  return (⟨attributes, relations, conditions⟩, skipEnding rest)

/-- A query that is the whole text. -/
def whole (cs : List Char) : Except Mismatch Query := do
  let (q, rest) ← query cs
  match rest with
  | [] => return q
  | _ :: _ => .error ⟨.ending, rest⟩

/-- The mismatch as an error in the given text. -/
def Mismatch.syntaxError (m : Mismatch) (text : List Char) : SyntaxError :=
  .mismatch (text.take (text.length - m.rest.length)) m.wanted

/-- The query that a text spells out. -/
def parse (text : String) : Except PlanError Query :=
  match whole text.toList with
  | .ok q => .ok q
  | .error m => .error (.badQuery ((m.syntaxError text.toList).report text.toList))

end Query

end RelPlan
