import RelPlan.Json.Fault

/-!
# Reading JSON

A reader takes a value from the front of a text and hands on the rest. Blanks in front of a value
are skipped. This module has the readers of words and punctuation.
-/

namespace RelPlan.Json

/-- Takes an `α` from the front of a text. -/
abbrev Reader (α : Type) := List Char → Except Fault (α × List Char)

/-- Space, tab, line feed and carriage return. -/
def isBlank (c : Char) : Bool := c = ' ' ∨ c = '\t' ∨ c = '\n' ∨ c = '\r'

/-- The text without the blanks in front. -/
def skipBlanks (cs : List Char) : List Char := cs.dropWhile isBlank

/-- The letters of a word that has begun. -/
def word : List Char → Reader Unit
  | [], cs => .ok ((), cs)
  | _ :: _, [] => .error .truncated
  | w :: ws, c :: cs => if c = w then word ws cs else .error .malformed

/-- The colon behind a member's name. -/
def colon : Reader Unit := fun cs =>
  match skipBlanks cs with
  | [] => .error .truncated
  | ':' :: rest => .ok ((), rest)
  | _ => .error .malformed

/-- A colon and what `read` reads. -/
def afterColon {α : Type} (read : Reader α) : Reader α := fun cs => do
  let ((), rest) ← colon cs
  read rest

/-- The value that makes up a whole text, blanks aside. -/
def whole {α : Type} (read : Reader α) (text : String) : Except Fault α := do
  let (a, rest) ← read text.toList
  match skipBlanks rest with
  | [] => return a
  | _ :: _ => .error .malformed

end RelPlan.Json
