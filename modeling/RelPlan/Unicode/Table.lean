import RelPlan.Text.Hexadecimal
import RelPlan.Unicode.CodeSet

/-!
# Tables of code points

The tables of Unicode are long, and are therefore written as texts of words with blanks or line
breaks between them. There are two kinds of them. A set is written by its ranges of hexadecimal
code points, such as `41-5a 5f`. A property with a value for every code point is written by its
runs: a value, and behind a colon the number of code points in a row that have it, unless it is
one.
-/

namespace RelPlan

/-! ### Words -/

/-- The words of a text, the first of which has begun with the given characters, in reverse. -/
def wordsFrom (begun : List Char) : List Char → List (List Char)
  | [] => if begun.isEmpty then [] else [begun.reverse]
  | c :: cs =>
    if c = ' ' ∨ c = '\n' then
      if begun.isEmpty then wordsFrom [] cs else begun.reverse :: wordsFrom [] cs
    else wordsFrom (c :: begun) cs

/-- The words of a text. -/
def wordsOf (text : String) : List (List Char) := wordsFrom [] text.toList

/-- The part of a word in front of the first such character, and the part behind it. -/
def cutWord (c : Char) (word : List Char) : List Char × List Char :=
  (word.takeWhile (· ≠ c), (word.dropWhile (· ≠ c)).tail)

/-! ### Sets -/

namespace CodeSet

/-- The range that a word spells out. -/
def rangeOfWord? (word : List Char) : Option (Nat × Nat) := do
  let (first, last) := cutWord '-' word
  let n ← hexNumber? first
  if last.isEmpty then return (n, n) else return (n, ← hexNumber? last)

/-- The set that a text spells out by its ranges, in ascending order. -/
def ofText (text : String) : CodeSet := ofRanges ((wordsOf text).filterMap rangeOfWord?)

end CodeSet

/-! ### Runs -/

/-- Code points in a row that have the same value. -/
structure Run where
  /-- The value. -/
  value : String
  /-- The number of code points. -/
  length : Nat

namespace Run

/-- The run that a word spells out. -/
def ofWord (word : List Char) : Run :=
  let (value, length) := cutWord ':' word
  ⟨String.ofList value, if length.isEmpty then 1 else Nat.ofDigitChars 10 length 0⟩

/-- The runs that a text spells out. -/
def ofText (text : String) : List Run := (wordsOf text).map ofWord

/-- The edges of the set of code points whose values satisfy `p`, given the runs from `n` on and
whether what is in front of `n` is in the set. -/
def edgesFrom (p : String → Bool) (n : Nat) (inside : Bool) : List Run → List Nat
  | [] => if inside then [n] else []
  | run :: runs =>
    if p run.value = inside then edgesFrom p (n + run.length) inside runs
    else n :: edgesFrom p (n + run.length) (p run.value) runs

/-- The code points whose values satisfy `p`. -/
def codePoints (p : String → Bool) (runs : List Run) : CodeSet := ⟨edgesFrom p 0 false runs⟩

end Run

end RelPlan
