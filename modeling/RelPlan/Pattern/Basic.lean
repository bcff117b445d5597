import RelPlan.Pattern.Property

/-!
# Patterns

A pattern is a regular expression. It is put together from atoms, each of which stands for a
character or for a place between characters, and from sets of characters, by repetition,
concatenation and choice. Flags change how the rest of a group is read and matched.
-/

namespace RelPlan

/-! ### Atoms -/

/-- What has to hold at a place between characters. -/
inductive Assertion where
  /-- A line begins: `^`. -/
  | lineStart
  /-- A line ends: `$`. -/
  | lineEnd
  /-- The text begins: `\A`. -/
  | textStart
  /-- The text ends: `\z`. -/
  | textEnd
  /-- A word begins or ends: `\b`. -/
  | wordEdge
  /-- No word begins or ends: `\B`. -/
  | noWordEdge
  /-- A word begins: `\<` or `\b{start}`. -/
  | wordStart
  /-- A word ends: `\>` or `\b{end}`. -/
  | wordEnd
  /-- No character of a word comes before: `\b{start-half}`. -/
  | halfStart
  /-- No character of a word follows: `\b{end-half}`. -/
  | halfEnd
  deriving DecidableEq

/-- The names of classes of ASCII characters, with the code points in them. -/
def asciiClasses : List (String × String) :=
  [("alnum", "30-39 41-5a 61-7a"), ("alpha", "41-5a 61-7a"), ("ascii", "0-7f"), ("blank", "9 20"),
  ("cntrl", "0-1f 7f"), ("digit", "30-39"), ("graph", "21-7e"), ("lower", "61-7a"),
  ("print", "20-7e"), ("punct", "21-2f 3a-40 5b-60 7b-7e"), ("space", "9-d 20"), ("upper", "41-5a"),
  ("word", "30-39 41-5a 5f 61-7a"), ("xdigit", "30-39 41-46 61-66")]

/-- A class of characters that has a name. -/
inductive NamedClass where
  /-- Decimal digits: `\d`. -/
  | digit
  /-- White space: `\s`. -/
  | space
  /-- The characters of words: `\w`. -/
  | word
  /-- A class of ASCII characters, such as `[:alpha:]`. -/
  | ascii (name : String)
  /-- The characters with a property, such as `\p{Greek}`. -/
  | property (p : CharProperty)
  deriving DecidableEq

/-- The smallest patterns. -/
inductive Atom where
  /-- One character. -/
  | character (c : Char)
  /-- Any character: the full stop. -/
  | anyCharacter
  /-- A place between characters. -/
  | place (assertion : Assertion)
  /-- A character in, or if negated not in, a class. -/
  | named (kind : NamedClass) (negated : Bool)
  deriving DecidableEq

/-! ### Sets of characters -/

/-- How two sets of characters are combined. -/
inductive SetOperator where
  /-- The characters in both: `&&`. -/
  | intersection
  /-- The characters in the left one alone: `--`. -/
  | difference
  /-- The characters in exactly one: `~~`. -/
  | symmetricDifference
  deriving DecidableEq

/-- A set of characters, as it is written between brackets. -/
inductive CharSet where
  /-- One character. -/
  | character (c : Char)
  /-- All characters from one to another. -/
  | range (first last : Char)
  /-- The characters in, or if negated not in, a class. -/
  | named (kind : NamedClass) (negated : Bool)
  /-- A set in brackets of its own, or if negated its complement. -/
  | bracketed (members : CharSet) (negated : Bool)
  /-- The characters in any of some sets. -/
  | union (parts : List CharSet)
  /-- Two sets combined. -/
  | combined (operator : SetOperator) (left right : CharSet)

/-- The union of some sets; for a single one it is that set. -/
def CharSet.unionOf : List CharSet → CharSet
  | [part] => part
  | parts => .union parts

/-! ### Flags -/

/-- A switch of how a pattern is read or matched. -/
inductive Flag where
  /-- Letter case counts for nothing: `i`. -/
  | ignoreCase
  /-- Lines begin and end inside of the text: `m`. -/
  | manyLines
  /-- The full stop stands for line feeds too: `s`. -/
  | dotAll
  /-- Repetitions are lazy, and with a question mark greedy: `U`. -/
  | lazy
  /-- Characters and classes are those of Unicode, not of ASCII: `u`. -/
  | unicode
  /-- Lines may end with a carriage return: `R`. -/
  | carriageReturn
  /-- Blanks and comments in the pattern count for nothing: `x`. -/
  | spaced
  deriving DecidableEq

/-- The flag of a letter. -/
def Flag.ofLetter? : Char → Option Flag
  | 'i' => some .ignoreCase
  | 'm' => some .manyLines
  | 's' => some .dotAll
  | 'U' => some .lazy
  | 'u' => some .unicode
  | 'R' => some .carriageReturn
  | 'x' => some .spaced
  | _ => none

/-- A flag that is turned on or off. -/
structure FlagChange where
  /-- The flag. -/
  flag : Flag
  /-- Whether it is turned on. -/
  turnedOn : Bool
  deriving DecidableEq

/-! ### Patterns -/

/-- What a group does besides holding a pattern together. -/
inductive Grouping where
  /-- It captures what it matches, under its number. -/
  | numbered
  /-- It captures what it matches, under a name. -/
  | named (name : String)
  /-- It changes flags for what is in it. -/
  | flagged (changes : List FlagChange)

/-- How often a pattern is repeated. -/
structure Repetition where
  /-- The least number of times. -/
  least : Nat
  /-- The greatest number of times, if there is one. -/
  most? : Option Nat
  /-- Whether as many times as possible are tried first. -/
  greedy : Bool
  deriving DecidableEq

/-- A regular expression. -/
inductive Pattern where
  /-- The pattern that matches the empty text. -/
  | empty
  /-- An atom. -/
  | atom (a : Atom)
  /-- A character in, or if negated not in, a set. -/
  | set (members : CharSet) (negated : Bool)
  /-- Flags changed for the rest of the group. -/
  | flags (changes : List FlagChange)
  /-- A pattern in parentheses. -/
  | group (grouping : Grouping) (inner : Pattern)
  /-- A pattern several times in a row. -/
  | repeated (times : Repetition) (inner : Pattern)
  /-- Patterns one behind the other. -/
  | concatenation (parts : List Pattern)
  /-- Patterns to choose from. -/
  | alternatives (choices : List Pattern)

namespace Pattern

/-- Patterns one behind the other; for none or one no concatenation is needed. -/
def concatenationOf : List Pattern → Pattern
  | [] => empty
  | [part] => part
  | parts => concatenation parts

/-- Patterns to choose from; for a single one no choice is needed. -/
def alternativesOf : List Pattern → Pattern
  | [choice] => choice
  | choices => alternatives choices

end Pattern

end RelPlan
