import RelPlan.Pattern.Expression
import RelPlan.Pattern.Mode

/-!
# What patterns mean

The meaning of a pattern depends on the flags that are turned on, which the pattern may change as it
goes on: a change of flags counts up to the end of its group, alternatives included. The sets that
classes and brackets stand for are worked out, and the rest is put together as an expression.
-/

namespace RelPlan

/-! ### Classes -/

/-- The ASCII characters of a class that is given by its name. -/
def asciiClass (name : String) : CodeSet := (asciiClasses.lookup name).elim .empty .ofText

/-- The set with the ASCII letters in it in either case. -/
def CodeSet.asciiCaseFolded (s : CodeSet) : CodeSet :=
  s ∪ (s ∩ asciiClass "upper").moveUp 32 ∪ (s ∩ asciiClass "lower").moveDown 32

namespace Pattern.Mode

/-- The set as it is matched: if letter case counts for nothing, with both cases in it. -/
def folded (m : Mode) (s : CodeSet) : CodeSet :=
  if m.has .ignoreCase then if m.unicode then s.caseFolded else s.asciiCaseFolded else s

/-- The set, or if negated its complement. -/
def negate (negated : Bool) (s : CodeSet) : CodeSet := if negated then s.complement else s

/-- The characters in, or if negated not in, a class. The classes that are written with a letter
behind a backslash are the same in either letter case. -/
def namedClass (m : Mode) (negated : Bool) : NamedClass → CodeSet
  | .digit => negate negated (if m.unicode then inCategories ["Nd"] else asciiClass "digit")
  | .space => negate negated (if m.unicode then .whiteSpace else asciiClass "space")
  | .word =>
    negate negated
      (if m.unicode then .alphabetic ∪ inCategories ("Nd" :: "Pc" :: marks) ∪ .joinControl
      else asciiClass "word")
  | .ascii name => negate negated (m.folded (asciiClass name))
  | .property p => negate negated (m.folded p.characters)

/-- The characters that the full stop stands for. -/
def anyCharacter (m : Mode) : CodeSet :=
  if m.has .dotAll then .everything
  else if m.has .carriageReturn then .everything \ .ofText "a d"
  else .everything \ .ofText "a"

mutual

/-- The characters in a set. Letter case is left out where a bracket closes and, for the operators,
on both sides. -/
def charSet (m : Mode) : CharSet → CodeSet
  | .character c => .ofRange c.toNat c.toNat
  | .range first last => .ofRange first.toNat last.toNat
  | .named kind negated => m.namedClass negated kind
  | .bracketed members negated => negate negated (m.folded (m.charSet members))
  | .union parts => .unionOf (m.charSets parts)
  | .combined operator left right =>
    let left := m.folded (m.charSet left)
    let right := m.folded (m.charSet right)
    match operator with
    | .intersection => left ∩ right
    | .difference => left \ right
    | .symmetricDifference => left.symmetricDifference right

/-- The characters in each of some sets. -/
def charSets (m : Mode) : List CharSet → List CodeSet
  | [] => []
  | part :: parts => m.charSet part :: m.charSets parts

end

/-! ### Atoms -/

/-- The place that is meant where lines begin and end only with the text, unless they end inside of
it. -/
def assertion (m : Mode) : Assertion → Assertion
  | .lineStart => if m.has .manyLines then .lineStart else .textStart
  | .lineEnd => if m.has .manyLines then .lineEnd else .textEnd
  | a => a

/-- The expression that an atom stands for. -/
def atom (m : Mode) : Atom → Expression
  | .character c => .ofSet (m.folded (.ofRange c.toNat c.toNat))
  | .anyCharacter => .ofSet m.anyCharacter
  | .place a => .place (m.assertion a)
  | .named kind negated => .ofSet (m.namedClass negated kind)

/-- The repetition that is meant: whether it is greedy is turned round if repetitions are lazy. -/
def repetition (m : Mode) (times : Repetition) : Repetition :=
  { times with greedy := times.greedy != m.has .lazy }

end Pattern.Mode

/-- The expression for a group around another one. -/
def Grouping.around (inner : Expression) : Grouping → Expression
  | flagged _ => inner
  | _ => .captured inner

namespace Pattern

/-! ### Patterns -/

mutual

/-- The expression that a pattern stands for, and the mode behind it. -/
def meaning (m : Mode) : Pattern → Expression × Mode
  | empty => (.empty, m)
  | atom a => (m.atom a, m)
  | set members negated => (.ofSet (m.charSet (.bracketed members negated)), m)
  | flags changes => (.empty, m.changeAll changes)
  | group grouping inner => (grouping.around (meaning (grouping.modeInside m) inner).1, m)
  | repeated times inner => (.repeatedOf (m.repetition times) (meaning m inner).1, m)
  | concatenation parts =>
    let (es, m) := meanings m parts
    (.concatenationOf es, m)
  | alternatives choices =>
    let (es, m) := meanings m choices
    (.alternativesOf es, m)

/-- The expressions that patterns stand for, one behind the other, and the mode behind them. -/
def meanings (m : Mode) : List Pattern → List Expression × Mode
  | [] => ([], m)
  | p :: ps =>
    let (e, m) := meaning m p
    let (es, m) := meanings m ps
    (e :: es, m)

end

/-- The expression that a whole pattern stands for. -/
def expression (p : Pattern) : Expression := (p.meaning {}).1

end Pattern

end RelPlan
