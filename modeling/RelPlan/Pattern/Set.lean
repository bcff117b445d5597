import RelPlan.Pattern.Atom

/-!
# Reading sets of characters

A set is written between brackets. A caret in front negates it. Its members are characters, ranges
of characters, classes and further sets; the operators `&&`, `--` and `~~` combine all members
before them with all members up to the next operator. A closing bracket that comes first is a
member, and so are hyphens that come first or stand where they cannot make a range.
-/

namespace RelPlan.Pattern

/-! ### Members -/

/-- The set that an atom stands for, if it stands for one. Without Unicode only ASCII characters
can be members. -/
def memberOf? (m : Mode) : Atom → Option CharSet
  | .character c => if m.unicode ∨ c.toNat < 128 then some (.character c) else none
  | .named kind negated => some (.named kind negated)
  | _ => none

/-- A range between two atoms, which must be characters in ascending order. -/
def rangeOf? (m : Mode) (a b : Atom) : Option CharSet :=
  match a, b with
  | .character first, .character last =>
    if first ≤ last ∧ (m.unicode ∨ last.toNat < 128) then some (.range first last) else none
  | _, _ => none

/-- A character, as it is or behind a backslash. -/
def readMemberAtom (m : Mode) : Reader Atom := fun cs =>
  match cs with
  | [] => none
  | '\\' :: rest => readEscape m rest
  | c :: rest => some (.character c, rest)

/-- The character that decides about a hyphen in front of the text: the first one, where white
space and the sign of a comment are passed over in a spaced pattern. -/
def behindHyphen (m : Mode) (cs : List Char) : Option Char :=
  if m.spaced then
    match cs.dropWhile isWhitespace with
    | '#' :: rest => (rest.dropWhile isWhitespace).head?
    | rest => rest.head?
  else cs.head?

/-- A character, a class or a range. A hyphen makes a range unless the set ends behind it or a
second hyphen follows. -/
def readMember (m : Mode) : Reader CharSet := fun cs => do
  let (a, rest) ← readMemberAtom m cs
  match m.skip rest with
  | [] => none
  | '-' :: rest =>
    if behindHyphen m rest = some ']' ∨ behindHyphen m rest = some '-' then
      (memberOf? m a).map fun s => (s, '-' :: rest)
    else do
      let (b, rest) ← readMemberAtom m (m.skip rest)
      (rangeOf? m a b).map fun s => (s, rest)
  | rest => (memberOf? m a).map fun s => (s, rest)

/-! ### Classes of ASCII characters -/

/-- A class of ASCII characters, behind its opening bracket: a name between colons, with a caret
in front of it if the class is negated. -/
def readAsciiClass : Reader (NamedClass × Bool) := fun cs =>
  match cs with
  | ':' :: rest =>
    let (negated, rest) := match rest with
      | '^' :: rest => (true, rest)
      | rest => (false, rest)
    let name := String.ofList (rest.takeWhile (· ≠ ':'))
    match rest.dropWhile (· ≠ ':') with
    | ':' :: ']' :: rest =>
      if (asciiClasses.lookup name).isSome then some ((.ascii name, negated), rest) else none
    | _ => none
  | _ => none

/-! ### Sets -/

/-- How a set begins. -/
structure SetOpening where
  /-- Whether the set is negated. -/
  negated : Bool
  /-- The members that come first, the last one in front. -/
  members : List CharSet

/-- The beginning of a set, behind its opening bracket. Without Unicode no set can be negated, as
its complement has more than ASCII characters in it. -/
def readSetOpening (m : Mode) : Reader SetOpening := fun cs => do
  let (negated, rest) := match m.skip cs with
    | '^' :: rest => (true, m.skip rest)
    | rest => (false, rest)
  guard (m.unicode ∨ ¬ negated)
  match m.span (· = '-') rest with
  | ([], ']' :: rest) => return (⟨negated, [.character ']']⟩, rest)
  | (hyphens, rest) => return (⟨negated, hyphens.map .character⟩, rest)

/-- The members of a set put together: what an operator has on its left, if there is one, and the
members since then, the last one in front. -/
def joinMembers (left? : Option (SetOperator × CharSet)) (members : List CharSet) : CharSet :=
  match left? with
  | none => .unionOf members.reverse
  | some (operator, left) => .combined operator left (.unionOf members.reverse)

/-- The rest of a set, up to its closing bracket. Every step takes a character, so `n` bounds the
text. -/
def readMembers (m : Mode) : Nat → Option (SetOperator × CharSet) → List CharSet → Reader CharSet
  | 0, _, _, _ => none
  | n + 1, left?, members, cs =>
    match m.skip cs with
    | [] => none
    | ']' :: rest => some (joinMembers left? members, rest)
    | '&' :: '&' :: rest =>
      readMembers m n (some (.intersection, joinMembers left? members)) [] rest
    | '-' :: '-' :: rest =>
      readMembers m n (some (.difference, joinMembers left? members)) [] rest
    | '~' :: '~' :: rest =>
      readMembers m n (some (.symmetricDifference, joinMembers left? members)) [] rest
    | '[' :: rest =>
      match readAsciiClass rest with
      | some ((kind, negated), rest) =>
        if negated ∧ ¬ m.unicode then none
        else readMembers m n left? (.named kind negated :: members) rest
      | none => do
        let (opening, rest) ← readSetOpening m rest
        let (inner, rest) ← readMembers m n none opening.members rest
        readMembers m n left? (.bracketed inner opening.negated :: members) rest
    | rest => do
      let (member, rest) ← readMember m rest
      readMembers m n left? (member :: members) rest

/-- A set, behind its opening bracket, and whether it is negated. -/
def readSet (m : Mode) : Reader (CharSet × Bool) := fun cs => do
  let (opening, rest) ← readSetOpening m cs
  let (members, rest) ← readMembers m (rest.length + 1) none opening.members rest
  return ((members, opening.negated), rest)

end RelPlan.Pattern
