import RelPlan.Pattern.Mode
import RelPlan.Text.Hexadecimal

/-!
# Reading atoms

Most characters stand for themselves. A backslash in front gives a character its own meaning, if
it would have another, or another meaning, if it would have its own. A backslash in front of a
letter or digit without such a meaning is refused.
-/

namespace RelPlan.Pattern

/-! ### Characters by their number -/

/-- The character of a number. -/
def character? (n : Nat) : Option Char :=
  if n.isValidChar then some (Char.ofNat n) else none

/-- A hexadecimal digit. -/
def isHexDigit (c : Char) : Bool := (hexValue? c).isSome

/-- A character by its number, in braces or in as many digits as given. Two digits without braces
stand for a byte, which without Unicode must be an ASCII character. -/
def readNumber (m : Mode) (digits : Nat) : Reader Char := fun cs =>
  match m.skip cs with
  | '{' :: rest => do
    let (ds, rest) ← m.braced isHexDigit rest
    guard (¬ ds.isEmpty)
    let c ← (hexNumber? ds).bind character?
    return (c, rest)
  | rest => do
    let (ds, rest) ← m.take isHexDigit digits rest
    let c ← (hexNumber? ds).bind character?
    guard (m.unicode ∨ digits ≠ 2 ∨ c.toNat < 128)
    return (c, rest)

/-! ### Classes -/

/-- A class by its property, as one letter or in braces. It must exist, and needs Unicode. -/
def readProperty (m : Mode) (negated : Bool) : Reader Atom := fun cs =>
  match m.skip cs with
  | [] => none
  | '{' :: rest => do
    let (name, rest) ← m.braced (fun _ => true) rest
    let (property?, unequal) := CharProperty.parse name
    guard m.unicode
    let property ← property?
    return (.named (.property property) (negated != unequal), rest)
  | c :: rest => do
    guard m.unicode
    let property ← CharProperty.named? (foldedName [c])
    return (.named (.property property) negated, m.skip rest)

/-! ### Assertions -/

/-- The assertion of that name, which stands in braces behind `\b`. -/
def assertionNamed? (name : List Char) : Option Assertion :=
  match String.ofList name with
  | "start" => some .wordStart
  | "end" => some .wordEnd
  | "start-half" => some .halfStart
  | "end-half" => some .halfEnd
  | _ => none

/-- The assertion that begins with `\b`. Braces with something else than a name, as digits, do not
belong to it. -/
def readWordEdge (m : Mode) : Reader Assertion := fun cs =>
  match cs with
  | '{' :: rest =>
    match m.skip rest with
    | [] => none
    | c :: more =>
      if c.isAlpha ∨ c = '-' then do
        let (name, rest) ← m.braced (fun c => c.isAlpha || c = '-') (c :: more)
        let assertion ← assertionNamed? name
        return (assertion, rest)
      else some (.wordEdge, '{' :: rest)
  | _ => some (.wordEdge, cs)

/-! ### Escapes -/

/-- The character that a letter behind a backslash stands for. -/
def control? : Char → Option Char
  | 'a' => some '\x07'
  | 'f' => some '\x0C'
  | 't' => some '\t'
  | 'n' => some '\n'
  | 'r' => some '\r'
  | 'v' => some '\x0B'
  | _ => none

/-- The class that a letter behind a backslash stands for, and whether it is negated. -/
def class? : Char → Option (NamedClass × Bool)
  | 'd' => some (.digit, false)
  | 's' => some (.space, false)
  | 'w' => some (.word, false)
  | 'D' => some (.digit, true)
  | 'S' => some (.space, true)
  | 'W' => some (.word, true)
  | _ => none

/-- The assertion that a character behind a backslash stands for. -/
def assertion? : Char → Option Assertion
  | 'A' => some .textStart
  | 'z' => some .textEnd
  | 'B' => some .noWordEdge
  | '<' => some .wordStart
  | '>' => some .wordEnd
  | _ => none

/-- What stands behind a backslash. -/
def readEscape (m : Mode) : Reader Atom := fun cs =>
  match cs with
  | [] => none
  | 'x' :: rest => (readNumber m 2 rest).map fun (c, rest) => (.character c, rest)
  | 'u' :: rest => (readNumber m 4 rest).map fun (c, rest) => (.character c, rest)
  | 'U' :: rest => (readNumber m 8 rest).map fun (c, rest) => (.character c, rest)
  | 'p' :: rest => readProperty m false rest
  | 'P' :: rest => readProperty m true rest
  | 'b' :: rest => (readWordEdge m rest).map fun (assertion, rest) => (.place assertion, rest)
  | c :: rest =>
    match class? c, assertion? c, control? c with
    | some (kind, negated), _, _ =>
      if negated ∧ ¬ m.unicode then none else some (.named kind negated, rest)
    | none, some assertion, _ => some (.place assertion, rest)
    | none, none, some d => some (.character d, rest)
    | none, none, none =>
      if c.toNat < 128 ∧ ¬ c.isAlphanum then some (.character c, rest) else none

/-- An atom. -/
def readAtom (m : Mode) : Reader Atom := fun cs =>
  match cs with
  | [] => none
  | '\\' :: rest => readEscape m rest
  | '.' :: rest => if m.unicode then some (.anyCharacter, rest) else none
  | '^' :: rest => some (.place .lineStart, rest)
  | '$' :: rest => some (.place .lineEnd, rest)
  | c :: rest => some (.character c, rest)

end RelPlan.Pattern
