import RelPlan.Pattern.Limits
import RelPlan.Pattern.Set
import RelPlan.Text.Alphanumeric

/-!
# Reading patterns

`Pattern.parse?` reads a whole text as a pattern. Alternatives are parted by bars, and each is a
concatenation of atoms, sets, groups and changes of flags, any of which but the last may be
followed by repetitions. A text that is no pattern is refused, and so is a pattern beyond the
limits (see `Pattern.Limits`).
-/

namespace RelPlan

namespace Grouping

/-- The names of groups with that of one more, which must be new. -/
def addName? (names : List String) : Grouping → Option (List String)
  | named name => if name ∈ names then none else some (name :: names)
  | _ => some names

end Grouping

namespace Pattern

/-! ### Groups -/

/-- The changes that letters of flags spell out: those before a hyphen are turned on and those
behind it, of which there is at least one, are turned off. No letter stands twice. -/
def flagChanges? (letters : List Char) : Option (List FlagChange) := do
  let on ← (letters.takeWhile (· ≠ '-')).mapM Flag.ofLetter?
  let off ← match letters.dropWhile (· ≠ '-') with
    | [] => some []
    | [_] => none
    | _ :: off => off.mapM Flag.ofLetter?
  guard (on ++ off).Nodup
  return on.map (⟨·, true⟩) ++ off.map (⟨·, false⟩)

/-- What an opening parenthesis begins. -/
inductive Opening where
  /-- A group. -/
  | group (grouping : Grouping)
  /-- Changes of flags, which end at the closing parenthesis. -/
  | flags (changes : List FlagChange)

/-- The characters with which the name of a group begins. -/
def beginsGroupName (c : Char) : Bool := c = '_' || isAlphabetic c

/-- The characters that stand in the name of a group behind the first one. -/
def continuesGroupName (c : Char) : Bool := c ∈ ['_', '.', '[', ']'] || isAlphanumeric c

/-- What begins the name of a group can stand in it too. -/
theorem continuesGroupName_of_begins {c : Char} (h : beginsGroupName c) :
    continuesGroupName c := by
  simp only [beginsGroupName, Bool.or_eq_true, decide_eq_true_eq] at h
  rcases h with rfl | h
  · rfl
  · simp [continuesGroupName, isAlphanumeric_of_isAlphabetic h]

/-- The name of a group, up to a closing angle bracket. -/
def readGroupName : Reader String := fun cs =>
  match cs.takeWhile (· ≠ '>'), cs.dropWhile (· ≠ '>') with
  | c :: more, _ :: rest =>
    if beginsGroupName c && more.all continuesGroupName then some (String.ofList (c :: more), rest)
    else none
  | _, _ => none

/-- What stands behind an opening parenthesis and says what it begins. -/
def readOpening : Reader Opening := fun cs =>
  match cs with
  | '?' :: 'P' :: '<' :: rest =>
    (readGroupName rest).map fun (name, rest) => (.group (.named name), rest)
  | '?' :: '<' :: rest => (readGroupName rest).map fun (name, rest) => (.group (.named name), rest)
  | '?' :: rest => do
    let changes ← flagChanges? (rest.takeWhile fun c => c ≠ ':' ∧ c ≠ ')')
    match rest.dropWhile fun c => c ≠ ':' ∧ c ≠ ')' with
    | ':' :: rest => return (.group (.flagged changes), rest)
    | ')' :: rest => if changes.isEmpty then none else return (.flags changes, rest)
    | _ => none
  | _ => some (.group .numbered, cs)

/-! ### Repetitions -/

/-- The greatest number of times. -/
def timesLimit : Nat := 4294967295

/-- A number of times. White space may stand around it. -/
def readTimes (m : Mode) : Reader Nat := fun cs =>
  match m.span Char.isDigit (cs.dropWhile isWhitespace) with
  | ([], _) => none
  | (ds, rest) =>
    let n := Nat.ofDigitChars 10 ds 0
    if n ≤ timesLimit then some (n, rest.dropWhile isWhitespace) else none

/-- The bounds of a repetition, up to the closing brace. -/
def readBounds (m : Mode) : Reader (Nat × Option Nat) := fun cs => do
  let (least, rest) ← readTimes m (m.skip cs)
  match rest with
  | '}' :: rest => return ((least, some least), rest)
  | ',' :: rest =>
    match m.skip rest with
    | '}' :: rest => return ((least, none), rest)
    | rest => do
      let (most, rest) ← readTimes m rest
      guard (least ≤ most)
      match rest with
      | '}' :: rest => return ((least, some most), rest)
      | _ => none
  | _ => none

/-- The repetition with the given bounds. It is lazy if a question mark stands in front of the
text, which belongs to it. -/
def withBounds (least : Nat) (most? : Option Nat) (cs : List Char) : Repetition × List Char :=
  match cs with
  | '?' :: rest => (⟨least, most?, false⟩, rest)
  | _ => (⟨least, most?, true⟩, cs)

/-- The characters with which a repetition begins. -/
def isRepetitionSign (c : Char) : Bool := c ∈ ['?', '*', '+', '{']

/-- A repetition. Blanks may stand between bounds and a question mark, but not behind the other
signs. -/
def readRepetition (m : Mode) : Reader Repetition := fun cs =>
  match cs with
  | '?' :: rest => some (withBounds 0 (some 1) rest)
  | '*' :: rest => some (withBounds 0 none rest)
  | '+' :: rest => some (withBounds 1 none rest)
  | '{' :: rest =>
    (readBounds m rest).map fun ((least, most?), rest) => withBounds least most? (m.skip rest)
  | _ => none

/-- The items with the last one, which stands in front, repeated. Changes of flags cannot be
repeated. -/
def repeatLast? (times : Repetition) : List Pattern → Option (List Pattern)
  | [] => none
  | flags _ :: _ => none
  | item :: items => some (repeated times item :: items)

/-! ### Whole patterns -/

/-- What has been read up to the end of a group. -/
structure Inside where
  /-- The pattern. -/
  pattern : Pattern
  /-- The names of the groups so far. -/
  names : List String
  /-- The text behind. It is empty or begins with a closing parenthesis. -/
  rest : List Char

/-- The text up to the end of a group, given the names of groups, the alternatives and the items of
the last alternative so far; the last ones stand in front. Every step takes a character, so the
first argument bounds the text. -/
def readInside :
    Nat → Mode → List String → List Pattern → List Pattern → List Char → Option Inside
  | 0, _, _, _, _, _ => none
  | n + 1, m, names, choices, items, cs =>
    let done (rest : List Char) : Option Inside :=
      some ⟨alternativesOf (concatenationOf items.reverse :: choices).reverse, names, rest⟩
    match m.skip cs with
    | [] => done []
    | ')' :: rest => done (')' :: rest)
    | '|' :: rest => readInside n m names (concatenationOf items.reverse :: choices) [] rest
    | '[' :: rest => do
      let ((members, negated), rest) ← readSet m rest
      readInside n m names choices (set members negated :: items) rest
    | '(' :: rest => do
      let (opening, rest) ← readOpening (m.skip rest)
      match opening with
      | .flags changes =>
        readInside n (m.changeAll changes) names choices (flags changes :: items) rest
      | .group grouping => do
        let inner ← readInside n (grouping.modeInside m) (← grouping.addName? names) [] [] rest
        match inner.rest with
        | ')' :: rest =>
          readInside n m inner.names choices (group grouping inner.pattern :: items) rest
        | _ => none
    | c :: rest =>
      if isRepetitionSign c then do
        let (times, rest) ← readRepetition m (c :: rest)
        readInside n m names choices (← repeatLast? times items) rest
      else do
        let (a, rest) ← readAtom m (c :: rest)
        readInside n m names choices (atom a :: items) rest

/-- The pattern that a text spells out. -/
def parse? (cs : List Char) : Option Pattern := do
  let inside ← readInside (cs.length + 1) {} [] [] [] cs
  if inside.rest.isEmpty ∧ inside.pattern.WithinLimits then some inside.pattern else none

/-- A pattern that is read keeps to the limits. -/
theorem withinLimits_of_parse? {cs : List Char} {p : Pattern} (h : parse? cs = some p) :
    p.WithinLimits := by
  obtain ⟨inside, -, h⟩ := Option.bind_eq_some_iff.mp h
  split at h
  · next hl => exact Option.some.inj h ▸ hl.2
  · cases h

end Pattern

end RelPlan
