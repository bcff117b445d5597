import RelPlan.Pattern.Basic

/-!
# Expressions

An expression says what a pattern matches, without flags, sets in brackets or groups that do not
capture. It is built by functions that simplify it on the way: texts that stand next to each other
are joined, choices between characters become sets, and what all choices begin with is taken out of
them. An automaton is built from the simplified expression.
-/

namespace RelPlan

/-- A regular expression whose flags have been worked in. -/
inductive Expression where
  /-- The empty text. -/
  | empty
  /-- A text of at least one character. -/
  | text (cs : List Char)
  /-- A character from a set. -/
  | oneOf (set : CodeSet)
  /-- A place between characters. -/
  | place (assertion : Assertion)
  /-- An expression that captures what it matches. -/
  | captured (inner : Expression)
  /-- An expression several times in a row. -/
  | repeated (times : Repetition) (inner : Expression)
  /-- Expressions one behind the other. -/
  | concatenation (parts : List Expression)
  /-- Expressions to choose from. -/
  | alternatives (choices : List Expression)

namespace Expression

/-! ### Lengths -/

/-- The number of bytes of a code point. -/
def byteLength (n : Nat) : Nat := (Char.ofNat n).utf8Size

mutual

/-- The least number of bytes that an expression matches. What an empty set is in has none. -/
def minLength? : Expression → Option Nat
  | empty => some 0
  | text cs => some (cs.foldl (fun n c => n + c.utf8Size) 0)
  | oneOf set => set.ranges.head?.map fun (first, _) => byteLength first
  | place _ => some 0
  | captured inner => inner.minLength?
  | repeated times inner => inner.minLength?.map (times.least * ·)
  | concatenation parts => minLengthOfAll? parts
  | alternatives choices => minLengthOfAny? choices

/-- The least number of bytes that expressions one behind the other match. -/
def minLengthOfAll? : List Expression → Option Nat
  | [] => some 0
  | part :: parts => do return (← part.minLength?) + (← minLengthOfAll? parts)

/-- The least number of bytes that one of some expressions matches. -/
def minLengthOfAny? : List Expression → Option Nat
  | [] => none
  | [choice] => choice.minLength?
  | choice :: choices => do return min (← choice.minLength?) (← minLengthOfAny? choices)

end

mutual

/-- The greatest number of bytes that an expression matches, if there is one. -/
def maxLength? : Expression → Option Nat
  | empty => some 0
  | text cs => some (cs.foldl (fun n c => n + c.utf8Size) 0)
  | oneOf set => set.ranges.getLast?.map fun (_, last) => byteLength last
  | place _ => some 0
  | captured inner => inner.maxLength?
  | repeated times inner => do return (← times.most?) * (← inner.maxLength?)
  | concatenation parts => maxLengthOfAll? parts
  | alternatives choices => maxLengthOfAny? choices

/-- The greatest number of bytes that expressions one behind the other match. -/
def maxLengthOfAll? : List Expression → Option Nat
  | [] => some 0
  | part :: parts => do return (← part.maxLength?) + (← maxLengthOfAll? parts)

/-- The greatest number of bytes that one of some expressions matches. -/
def maxLengthOfAny? : List Expression → Option Nat
  | [] => none
  | [choice] => choice.maxLength?
  | choice :: choices => do return max (← choice.maxLength?) (← maxLengthOfAny? choices)

end

/-! ### Equality -/

mutual

/-- Two parts of an expression are the same. What they capture is told apart, so two parts that
capture something never are. -/
def same : Expression → Expression → Bool
  | empty, empty => true
  | text cs, text ds => cs = ds
  | oneOf s, oneOf t => s = t
  | place a, place b => a = b
  | repeated times inner, repeated times' inner' => times = times' && inner.same inner'
  | concatenation parts, concatenation parts' => sameAll parts parts'
  | alternatives choices, alternatives choices' => sameAll choices choices'
  | _, _ => false

/-- The expressions in two lists are the same. -/
def sameAll : List Expression → List Expression → Bool
  | [], [] => true
  | e :: es, f :: fs => e.same f && sameAll es fs
  | _, _ => false

end

/-- The number of expressions that two lists begin with in common. -/
def sharedLength : List Expression → List Expression → Nat
  | e :: es, f :: fs => if e.same f then sharedLength es fs + 1 else 0
  | _, _ => 0

/-! ### Sets -/

/-- A character from a set. If there is only one, it is a text. -/
def ofSet (set : CodeSet) : Expression :=
  match set.ranges with
  | [(first, last)] => if first = last then text [Char.ofNat first] else oneOf set
  | _ => oneOf set

/-! ### Repetitions -/

/-- An expression several times in a row. What matches only the empty text is not repeated. -/
def repeatedOf (times : Repetition) (inner : Expression) : Expression :=
  let times := if inner.maxLength? = some 0 then
    { times with least := min times.least 1, most? := some (min (times.most?.getD 1) 1) } else times
  match times.least, times.most? with
  | 0, some 0 => empty
  | 1, some 1 => inner
  | _, _ => repeated times inner

/-! ### Concatenations -/

/-- The parts that an expression has in a concatenation. -/
def parts : Expression → List Expression
  | empty => []
  | concatenation parts => parts
  | e => [e]

/-- Parts with one more in front. Texts are joined. -/
def joinPart : Expression → List Expression → List Expression
  | text cs, text ds :: rest => text (cs ++ ds) :: rest
  | e, rest => e :: rest

/-- Expressions one behind the other. -/
def concatenationOf (es : List Expression) : Expression :=
  match (es.flatMap parts).foldr joinPart [] with
  | [] => empty
  | [e] => e
  | es => concatenation es

/-! ### Alternatives -/

/-- The choices that an expression gives in a choice. -/
def choices : Expression → List Expression
  | alternatives choices => choices
  | e => [e]

/-- The character that an expression is. -/
def character? : Expression → Option CodeSet
  | text [c] => some (.ofRange c.toNat c.toNat)
  | _ => none

/-- The set that an expression is. -/
def set? : Expression → Option CodeSet
  | oneOf set => some set
  | _ => none

/-- The set of what can be chosen from, if all choices are characters or all are sets. -/
def chosenSet? (es : List Expression) : Option CodeSet :=
  (es.mapM character? <|> es.mapM set?).map .unionOf

/-- Expressions to choose from, nothing in common being taken out of them. -/
def choiceOf (es : List Expression) : Expression :=
  match es.flatMap choices with
  | [e] => e
  | es =>
    match chosenSet? es with
    | some set => ofSet set
    | none => alternatives es

/-- The parts of a concatenation. -/
def concatenation? : Expression → Option (List Expression)
  | concatenation parts => some parts
  | _ => none

/-- The number of parts that all of some concatenations begin with in common. -/
def sharedByAll : List (List Expression) → Nat
  | [] => 0
  | parts :: others =>
    others.foldl (fun n others => min n (sharedLength parts others)) parts.length

/-- Expressions to choose from. If all are concatenations, what they begin with in common is in
front of the choice. -/
def alternativesOf (es : List Expression) : Expression :=
  match choiceOf es with
  | alternatives es =>
    match es.mapM concatenation? with
    | some (parts :: others) =>
      match sharedByAll (parts :: others) with
      | 0 => alternatives es
      | n =>
        let rests := (parts :: others).map fun parts => concatenationOf (parts.drop n)
        concatenationOf (parts.take n ++ [choiceOf rests])
    | _ => alternatives es
  | e => e

end Expression

end RelPlan
