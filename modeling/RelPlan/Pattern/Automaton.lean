import RelPlan.Pattern.Expression
import RelPlan.Unicode.Utf8

/-!
# Automata

An expression is matched by two automata that read bytes, one forwards from the beginning and one
backwards from the end. The size of an automaton is that of its states, which can be read off the
expression. A state has a byte range with a state to go to, or many of them (a branching state), or
states to go to without reading anything (a choice), or it only stands for a place.

A set of characters is read in different ways. Forwards, states with the same future are one state,
so the automaton is as small as it can be. Backwards, states with the same past are one state, as
far as rows of byte ranges begin in the same way.
-/

namespace RelPlan

/-- The direction in which an automaton reads. -/
inductive Direction where
  /-- From the beginning to the end. -/
  | forwards
  /-- From the end to the beginning. -/
  | backwards
  deriving DecidableEq

namespace Automaton

/-! ### States -/

/-- The size of a state. -/
def stateSize : Nat := 32

/-- The size of a branch of a state with several branches. -/
def branchSize : Nat := 8

/-- The size of an edge of a choice. -/
def edgeSize : Nat := 4

/-- The size of a choice between `n` states. -/
def choiceSize (n : Nat) : Nat := stateSize + n * edgeSize

/-- The size of a state with `n` branches. -/
def branchingSize (n : Nat) : Nat := stateSize + n * branchSize

/-! ### Sets, forwards -/

/-- A state for a part of a character: byte ranges with the numbers of the states behind them. The
state behind the character has the number zero. -/
abbrev Node := List (ByteRange × Nat)

/-- The number of a node among the nodes so far, the newest of which is in front, and the nodes with
it. -/
def Node.number (node : Node) (nodes : List Node) : Nat × List Node :=
  match nodes.idxOf? node with
  | some i => (nodes.length - i, nodes)
  | none => (nodes.length + 1, node :: nodes)

/-- The rows without their first ranges, put together by these. -/
def branches (rows : List (List ByteRange)) : List (ByteRange × List (List ByteRange)) :=
  (rows.splitBy fun r r' => r.head? == r'.head?).filterMap fun rows =>
    match rows with
    | (range :: _) :: _ => some (range, rows.map List.tail)
    | _ => none

/-- The number of the state that reads one of some rows of at most `n` byte ranges, and the nodes
with those for it. -/
def nodesFor : Nat → List (List ByteRange) → List Node → Nat × List Node
  | 0, _, nodes => (0, nodes)
  | n + 1, rows, nodes =>
    if rows.any List.isEmpty then (0, nodes)
    else
      let (node, nodes) := (branches rows).foldl
        (fun (node, nodes) (range, rows) =>
          let (k, nodes) := nodesFor n rows nodes
          ((range, k) :: node, nodes))
        ([], nodes)
      Node.number node nodes

/-- The greatest number of bytes of a character. -/
def mostBytes : Nat := 4

/-- The size of an automaton that reads one of some rows forwards. -/
def forwardSize (rows : List (List ByteRange)) : Nat :=
  stateSize + (nodesFor mostBytes rows []).2.foldl (fun n node => n + branchingSize node.length) 0

/-! ### Sets, backwards -/

/-- The number of ranges that two rows begin with in common. -/
def sharedRanges : List ByteRange → List ByteRange → Nat
  | a :: as, b :: bs => if a = b then sharedRanges as bs + 1 else 0
  | _, _ => 0

/-- The number of states for rows of ranges, given the row in front of them. -/
def stateCount (previous : List ByteRange) : List (List ByteRange) → Nat
  | [] => 0
  | row :: rows => row.length - sharedRanges previous row + stateCount row rows

/-- The size of an automaton that reads one of some rows backwards: a choice between the rows, and a
state behind them. -/
def backwardSize (rows : List (List ByteRange)) : Nat :=
  choiceSize rows.length + stateCount [] rows * stateSize + stateSize

/-- The size of the automaton for a set of characters. Sets of ASCII characters have one branching
state and one behind it. -/
def setSize (d : Direction) (set : CodeSet) : Nat :=
  if set.edges.all (· ≤ 128) then branchingSize set.ranges.length + stateSize
  else match d with
    | .forwards => forwardSize set.byteRows
    | .backwards => backwardSize set.byteRows

/-! ### Words -/

/-- The bytes of a text in the order in which they are read. -/
def bytesOf (d : Direction) (cs : List Char) : List UInt8 :=
  let bytes := cs.flatMap String.utf8EncodeChar
  match d with
  | .forwards => bytes
  | .backwards => bytes.reverse

/-- The words between empty ones. -/
def betweenEmpty : List (List UInt8) → List (List (List UInt8))
  | [] => [[]]
  | [] :: words => [] :: betweenEmpty words
  | word :: words =>
    match betweenEmpty words with
    | [] => [[word]]
    | chunk :: chunks => (word :: chunk) :: chunks

/-- Words in chunks: a word that is empty ends a chunk, as those in front of it are tried first.
Several empty words in front of all others count as one. -/
def chunksOf (words : List (List UInt8)) : List (List (List UInt8)) :=
  match words with
  | [] :: words => [] :: betweenEmpty (words.dropWhile List.isEmpty)
  | words => betweenEmpty words

/-- What stands behind each byte that begins some of the words. -/
def restsByByte (words : List (List UInt8)) : List (List (List UInt8)) :=
  ((words.filterMap List.head?).eraseDups).map fun byte =>
    words.filterMap fun word =>
      match word with
      | b :: rest => if b = byte then some rest else none
      | [] => none

/-- The size of the states that read one of some words of at most `n` bytes, without the state
behind them. Words that begin with the same byte share a state. -/
def wordsSize : Nat → List (List UInt8) → Nat
  | 0, _ => 0
  | n + 1, words =>
    if words.all List.isEmpty then 0
    else
      let chunks := chunksOf words
      let starts := (chunks.filter (! ·.isEmpty)).length + (chunks.length - 1)
      chunks.foldl
        (fun size chunk =>
          let rests := restsByByte chunk
          let branching :=
            if rests.isEmpty then 0
            else if rests.length = 1 then stateSize
            else branchingSize rests.length
          rests.foldl (fun size rest => size + wordsSize n rest) (size + branching))
        (if starts = 1 then 0 else choiceSize starts)

/-- The size of the automaton for a choice between texts. -/
def textsSize (d : Direction) (texts : List (List Char)) : Nat :=
  let words := texts.map (bytesOf d)
  wordsSize (words.foldl (fun n word => max n word.length) 0) words + stateSize

end Automaton

open Automaton

/-- The size of the automaton for a repetition of what has a given size. Times that are required
are there in a row. A time that is not required has a choice in front of it, and a repetition
without end has one behind it; one that may match nothing has two of them. -/
def Repetition.automatonSize (r : Repetition) (mayBeEmpty : Bool) (inner : Nat) : Nat :=
  match r.least, r.most? with
  | 0, some 1 => inner + choiceSize 2 + stateSize
  | 0, none =>
    if mayBeEmpty then inner + choiceSize 2 + choiceSize 2 + stateSize else inner + choiceSize 2
  | n, none => n * inner + choiceSize 2
  | n, some most =>
    if n = most then n * inner
    else (if n = 0 then stateSize else n * inner) + stateSize + (most - n) * (inner + choiceSize 2)

namespace Expression

/-- The text that an expression is. -/
def text? : Expression → Option (List Char)
  | text cs => some cs
  | _ => none

mutual

/-- The size of the automaton for an expression. -/
def automatonSize (d : Direction) : Expression → Nat
  | empty => stateSize
  | text cs => cs.foldl (fun n c => n + c.utf8Size) 0 * stateSize
  | oneOf set => setSize d set
  | place _ => stateSize
  | captured inner =>
    inner.automatonSize d + match d with
      | .forwards => 2 * stateSize
      | .backwards => 0
  | repeated times inner =>
    times.automatonSize (inner.minLength?.all (· = 0)) (inner.automatonSize d)
  | concatenation parts => automatonSizeOfAll d parts
  | alternatives choices =>
    match choices.mapM text? with
    | some texts => textsSize d texts
    | none => automatonSizeOfAll d choices + choiceSize choices.length + stateSize

/-- The sizes of the automata for some expressions together. -/
def automatonSizeOfAll (d : Direction) : List Expression → Nat
  | [] => 0
  | e :: es => e.automatonSize d + automatonSizeOfAll d es

end

/-! ### Whole expressions -/

/-- The expression matches nothing but the empty text. -/
def matchesOnlyEmpty (e : Expression) : Bool := e.maxLength? = some 0

mutual

/-- Whatever the expression matches begins or, read backwards, ends at such a place. -/
def beginsAt (d : Direction) (a : Assertion) : Expression → Bool
  | place b => a = b
  | captured inner => inner.beginsAt d a
  | repeated times inner => times.least ≠ 0 && inner.beginsAt d a
  | concatenation parts => someBeginsAt d a parts
  | alternatives choices => allBeginAt d a choices
  | _ => false

/-- Whatever the expressions match one behind the other begins or ends at such a place. -/
def someBeginsAt (d : Direction) (a : Assertion) : List Expression → Bool
  | [] => false
  | e :: es =>
    match d with
    | .forwards => e.beginsAt d a || e.matchesOnlyEmpty && someBeginsAt d a es
    | .backwards => someBeginsAt d a es || es.all matchesOnlyEmpty && e.beginsAt d a

/-- Whatever any of the expressions matches begins or ends at such a place. -/
def allBeginAt (d : Direction) (a : Assertion) : List Expression → Bool
  | [] => true
  | e :: es => e.beginsAt d a && allBeginAt d a es

end

/-- The size of the automaton that finds an expression in a text. It has a loop in front that passes
over any bytes, unless the match must begin where reading begins. Forwards, the whole match is
captured. -/
def searchSize (d : Direction) (e : Expression) : Nat :=
  let start := match d with
    | .forwards => Assertion.textStart
    | .backwards => Assertion.textEnd
  let passing :=
    if e.beginsAt d start then stateSize else branchingSize 1 + stateSize + choiceSize 2
  passing + (captured e).automatonSize d + stateSize

end Expression

end RelPlan
