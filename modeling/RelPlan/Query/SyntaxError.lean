import RelPlan.Text.Indent

/-!
# Syntax errors

Where a text stops being a query, and how that is reported: line, column, what was looked for,
the line itself, and a caret under the column. A line ends in a line feed, which a carriage return
may precede. Lines and columns count from one, and columns count characters.
-/

namespace RelPlan

/-- What a reader looked for and did not find. -/
inductive Wanted where
  /-- A keyword. -/
  | keyword
  /-- One particular character. -/
  | character
  /-- One of several forms. -/
  | alternative
  /-- A name. -/
  | name
  /-- The end of the text. -/
  | ending
  /-- Blank space. -/
  | blank
  /-- A digit. -/
  | digit
  deriving DecidableEq

/-- The words for what was looked for; there are none for blanks and digits. -/
def Wanted.description : Wanted → String
  | keyword => ". Expected a keyword or token"
  | character => ". Expected a specific character"
  | alternative => ". Expected one of several alternatives"
  | name => ". Expected a name"
  | ending => ". Unexpected trailing input"
  | blank => ""
  | digit => ""

/-! ### Lines and columns -/

/-- A place in a text. -/
structure Position where
  /-- The line, from `1`. -/
  line : Nat
  /-- The column, from `1`, in characters. -/
  column : Nat
  deriving DecidableEq

namespace Position

/-- The beginning of a text. -/
def start : Position := ⟨1, 1⟩

/-- The place behind one more character. -/
def next (p : Position) (c : Char) : Position :=
  if c = '\n' then ⟨p.line + 1, 1⟩ else ⟨p.line, p.column + 1⟩

/-- The place right behind the given beginning of a text. -/
def behind (before : List Char) : Position := before.foldl next start

end Position

/-- The characters of a text that begin before a byte offset. -/
def beforeOffset : Nat → List Char → List Char
  | _, [] => []
  | offset, c :: cs => if offset = 0 then [] else c :: beforeOffset (offset - c.utf8Size) cs

/-- The lines of a text, without their ends; a text that ends with a line's end has no further
line. -/
def linesOf : List Char → List (List Char)
  | [] => []
  | '\n' :: cs => [] :: linesOf cs
  | '\r' :: '\n' :: cs => [] :: linesOf cs
  | c :: cs =>
    match linesOf cs with
    | [] => [[c]]
    | l :: ls => (c :: l) :: ls

/-! ### Reports -/

/-- Why a text is not a query. -/
inductive SyntaxError where
  /-- Behind the given beginning of the text something else was looked for. -/
  | mismatch (before : List Char) (wanted : Wanted)
  /-- The text breaks off before it can be decided. -/
  | incomplete
  deriving DecidableEq

/-- The line that is shown for a place in a text. -/
def shownLine (text : List Char) (p : Position) : String :=
  match (linesOf text)[p.line - 1]? with
  | some l => String.ofList l
  | none => "[end of input]"

/-- The report of a syntax error in a text. -/
def SyntaxError.report (text : List Char) : SyntaxError → String
  | mismatch before wanted =>
    let p := Position.behind before
    "line " ++ p.line.repr ++ ", column " ++ p.column.repr ++ wanted.description ++ ":\n"
      ++ shownLine text p ++ "\n" ++ spaces (p.column - 1) ++ "^ Here"
  | incomplete => "Incomplete input: the parser needs more input to complete parsing"

end RelPlan
