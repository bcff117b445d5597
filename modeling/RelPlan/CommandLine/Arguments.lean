import RelPlan.Count
import RelPlan.Optimise.Search

/-!
# Command-line arguments

What a command line asks for. Options have a long name, and some a short one; a value is the next
argument, or stands behind the option in the same argument. An argument with a hyphen in front is
never a value. Each option may be given once. Arguments are taken in order, and the first that is
wrong, or that asks for the version or for help, decides.
-/

namespace RelPlan

/-- Where the query comes from. -/
inductive QuerySource where
  /-- It is given as an argument. -/
  | argument (text : String)
  /-- It is in a file. -/
  | file (path : String)
  /-- It is on standard input. -/
  | input
  deriving DecidableEq

/-- What is to be explained, and how. -/
structure Settings where
  /-- The file that holds the catalogue. -/
  catalogue : String
  /-- Where the query comes from. -/
  query : QuerySource
  /-- What is done to the plan. -/
  options : Options
  /-- The number of spaces for each level of a plan. -/
  indent : Nat
  /-- What is logged. -/
  logFilter : String
  deriving DecidableEq

/-- What a command line asks for. -/
inductive Request where
  /-- The program's version. -/
  | version
  /-- A summary of the arguments. -/
  | help
  /-- The explanation of a query. -/
  | explain (settings : Settings)
  deriving DecidableEq

/-- The options that take a value. -/
inductive ValueOption where
  /-- The file of the catalogue: `--catalogue`, `-c`. -/
  | catalogue
  /-- The text of the query: `--query`, `-q`. -/
  | query
  /-- The file of the query: `--query-file`. -/
  | queryFile
  /-- The number of spaces for each level: `--indent`. -/
  | indent
  /-- What is logged: `--log-level`. -/
  | logLevel
  deriving DecidableEq

/-- The options without a value. -/
inductive Switch where
  /-- Selections stay above the joins: `--no-select-pushdown`. -/
  | noSelectPushdown
  /-- Inputs of joins are not narrowed: `--no-project-pushdown`. -/
  | noProjectPushdown
  /-- Show the version: `--version`, `-V`. -/
  | version
  /-- Show a summary: `--help`, `-h`. -/
  | help
  deriving DecidableEq

/-- An option, with or without a value. -/
inductive OptionKind where
  /-- An option that takes a value. -/
  | valued (option : ValueOption)
  /-- An option that does not. -/
  | switch (switch : Switch)

/-- The option of a long name, without its hyphens. -/
def OptionKind.ofLong? : String → Option OptionKind
  | "catalogue" => some (.valued .catalogue)
  | "query" => some (.valued .query)
  | "query-file" => some (.valued .queryFile)
  | "indent" => some (.valued .indent)
  | "log-level" => some (.valued .logLevel)
  | "no-select-pushdown" => some (.switch .noSelectPushdown)
  | "no-project-pushdown" => some (.switch .noProjectPushdown)
  | "version" => some (.switch .version)
  | "help" => some (.switch .help)
  | _ => none

/-- The option of a short name. -/
def OptionKind.ofShort? : Char → Option OptionKind
  | 'c' => some (.valued .catalogue)
  | 'q' => some (.valued .query)
  | 'V' => some (.switch .version)
  | 'h' => some (.switch .help)
  | _ => none

/-- What has been given so far. -/
structure Given where
  /-- The value of `--catalogue`. -/
  catalogue : Option String := none
  /-- The value of `--query`. -/
  query : Option String := none
  /-- The value of `--query-file`. -/
  queryFile : Option String := none
  /-- The value of `--indent`. -/
  indent : Option Nat := none
  /-- The value of `--log-level`. -/
  logLevel : Option String := none
  /-- Whether `--no-select-pushdown` was given. -/
  noSelectPushdown : Bool := false
  /-- Whether `--no-project-pushdown` was given. -/
  noProjectPushdown : Bool := false

namespace Given

/-- A whole number: digits, with a plus sign in front or not, up to `countLimit`. -/
def wholeNumber? (text : String) : Option Nat :=
  let ds := match text.toList with
    | '+' :: ds => ds
    | ds => ds
  if ds.isEmpty ∨ ¬ ds.all Char.isDigit then none
  else (Count.ofNat? (Nat.ofDigitChars 10 ds 0)).map Count.toNat

/-- Take in the value of an option. It is refused if the option was given before, if a file has
no name, or if a number is none. -/
def setValue? (g : Given) (option : ValueOption) (value : String) : Option Given :=
  match option with
  | .catalogue =>
    if g.catalogue.isSome ∨ value.isEmpty then none else some { g with catalogue := some value }
  | .query => if g.query.isSome then none else some { g with query := some value }
  | .queryFile =>
    if g.queryFile.isSome ∨ value.isEmpty then none else some { g with queryFile := some value }
  | .indent =>
    if g.indent.isSome then none
    else (wholeNumber? value).map fun n => { g with indent := some n }
  | .logLevel => if g.logLevel.isSome then none else some { g with logLevel := some value }

/-- The source of the query; only one may be given. -/
def source? (g : Given) : Option QuerySource :=
  match g.query, g.queryFile with
  | some text, none => some (.argument text)
  | none, some path => some (.file path)
  | none, none => some .input
  | some _, some _ => none

/-- What is asked for when all arguments are taken. A catalogue must have been given. -/
def finish? (g : Given) : Option Request := do
  let catalogue ← g.catalogue
  let query ← g.source?
  return .explain {
    catalogue := catalogue
    query := query
    options := ⟨¬ g.noSelectPushdown, ¬ g.noProjectPushdown⟩
    indent := g.indent.getD 2
    logFilter := g.logLevel.getD "info" }

/-- What a switch does: it ends the arguments with a request, or is taken in once. -/
def turn? (g : Given) : Switch → Option (Request ⊕ Given)
  | .version => some (.inl .version)
  | .help => some (.inl .help)
  | .noSelectPushdown =>
    if g.noSelectPushdown then none else some (.inr { g with noSelectPushdown := true })
  | .noProjectPushdown =>
    if g.noProjectPushdown then none else some (.inr { g with noProjectPushdown := true })

end Given

/-- An argument that names an option. -/
structure OptionArgument where
  /-- The option. -/
  option : OptionKind
  /-- The value that stands in the same argument. -/
  attached? : Option String

/-- The option that an argument names: behind two hyphens a long name, up to an equals sign, and
behind one hyphen a short name, whose value may follow directly or behind an equals sign. -/
def OptionArgument.parse? (argument : String) : Option OptionArgument :=
  match argument.toList with
  | '-' :: '-' :: rest =>
    let name := rest.takeWhile (· ≠ '=')
    let attached :=
      match rest.dropWhile (· ≠ '=') with
      | _ :: value => some (String.ofList value)
      | [] => none
    (OptionKind.ofLong? (String.ofList name)).map fun option => ⟨option, attached⟩
  | '-' :: c :: rest =>
    let attached :=
      match rest with
      | [] => none
      | '=' :: value => some (String.ofList value)
      | value => some (String.ofList value)
    (OptionKind.ofShort? c).map fun option => ⟨option, attached⟩
  | _ => none

/-- An argument that can be the value of an option: one without a hyphen in front, or a hyphen
alone. -/
def OptionArgument.isValue (argument : String) : Bool :=
  match argument.toList with
  | '-' :: _ :: _ => false
  | _ => true

/-- An argument with a long name. A switch that is given by a long name takes no value. -/
def OptionArgument.isLong (argument : String) : Bool :=
  match argument.toList with
  | '-' :: '-' :: _ => true
  | _ => false

/-- Take the arguments in order. -/
def Given.takeAll (g : Given) : List String → Option Request
  | [] => g.finish?
  | ["--"] => g.finish?
  | argument :: rest => do
    let o ← OptionArgument.parse? argument
    match o.option, o.attached?, rest with
    | .valued option, some value, rest => (← g.setValue? option value).takeAll rest
    | .valued option, none, value :: rest =>
      if OptionArgument.isValue value then (← g.setValue? option value).takeAll rest else none
    | .valued _, none, [] => none
    | .switch switch, attached?, rest =>
      if OptionArgument.isLong argument ∧ attached?.isSome then none
      else
        match ← g.turn? switch with
        | .inl request => return request
        | .inr g => g.takeAll rest

/-- What the arguments ask for; nothing if they are wrong. -/
def Request.ofArguments? (arguments : List String) : Option Request :=
  Given.takeAll {} arguments

end RelPlan
