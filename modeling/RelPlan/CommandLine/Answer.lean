import RelPlan.Catalogue.Text
import RelPlan.CommandLine.Arguments
import RelPlan.CommandLine.LogFilter
import RelPlan.Explain

/-!
# Answering a command line

What the program prints and how it ends, given what is in the files it is pointed to and what is
on standard input.
-/

namespace RelPlan

/-- How a run ends. -/
structure Outcome where
  /-- The exit code: `0` for success, `1` for a failure, `2` for wrong arguments. -/
  exit : Nat
  /-- What is printed. -/
  output : String
  deriving DecidableEq

namespace Outcome

/-- A run that succeeds. -/
def success (output : String) : Outcome := ⟨0, output⟩

/-- A run that fails. -/
def failure : Outcome := ⟨1, ""⟩

/-- A run with wrong arguments. -/
def misuse : Outcome := ⟨2, ""⟩

end Outcome

/-- The name and version of the program. -/
def versionLine : String := "starling-cli 0.1.0\n"

/-- A summary of the arguments. -/
def helpText : String :=
  "Estimate and optimise relational algebra queries\n\n"
    ++ "  -c, --catalogue FILE     JSON catalogue of relation statistics\n"
    ++ "  -q, --query QUERY        query text\n"
    ++ "      --query-file FILE    read the query from a file\n"
    ++ "      --no-select-pushdown keep selections above the joins\n"
    ++ "      --no-project-pushdown do not narrow join inputs with projections\n"
    ++ "      --indent N           spaces per level of the plans (2 if not given)\n"
    ++ "      --log-level LEVEL    what is logged (info if not given)\n"
    ++ "  -h, --help               show this summary\n"
    ++ "  -V, --version            show the version\n"

namespace Settings

/-- The bytes that hold the query, given the contents of files and of standard input. -/
def queryBytes (s : Settings) (contents : String → Option ByteArray) (input : ByteArray) :
    Option ByteArray :=
  match s.query with
  | .argument text => some text.toUTF8
  | .file path => contents path
  | .input => some input

/-- Explain the query in the given bytes, and write the explanation. -/
def explain (s : Settings) (c : Catalogue) (query : Option ByteArray) : Logged String := do
  let text ← Logged.ofExcept (Catalogue.fileText query)
  let e ← Query.explain c s.options text
  return e.render s.indent

/-- The whole run: load the catalogue, read the query, explain it. -/
def answer (s : Settings) (contents : String → Option ByteArray) (input : ByteArray) :
    Logged String := do
  let c ← Catalogue.ofFile (contents s.catalogue)
  s.explain c (s.queryBytes contents input)

end Settings

/-- The outcome of a computation that prints its value. -/
def Logged.outcome (x : Logged String) : Outcome :=
  match x.result with
  | .ok output => .success output
  | .error _ => .failure

/-- The outcome of a run with the given arguments, file contents and standard input. -/
def outcomeOf (arguments : List String) (contents : String → Option ByteArray)
    (input : ByteArray) : Outcome :=
  match Request.ofArguments? arguments with
  | none => .misuse
  | some .version => .success versionLine
  | some .help => .success helpText
  | some (.explain s) =>
    match LogFilter.parse s.logFilter with
    | none => .failure
    | some _ => (s.answer contents input).outcome

end RelPlan
