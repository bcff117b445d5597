import RelPlan.CommandLine.Answer

/-!
# The program

Reads the files that the arguments name, and prints the answer. Events go to standard error.
-/

namespace RelPlan

/-- The bytes of a file, if it can be read. -/
def readFile? (path : String) : IO (Option ByteArray) := do
  try
    return some (← IO.FS.readBinFile path)
  catch _ =>
    return none

/-- The bytes that hold the query. -/
def readQuery (source : QuerySource) : IO (Option ByteArray) := do
  match source with
  | .argument text => return some text.toUTF8
  | .file path => readFile? path
  | .input => return some (← (← IO.getStdin).readBinToEnd)

/-- Print the events that the filter lets through. -/
def printEvents (f : LogFilter) (events : List Event) : IO Unit := do
  match f.general with
  | none => return ()
  | some level =>
    for e in eventsAt level events do
      IO.eprintln e.line

/-- Print what a computation reports and, if it fails, why; then go on with its value. -/
def proceed {α : Type} (f : LogFilter) (x : Logged α) (next : α → IO UInt32) : IO UInt32 := do
  printEvents f x.events
  match x.result with
  | .ok a => next a
  | .error e => do
    IO.eprintln e.message
    return 1

end RelPlan

open RelPlan

/-- Run the program. -/
def main (arguments : List String) : IO UInt32 := do
  match Request.ofArguments? arguments with
  | none => do
    IO.eprint helpText
    return 2
  | some .version => do
    IO.print versionLine
    return 0
  | some .help => do
    IO.print helpText
    return 0
  | some (.explain s) =>
    match LogFilter.parse s.logFilter with
    | none => do
      IO.eprintln "the log level cannot be read"
      return 1
    | some f =>
      let bytes ← readFile? s.catalogue
      proceed f (Catalogue.ofFile bytes) fun c => do
        let query ← readQuery s.query
        proceed f (s.explain c query) fun output => do
          IO.print output
          return 0
