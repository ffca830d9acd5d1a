import Std.Time.DateTime.Timestamp
import Workflow.CommandLine.Session

/-!
# The command line

Reads the files that a command needs, carries it out, and prints what it comes to.
-/

namespace Workflow.CommandLine

/-- The text of a file, if there is such a file. -/
def readFile? (path : String) : IO (Option String) := do
  try
    return some (← IO.FS.readFile path)
  catch _ =>
    return none

/-- The files that a command reads. -/
def filesOf (invocation : Invocation) : List String :=
  match invocation.command with
  | .validate graph => [graph]
  | .run graph _ _ => [invocation.config, graph]
  | .serve | .config => [invocation.config]
  | .completions _ => []

/-- The values of some variables. -/
def lookUp (names : List String) : IO Environment :=
  names.foldlM (fun environment name => do
    match ← IO.getEnv name with
    | some value => return Assoc.insert environment name value
    | none => return environment) []

/-- The id of sixteen bytes: their hexadecimal digits in five groups, with the marks of a random
id. -/
def idOf (bytes : List UInt8) : RunId :=
  String.ofList (bytes.zipIdx.flatMap fun (byte, position) =>
    let value := if position = 6 then byte.toNat % 16 + 64
      else if position = 8 then byte.toNat % 64 + 128 else byte.toNat
    let digits := [Json.hexDigit (value / 16), Json.hexDigit (value % 16)]
    if [4, 6, 8, 10].contains position then '-' :: digits else digits)

/-- A fresh id of a run. -/
def freshId : IO RunId := do
  return idOf (← IO.getRandomBytes 16).toList

/-- The time. -/
def readClock : IO Instant := do
  let nanos := (← Std.Time.Timestamp.now).toNanosecondsSinceUnixEpoch.val
  return ⟨nanos / 1000000000, (nanos % 1000000000).toNat⟩

/-- Print what a command came to. -/
def print (report : Report) : IO UInt32 := do
  for line in report.lines do
    IO.println line
  match report.failure with
  | some failure => IO.eprintln s!"Error: {failure}"
  | none => if report.code = 2 then IO.eprintln (helpText "")
  return UInt32.ofNat report.code

/-- Carry out a command line. -/
def runCommand (arguments : List String) : IO UInt32 := do
  let settings ← lookUp ["STEPWISE_CONFIG", "HOME"]
  match parse settings arguments with
  | .misuse => print .misuse
  | .text text => print (.done [text])
  | .invocation invocation =>
    let paths := filesOf invocation
    let files ← paths.mapM fun path => return (path, ← readFile? path)
    let names := files.flatMap fun file => (file.2.map Environment.references).getD []
    let found ← lookUp names
    let surroundings : Surroundings :=
      { environment := settings.foldl (fun map entry => Assoc.insert map entry.1 entry.2) found
        file := fun path => (Assoc.get? files path).bind id
        server := fun _ => none
        calendar := ← readClock
        fresh := ← freshId }
    print (perform surroundings invocation)

end Workflow.CommandLine

def main (arguments : List String) : IO UInt32 :=
  Workflow.CommandLine.runCommand arguments
