import DevServer.CommandLine.Run

/-!
The program. It reads what surrounds it, runs the command line and puts out what that gives. It has
no sockets of its own: where it would serve it waits for the end of its standard input, which
tells it to stop. Times in the log are seconds since the start.
-/
namespace DevServer.CommandLine

set_option autoImplicit false

/-- The variables that the program looks at. -/
def variableNames : List String := directivesVariable :: Variable.all.map Variable.name

/-- The values of the variables that are set. -/
def readVariables : IO (List (String × List UInt8)) :=
  variableNames.filterMapM fun name => do
    return (← IO.getEnv name).map fun value => (name, Text.Utf8.encode value)

def faultOf : IO.Error → Storage.Fault
  | .inappropriateType _ 20 _ => .notFolder
  | .inappropriateType _ _ _ => .isFolder
  | .invalidArgument _ 36 _ => .nameTooLong
  | _ => .notFound

def readFile (path : List UInt8) : IO (Except Storage.Fault (List UInt8)) := do
  if path.contains 0 then return .error .nulInName
  try return .ok (← IO.FS.readBinFile (Text.Utf8.decodeLossy path)).toList
  catch e => return .error (faultOf e)

/-- The file that the arguments ask for, if they can be understood. -/
def readConfig (args : List Argument) : IO Storage.Reader := do
  match Options.ofArguments args with
  | .ok { config := some path, .. } =>
    let content ← readFile path
    return fun _ => content
  | _ => return fun _ => .error .notFound

/-- Waits for the end of the standard input. -/
partial def waitForEnd (input : IO.FS.Stream) : IO Unit := do
  let line ← input.getLine
  unless line.isEmpty do waitForEnd input

/-- Seconds and milliseconds between two times in milliseconds. -/
def elapsed (start now : Nat) : String :=
  let millis := toString ((now - start) % 1000)
  toString ((now - start) / 1000) ++ "." ++
    String.ofList (List.replicate (3 - millis.length) '0') ++ millis ++ "s"

/-- Runs the program and gives its exit code. -/
def program (args : List String) : IO UInt32 := do
  let start ← IO.monoMsNow
  let args := args.map Text.Utf8.encode
  let values ← readVariables
  let files ← readConfig args
  let around (interrupted : Bool) : Surroundings :=
    { valueOf := fun name => values.lookup name, files, ports := { assigned := 49152 }, interrupted }
  let result := run (around false) (elapsed start (← IO.monoMsNow)) args
  result.stdout.forM IO.println
  result.stderr.forM IO.eprintln
  match result.exit with
  | some code => return UInt32.ofNat code
  | none =>
    waitForEnd (← IO.getStdin)
    let ended := run (around true) (elapsed start (← IO.monoMsNow)) args
    (ended.stdout.drop result.stdout.length).forM IO.println
    return UInt32.ofNat (ended.exit.getD 0)

end DevServer.CommandLine

def main (args : List String) : IO UInt32 := DevServer.CommandLine.program args
