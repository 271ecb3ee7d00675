import DevServer.CommandLine.Arguments
import DevServer.CommandLine.Report
import DevServer.Log.Filter
import DevServer.Log.Line
import DevServer.Signals

/-!
The command line as a function of its arguments and its surroundings. Arguments that are not
accepted end it with 2 before anything else is looked at, a fault of the settings or of the start
ends it with 1, and it ends with 0 when a server has been told to stop.
-/
namespace DevServer.CommandLine

set_option autoImplicit false

open Log (Event)

/-- What a program finds around it. -/
structure Surroundings where
  /-- The variables of the environment; their values are bytes. -/
  valueOf : String → Option (List UInt8)
  files : Storage.Reader
  ports : Net.Ports
  /-- Whether the program is told to stop once it serves. -/
  interrupted : Bool

/-- What a program has put out, and its exit code unless it goes on. -/
structure Result where
  exit : Option Nat
  stdout : List String := []
  stderr : List String := []
deriving Repr, DecidableEq

def linesOf (s : String) : List String := (List.splitOnP (· = '\n') s.toList).map String.ofList

/-- The value of a variable, if it is text. A value that is none counts as no value. -/
def textVariable? (w : Surroundings) (name : String) : Option String :=
  (w.valueOf name).bind fun bytes => (Text.Utf8.decode bytes).toOption

/-- The environment that the settings depend on. -/
def environment (w : Surroundings) : Environment := fun v => textVariable? w v.name

def directivesVariable : String := "RUST_LOG"

def started (o : Options) (s : Settings) : Event where
  level := .info
  target := "reporting_webserver"
  message := "reporting-webserver starting"
  fields :=
    [ ("version", .text Health.version),
      ("config_file", .shown (match o.config with
        | none => "None"
        | some path => "Some(" ++ Text.Quoted.quotePath path ++ ")")),
      ("adapter", .shown (Text.Quoted.quoteOption s.adapter)),
      ("strict_adapter", .truth s.strictAdapter),
      ("host", .shown s.listener.host),
      ("port", .natural s.listener.port.toNat),
      ("request_timeout_secs", .natural s.timeouts.requestSecs.toNat) ]

/-- The lines of what has been put out: lines as they are, and the events that the filter lets
through, in the form of the settings. -/
def write (filter : Log.Filter) (format : LogFormat) (time : String) : Output → List String
  | .line s => linesOf s
  | .event e => if filter.enables e then linesOf (e.render format time) else []

def errorLines (report : String) : List String := linesOf ("Error: " ++ report)

/-- Runs the server with options and settings. -/
def runServer (w : Surroundings) (time : String) (o : Options) (s : Settings) : Result :=
  let run := (Signals.run s w.ports w.interrupted).run
  let filter := Log.filterFor s.observability.logLevel (textVariable? w directivesVariable)
  let stdout := (.event (started o s) :: run.output).flatMap
    (write filter s.observability.logFormat time)
  match run.task.ending with
  | .finished => { exit := some 0, stdout }
  | .serving => { exit := none, stdout }
  | .failed fault => { exit := some 1, stdout, stderr := errorLines fault.report }

/-- Runs the command line. Every event is written with the same time. -/
def run (w : Surroundings) (time : String) (args : List Argument) : Result :=
  match Options.ofArguments args with
  | .error .help => { exit := some 0, stdout := helpText }
  | .error (.fault fault) => { exit := some 2, stderr := linesOf ("error: " ++ fault.message) }
  | .ok o =>
    match Settings.resolve w.files o.config (environment w) o.overrides with
    | .error fault => { exit := some 1, stderr := errorLines fault.report }
    | .ok s => runServer w time o s

end DevServer.CommandLine
