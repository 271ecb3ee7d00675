import DevServer.Settings.Resolve
import DevServer.Startup
import DevServer.Text.Quoted

/-!
How the command line tells why it has stopped: the fault with everything that it carries, all on
one line, texts quoted.
-/
namespace DevServer

set_option autoImplicit false

open Text.Quoted (quote quoteList quotePath)

namespace Report

/-- The name of a kind of fault and what it carries. -/
def named (name : String) (content : String) : String := name ++ "(" ++ content ++ ")"

/-- The name of a kind of fault and its fields. -/
def withFields (name : String) (fields : List (String × String)) : String :=
  name ++ " \x7b " ++ ", ".intercalate (fields.map fun f => f.1 ++ ": " ++ f.2) ++ " \x7d"

/-- A fault that the system reports. -/
def systemFault (code : Nat) (kind message : String) : String :=
  withFields "Os" [("code", toString code), ("kind", kind), ("message", quote message)]

/-- A fault that is found without the system. -/
def ownFault (kind message : String) : String :=
  withFields "Error" [("kind", kind), ("message", quote message)]

end Report

open Report

def Storage.Fault.report : Storage.Fault → String
  | .notFound => systemFault 2 "NotFound" "No such file or directory"
  | .isFolder => systemFault 21 "IsADirectory" "Is a directory"
  | .notFolder => systemFault 20 "NotADirectory" "Not a directory"
  | .nameTooLong => systemFault 36 "InvalidFilename" "File name too long"
  | .notText => ownFault "InvalidData" "stream did not contain valid UTF-8"
  | .nulInName => ownFault "InvalidInput" "file name contained an unexpected NUL byte"

def Net.BindFault.detail (f : Net.BindFault) : String :=
  let kind := match f with
    | .inUse => "AddrInUse"
    | .notLocal => "AddrNotAvailable"
  systemFault f.code kind f.message

def Problem.report : Problem → String
  | .invalidHost host => named "InvalidHost" (quote host)
  | .zeroPort => "ZeroPort"
  | .zeroRequestTimeout => "ZeroRequestTimeout"
  | .zeroBodyLimit => "ZeroBodyLimit"
  | .invalidLogLevel level => named "InvalidLogLevel" (quote level)
  | .invalidMetricsAddress address => named "InvalidMetricsAddress" (quote address)

def DocumentFault.report (f : DocumentFault) : String :=
  let span := match f.span with
    | none => "None"
    | some span =>
      let bytes := span.toBytes f.text
      s!"Some({bytes.start}..{bytes.stop})"
  withFields "TomlError" [("message", quote f.message),
    ("raw", named "Some" (quote (String.ofList f.text))), ("keys", quoteList f.keys), ("span", span)]

def SettingsFault.report : SettingsFault → String
  | .unreadable path fault => withFields "Io" [("path", quotePath path), ("source", fault.report)]
  | .undecodable fault => named "Parse" fault.report
  | .badVariable bad =>
    withFields "InvalidEnv" [("key", quote bad.variableName.name), ("value", quote bad.value)]
  | .invalid problems =>
    named "Validation" ("[" ++ ", ".intercalate (problems.map Problem.report) ++ "]")

def AppFault.report : AppFault → String
  | .unknownAdapter unknown => named "UnknownAdapter" (quote unknown.name)
  | .duplicateBlueprint name => named "DuplicateBlueprint" (quote name)
  | .pathTaken blueprint path =>
    withFields "RouteConflict" [("blueprint", quote blueprint), ("path", quote path)]
  | .refused fault => fault.message

def StartupFault.report : StartupFault → String
  | .app fault => named "App" fault.report
  | .metricsAddress given => named "MetricsAddress" (quote given)
  | .metrics fault => named "Metrics" (named "FailedToCreateHTTPListener" (quote fault.report))
  | .listenAddress given =>
    named "Server" (withFields "InvalidAddress"
      [("address", quote given), ("source", "AddrParseError(Ip)")])
  | .bind address fault =>
    named "Server" (withFields "Bind" [("address", address.render), ("source", fault.detail)])

end DevServer
