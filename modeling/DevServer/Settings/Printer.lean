import DevServer.Settings.Basic
import DevServer.Toml.Writer

/-!
Settings as a document: the adapter, if there is one, and its policy first, then the sections with
one entry per line. Reading the document gives the settings back, as long as its integers have no
more than sixty-three bits.
-/
namespace DevServer

set_option autoImplicit false

namespace Settings

/-- An entry on a line of its own. -/
def entryLine (key : String) (value : List Char) : List Char :=
  key.toList ++ " = ".toList ++ value ++ ['\n']

/-- The header of a section. -/
def headerLine (name : String) : List Char := '[' :: name.toList ++ [']', '\n']

def textValue (s : String) : List Char := Toml.writeBasic s.toList

def numberValue (n : Nat) : List Char := Nat.toDigits 10 n

def truthValue (b : Bool) : List Char := if b then "true".toList else "false".toList

/-- The entries that stand before the sections. -/
def adapterLines (s : Settings) : List Char :=
  (s.adapter.elim [] fun a => entryLine "adapter" (textValue a)) ++
    entryLine "strict_adapter" (truthValue s.strictAdapter)

def listenerLines (l : Listener) : List Char :=
  headerLine "listener" ++ entryLine "host" (textValue l.host) ++
    entryLine "port" (numberValue l.port.toNat)

def timeoutLines (t : Timeouts) : List Char :=
  headerLine "timeouts" ++ entryLine "request_secs" (numberValue t.requestSecs.toNat)

def securityLines (s : Security) : List Char :=
  headerLine "security" ++ entryLine "max_body_size" (numberValue s.maxBodySize.toNat)

def observabilityLines (o : Observability) : List Char :=
  headerLine "observability" ++ entryLine "log_level" (textValue o.logLevel) ++
    entryLine "log_format" (textValue o.logFormat.name) ++
    entryLine "metrics_enabled" (truthValue o.metricsEnabled) ++
    entryLine "metrics_address" (textValue o.metricsAddress)

def toDocument (s : Settings) : String :=
  String.ofList (s.adapterLines ++ listenerLines s.listener ++ timeoutLines s.timeouts ++
    securityLines s.security ++ observabilityLines s.observability)

end Settings
end DevServer
