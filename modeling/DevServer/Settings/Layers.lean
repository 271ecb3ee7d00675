import DevServer.Number.Decimal
import DevServer.Settings.Basic
import DevServer.Text.Blank

/-!
Layers above the file: variables of the environment and the options of the command line. Each
writes the fields that it gives and leaves the others. The variables are read one after the other;
a bad one stops the reading, and what those before it wrote stays.
-/
namespace DevServer

set_option autoImplicit false

/-- The variables that the settings depend on, in the order in which they are read. -/
inductive Variable where
  | adapter
  | strictAdapter
  | host
  | port
deriving Repr, DecidableEq

namespace Variable

def name : Variable → String
  | .adapter => "ADAPTER"
  | .strictAdapter => "ADAPTER_STRICT"
  | .host => "WEBSERVER_HOST"
  | .port => "WEBSERVER_PORT"

def all : List Variable := [.adapter, .strictAdapter, .host, .port]

end Variable

/-- The values of the variables that are set. -/
abbrev Environment := Variable → Option String

structure BadVariable where
  variableName : Variable
  value : String
deriving Repr, DecidableEq

def BadVariable.message (b : BadVariable) : String :=
  s!"Invalid value `{b.value}` for environment variable {b.variableName.name}"

/-- The words for a flag, in lower case. -/
def flagWords : List (String × Bool) :=
  [("1", true), ("true", true), ("yes", true), ("on", true),
    ("0", false), ("false", false), ("no", false), ("off", false), ("", false)]

/-- A flag, with blanks around it and in any case of ASCII. -/
def flag? (raw : String) : Option Bool :=
  flagWords.lookup (String.ofList (Text.Blank.foldCase (Text.Blank.trim raw.toList)))

/-- No text stands for no value. -/
def nonEmpty (s : String) : Option String := if s = "" then none else some s

namespace Settings

/-- What a variable with the given value makes of settings. -/
def set (raw : String) (s : Settings) : Variable → Except BadVariable Settings
  | .adapter => .ok { s with adapter := nonEmpty raw }
  | .strictAdapter =>
    match flag? raw with
    | some strictAdapter => .ok { s with strictAdapter }
    | none => .error ⟨.strictAdapter, raw⟩
  | .host => .ok { s with listener := { s.listener with host := raw } }
  | .port =>
    match Number.Decimal.readUInt16? raw with
    | some port => .ok { s with listener := { s.listener with port } }
    | none => .error ⟨.port, raw⟩

/-- What the given variables make of settings, and the one that stopped them. -/
def applyVariables (env : Environment) : List Variable → Settings → Settings × Option BadVariable
  | [], s => (s, none)
  | v :: rest, s =>
    match env v with
    | none => applyVariables env rest s
    | some raw =>
      match s.set raw v with
      | .ok s => applyVariables env rest s
      | .error bad => (s, some bad)

/-- What the environment makes of settings. -/
def applyEnvironment (env : Environment) (s : Settings) : Settings × Option BadVariable :=
  s.applyVariables env Variable.all

end Settings

/-- Settings that the command line gives. -/
structure Overrides where
  host : Option String := none
  port : Option UInt16 := none
  adapter : Option String := none
  /-- Demands a known adapter; there is no way to demand the contrary. -/
  strictAdapter : Bool := false
deriving Repr, DecidableEq

/-- What the command line makes of settings. -/
def Settings.applyOverrides (o : Overrides) (s : Settings) : Settings :=
  { s with
    adapter := match o.adapter with
      | some a => nonEmpty a
      | none => s.adapter
    strictAdapter := s.strictAdapter || o.strictAdapter
    listener :=
      { host := o.host.getD s.listener.host, port := o.port.getD s.listener.port } }

end DevServer
