import DevServer.Number.Decimal
import DevServer.Settings.Layers
import DevServer.Text.Utf8

/-!
The arguments of the command line. An option takes its value from the same argument or from the
next one; its value is looked at when the next option begins or the arguments end. Each option may
be given once. The first fault in this order is the one that is reported, and a fault of a value
that is still waiting is forgotten when an argument is not understood at all.
-/
namespace DevServer.CommandLine

set_option autoImplicit false

/-- An argument as it is given. -/
abbrev Argument := List UInt8

/-- The options. -/
inductive Flag where
  | config
  | host
  | port
  | adapter
  | strictAdapter
  | help
deriving Repr, DecidableEq

namespace Flag

def all : List Flag := [.config, .host, .port, .adapter, .strictAdapter, .help]

/-- The name behind two dashes. -/
def long : Flag → String
  | .config => "config"
  | .host => "host"
  | .port => "port"
  | .adapter => "adapter"
  | .strictAdapter => "strict-adapter"
  | .help => "help"

/-- The letter behind one dash. -/
def short? : Flag → Option Char
  | .config => some 'c'
  | .host => none
  | .port => some 'p'
  | .adapter => some 'a'
  | .strictAdapter => none
  | .help => some 'h'

def value? : Flag → Option String
  | .config => some "CONFIG"
  | .host => some "HOST"
  | .port => some "PORT"
  | .adapter => some "ADAPTER"
  | .strictAdapter => none
  | .help => none

def takesValue (f : Flag) : Bool := f.value?.isSome

def shown (f : Flag) : String :=
  "--" ++ f.long ++ f.value?.elim "" fun v => " <" ++ v ++ ">"

def ofLong? (s : String) : Option Flag := all.find? (·.long = s)

def ofShort? (c : Char) : Option Flag := all.find? (·.short? = some c)

end Flag

/-- Why arguments are not accepted. -/
inductive UsageFault where
  | unexpected (shown : String)
  | noValue (flag : Flag)
  | badValue (flag : Flag) (value reason : String)
  /-- A value was given to an option that has none. -/
  | extraValue (flag : Flag) (value : String)
  | repeated (flag : Flag)
  | notText
deriving Repr, DecidableEq

def UsageFault.message : UsageFault → String
  | .unexpected shown => s!"unexpected argument '{shown}' found"
  | .noValue flag => s!"a value is required for '{flag.shown}' but none was supplied"
  | .badValue flag value reason => s!"invalid value '{value}' for '{flag.shown}': {reason}"
  | .extraValue flag value =>
    s!"unexpected value '{value}' for '{flag.shown}' found; no more were expected"
  | .repeated flag => s!"the argument '{flag.shown}' cannot be used multiple times"
  | .notText => "invalid UTF-8 was detected in one or more arguments"

/-- What stops the reading of arguments. -/
inductive Stop where
  | fault (fault : UsageFault)
  | help
deriving Repr, DecidableEq

structure Options where
  config : Option (List UInt8) := none
  host : Option String := none
  port : Option UInt16 := none
  adapter : Option String := none
  strictAdapter : Bool := false
deriving Repr, DecidableEq

namespace Options

def given (o : Options) : Flag → Bool
  | .config => o.config.isSome
  | .host => o.host.isSome
  | .port => o.port.isSome
  | .adapter => o.adapter.isSome
  | .strictAdapter => o.strictAdapter
  | .help => false

/-- The settings that the options override. -/
def overrides (o : Options) : Overrides :=
  { host := o.host, port := o.port, adapter := o.adapter, strictAdapter := o.strictAdapter }

end Options

def textOf (value : Argument) : Except UsageFault String :=
  match Text.Utf8.decode value with
  | .ok s => .ok s
  | .error _ => .error .notText

/-- The port that a value gives. Numbers of eight bytes are read, and then the range is looked at. -/
def portOf (value : Argument) : Except UsageFault UInt16 := do
  let s ← textOf value
  match Number.Decimal.readInt Number.Decimal.maxInt64 s.toList with
  | .error fault => .error (.badValue .port s fault.message)
  | .ok n =>
    if 0 ≤ n && n ≤ Number.Decimal.maxUInt16 then .ok (UInt16.ofNat n.toNat)
    else .error (.badValue .port s s!"{n} is not in 0..={Number.Decimal.maxUInt16}")

/-- Puts a value where its option wants it. -/
def store (o : Options) (value : Argument) : Flag → Except UsageFault Options
  | .config => if value = [] then .error (.noValue .config) else .ok { o with config := some value }
  | .host => (textOf value).map fun s => { o with host := some s }
  | .port => (portOf value).map fun n => { o with port := some n }
  | .adapter => (textOf value).map fun s => { o with adapter := some s }
  | .strictAdapter => .ok { o with strictAdapter := true }
  | .help => .ok o

/-- Gives an option its value, if it has not been given before. -/
def assign (o : Options) (flag : Flag) (value : Argument) : Except UsageFault Options :=
  if o.given flag then .error (.repeated flag) else store o value flag

/-- Arguments of which some have been read. -/
structure State where
  options : Options := {}
  /-- An option whose value has not been looked at, with that value if it has come. -/
  pending : Option (Flag × Option Argument) := none
deriving Repr, DecidableEq

namespace State

/-- Looks at the value that is waiting. -/
def settle (s : State) : Except UsageFault Options :=
  match s.pending with
  | none => .ok s.options
  | some (flag, none) => .error (.noValue flag)
  | some (flag, some value) => assign s.options flag value

/-- Takes an option with a value in the same argument. -/
def attach (s : State) (flag : Flag) (value : Argument) : Except Stop State :=
  match s.settle.bind fun o => assign o flag value with
  | .ok options => .ok { options }
  | .error fault => .error (.fault fault)

/-- Takes an option whose value comes next. -/
def await (s : State) (flag : Flag) : Except Stop State :=
  match s.settle with
  | .ok options => .ok { options, pending := some (flag, none) }
  | .error fault => .error (.fault fault)

/-- Takes an option that has no value. -/
def switch (s : State) (flag : Flag) : Except Stop State :=
  match s.settle with
  | .error fault => .error (.fault fault)
  | .ok o =>
    if flag = .help then .error .help
    else match assign o flag [] with
      | .ok options => .ok { options }
      | .error fault => .error (.fault fault)

end State

def unexpected {α : Type} (shown : String) : Except Stop α := .error (.fault (.unexpected shown))

def equalsSign : UInt8 := 0x3D

/-- What stands before the first equals sign, and what stands behind it if there is one. -/
def splitAtEquals (bytes : Argument) : Argument × Option Argument :=
  let name := bytes.takeWhile (· ≠ equalsSign)
  match bytes.drop name.length with
  | [] => (name, none)
  | _ :: value => (name, some value)

/-- Reads what stands behind two dashes. -/
def readLong (s : State) (bytes : Argument) : Except Stop State :=
  let (name, value) := splitAtEquals bytes
  let shown := Text.Utf8.decodeLossy name
  let known := match Text.Utf8.decode name with
    | .ok name => Flag.ofLong? name
    | .error _ => none
  match known, value with
  | none, _ => unexpected ("--" ++ shown)
  | some flag, none => if flag.takesValue then s.await flag else s.switch flag
  | some flag, some value =>
    if flag.takesValue then s.attach flag value
    else .error (.fault (.extraValue flag (Text.Utf8.decodeLossy value)))

/-- Reads letters behind one dash. -/
def readShort (s : State) : List Text.Utf8.Piece → Except Stop State
  | [] => .ok s
  | .bytes bs :: rest =>
    unexpected ("-" ++ Text.Utf8.decodeLossy (bs ++ rest.flatMap Text.Utf8.Piece.toBytes))
  | .char c :: rest =>
    match Flag.ofShort? c with
    | none => unexpected ("-" ++ String.singleton c)
    | some flag =>
      if flag.takesValue then
        -- All that is left is the value, with or without an equals sign before it.
        match rest.flatMap Text.Utf8.Piece.toBytes with
        | [] => s.await flag
        | b :: value => s.attach flag (if b = equalsSign then value else b :: value)
      else match s.switch flag with
        | .ok s => readShort s rest
        | .error stop => .error stop

/-- Reads an argument that is the value of a waiting option, or nothing that is known. -/
def readValue (s : State) (arg : Argument) : Except Stop State :=
  match s.pending with
  | some (flag, none) => .ok { s with pending := some (flag, some arg) }
  | _ => unexpected (Text.Utf8.decodeLossy arg)

/-- Reads arguments one after the other. Behind two dashes alone nothing is understood. -/
def readAll : State → List Argument → Except Stop State
  | s, [] => .ok s
  | s, arg :: rest =>
    match arg with
    | 0x2D :: 0x2D :: bytes =>
      if bytes = [] then
        match rest with
        | [] => .ok s
        | next :: _ => unexpected (Text.Utf8.decodeLossy next)
      else (readLong s bytes).bind fun s => readAll s rest
    | 0x2D :: bytes =>
      if bytes = [] then (readValue s arg).bind fun s => readAll s rest
      else (readShort s (Text.Utf8.pieces bytes)).bind fun s => readAll s rest
    | _ => (readValue s arg).bind fun s => readAll s rest

def Options.ofArguments (args : List Argument) : Except Stop Options :=
  match readAll {} args with
  | .error stop => .error stop
  | .ok s =>
    match s.settle with
    | .ok options => .ok options
    | .error fault => .error (.fault fault)

def helpText : List String :=
  [ "Development server for the reporting webserver",
    "",
    "Usage: reporting-webserver [OPTIONS]",
    "",
    "Options:",
    "  -c, --config <CONFIG>    Optional TOML configuration file",
    "      --host <HOST>        Interface to bind (overrides WEBSERVER_HOST)",
    "  -p, --port <PORT>        Port to bind (overrides WEBSERVER_PORT)",
    "  -a, --adapter <ADAPTER>  Backend adapter (overrides ADAPTER)",
    "      --strict-adapter     Reject unrecognized adapters instead of skipping reporting",
    "  -h, --help               Print help" ]

end DevServer.CommandLine
