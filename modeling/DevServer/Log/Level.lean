import DevServer.Text.Blank

/-!
Levels of log events, from the most to the least urgent.
-/
namespace DevServer.Log

set_option autoImplicit false

inductive Level where
  | error
  | warn
  | info
  | debug
  | trace
deriving Repr, DecidableEq

/-- Zero is the most urgent. -/
def Level.rank : Level → Nat
  | .error => 1
  | .warn => 2
  | .info => 3
  | .debug => 4
  | .trace => 5

def Level.name : Level → String
  | .error => "ERROR"
  | .warn => "WARN"
  | .info => "INFO"
  | .debug => "DEBUG"
  | .trace => "TRACE"

/-- The five levels with their names in lower case. -/
def Level.words : List (String × Level) :=
  [("trace", .trace), ("debug", .debug), ("info", .info), ("warn", .warn), ("error", .error)]

/-- The level that a word names in any case of ASCII. -/
def Level.ofWord? (s : String) : Option Level :=
  Level.words.lookup (String.ofList (Text.Blank.foldCase s.toList))

end DevServer.Log
