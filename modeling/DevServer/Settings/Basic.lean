import DevServer.Net.Reader

/-!
The settings of the server and their defaults. Strings are kept as they were given: whether the
host is an address or the level is known is a question for `DevServer.Settings.Problem`.
-/
namespace DevServer

set_option autoImplicit false

structure Listener where
  host : String := "0.0.0.0"
  port : UInt16 := 8000
deriving Repr, DecidableEq

/-- How long a request may take, in seconds. -/
structure Timeouts where
  requestSecs : UInt64 := 30
deriving Repr, DecidableEq

namespace Timeouts

/-- The seconds that the clock cannot count to any more. -/
def clockEnd : Nat := 9223372036854775807

/-- The last millisecond that timers tell from later ones. -/
def lastMilli : Nat := 18446744073709551613

/-- What stands for a time that ends later than the clock can tell: thirty years. -/
def farMillis : Nat := 30 * 365 * 86400 * 1000

/-- The milliseconds that a request may take. Timers are taken to be exact, however far ahead they
are set. -/
def millis (t : Timeouts) : Nat :=
  if t.requestSecs.toNat < clockEnd then min (t.requestSecs.toNat * 1000) lastMilli else farMillis

/-- The time ends at a millisecond that timers know. -/
def InRange (t : Timeouts) : Prop := t.requestSecs.toNat * 1000 ≤ lastMilli

theorem millis_of_inRange {t : Timeouts} (h : t.InRange) : t.millis = t.requestSecs.toNat * 1000 := by
  unfold InRange lastMilli at h
  unfold millis clockEnd lastMilli
  rw [if_pos (by omega), Nat.min_eq_left h]

theorem millis_pos {t : Timeouts} (h : 1 ≤ t.requestSecs.toNat) : 0 < t.millis := by
  unfold millis lastMilli
  split
  · omega
  · decide

end Timeouts

/-- How many bytes the body of a request may have. -/
structure Security where
  maxBodySize : UInt64 := 2097152
deriving Repr, DecidableEq

/-- The form of log lines. -/
inductive LogFormat where
  | pretty
  | json
deriving Repr, DecidableEq

def LogFormat.name : LogFormat → String
  | .pretty => "pretty"
  | .json => "json"

def LogFormat.ofName? (s : String) : Option LogFormat :=
  if s = "pretty" then some .pretty else if s = "json" then some .json else none

/-- What the server tells about itself. -/
structure Observability where
  logLevel : String := "info"
  logFormat : LogFormat := .pretty
  metricsEnabled : Bool := false
  metricsAddress : String := "0.0.0.0:9090"
deriving Repr, DecidableEq

structure Settings where
  adapter : Option String := none
  strictAdapter : Bool := false
  listener : Listener := {}
  timeouts : Timeouts := {}
  security : Security := {}
  observability : Observability := {}
deriving Repr, DecidableEq

/-- The address to listen on, if the host is one. -/
def Listener.socketAddress? (l : Listener) : Option Net.SocketAddress :=
  (Net.IpAddress.ofString? l.host).map fun ip => { ip, port := l.port }

/-- Host and port as they were given. -/
def Listener.display (l : Listener) : String := s!"{l.host}:{l.port.toNat}"

theorem LogFormat.ofName?_name (f : LogFormat) : LogFormat.ofName? f.name = some f := by
  cases f <;> decide

end DevServer
