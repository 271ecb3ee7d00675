import DevServer.Log.Level
import DevServer.Settings.Basic

/-!
What can be wrong with settings. `Settings.problems` lists every problem once, in the order of
the settings; each is there exactly if its own condition holds, whatever the others are.
-/
namespace DevServer

set_option autoImplicit false

/-- A value that the server cannot work with. Texts are carried as they were given. -/
inductive Problem where
  | invalidHost (host : String)
  | zeroPort
  | zeroRequestTimeout
  | zeroBodyLimit
  | invalidLogLevel (level : String)
  | invalidMetricsAddress (address : String)
deriving Repr, DecidableEq

def Problem.message : Problem → String
  | .invalidHost host => s!"listener.host `{host}` is not an IP address"
  | .zeroPort => "listener.port must be non-zero"
  | .zeroRequestTimeout => "timeouts.request_secs must be greater than zero"
  | .zeroBodyLimit => "security.max_body_size must be greater than zero"
  | .invalidLogLevel level =>
    s!"observability.log_level `{level}` is not one of trace, debug, info, warn, error"
  | .invalidMetricsAddress address =>
    s!"observability.metrics_address `{address}` is not a socket address"

namespace Settings

def hostProblem? (s : Settings) : Option Problem :=
  if s.listener.socketAddress?.isNone then some (.invalidHost s.listener.host) else none

def portProblem? (s : Settings) : Option Problem :=
  if s.listener.port = 0 then some .zeroPort else none

def timeoutProblem? (s : Settings) : Option Problem :=
  if s.timeouts.requestSecs = 0 then some .zeroRequestTimeout else none

def bodyLimitProblem? (s : Settings) : Option Problem :=
  if s.security.maxBodySize = 0 then some .zeroBodyLimit else none

def logLevelProblem? (s : Settings) : Option Problem :=
  if (Log.Level.ofWord? s.observability.logLevel).isNone then
    some (.invalidLogLevel s.observability.logLevel)
  else none

/-- The address counts only if metrics are wanted. -/
def metricsProblem? (s : Settings) : Option Problem :=
  if s.observability.metricsEnabled &&
      (Net.SocketAddress.ofString? s.observability.metricsAddress).isNone then
    some (.invalidMetricsAddress s.observability.metricsAddress)
  else none

/-- All problems, in the order of the settings. -/
def problems (s : Settings) : List Problem :=
  s.hostProblem?.toList ++ s.portProblem?.toList ++ s.timeoutProblem?.toList ++
    s.bodyLimitProblem?.toList ++ s.logLevelProblem?.toList ++ s.metricsProblem?.toList

end Settings
end DevServer
