import DevServer.Application
import DevServer.Net.Ports
import DevServer.Server

/-!
Starting the server and serving until it is told to stop. The stages come in a fixed order (the
receiver of the signal, the adapter, the address of the metrics, their port, the address to listen
on, its port) and the first that fails ends the run. Others can take turns between any two stages.

Runs are the first of their process to start metrics. In a process that records metrics already, a
run that wants them would take their port and then fail; such runs are left out.
-/
namespace DevServer

set_option autoImplicit false

open Log (Event)
open Net (Ports SocketAddress)
open Server (addressField)

/-- Why a server does not come up. -/
inductive StartupFault where
  | app (fault : AppFault)
  | metricsAddress (given : String)
  | metrics (fault : Net.BindFault)
  | listenAddress (given : String)
  | bind (address : SocketAddress) (fault : Net.BindFault)
deriving Repr, DecidableEq

def metricsFault (fault : Net.BindFault) : String := "failed to create HTTP listener: " ++ fault.report

def StartupFault.message : StartupFault → String
  | .app fault => fault.message
  | .metricsAddress given => s!"Invalid metrics address `{given}`"
  | .metrics fault => "Failed to start metrics endpoint: " ++ metricsFault fault
  | .listenAddress given => s!"Invalid listen address `{given}`: invalid IP address syntax"
  | .bind address fault => s!"Failed to bind {address.render}: {fault.report}"

namespace Startup

def listenerBound (a : SocketAddress) : Event := Server.event "Listener bound" [addressField a]

def metricsListening (a : SocketAddress) : Event where
  level := .info
  target := "reporting_webserver::observability::metrics"
  message := "Metrics endpoint listening"
  fields := [addressField a]

def shutdownComplete : Event where
  level := .info
  target := "reporting_webserver::lifecycle::startup"
  message := "Shutdown complete"

/-- Tells that no gateway stands before the server. -/
def notice : String := " * Running without a server gateway"

/-- Starts the metrics if the settings want them. Nothing records metrics before, so that only their
address and its port can fail. -/
def startMetrics (o : Observability) (ports : Ports) : Except StartupFault (List Event × Ports) :=
  if !o.metricsEnabled then .ok ([], ports)
  else match SocketAddress.ofString? o.metricsAddress with
    | none => .error (.metricsAddress o.metricsAddress)
    | some address =>
      match ports.bind address with
      | .error fault => .error (.metrics fault)
      | .ok (_, ports) => .ok ([metricsListening address], ports)

/-- Listens where the settings want it. -/
def listen (l : Listener) (ports : Ports) : Except StartupFault (SocketAddress × List Event) :=
  match l.socketAddress? with
  | none => .error (.listenAddress l.display)
  | some address =>
    match ports.bind address with
    | .error fault => .error (.bind address fault)
    | .ok (address, _) => .ok (address, [listenerBound address])

/-- How far a run has come, with what the stages to come need. -/
inductive Stage where
  /-- Nothing has been done. The run holds this handle. -/
  | called (handle : Nat) (ports : Ports)
  | subscribed (receiver : Nat) (ports : Ports)
  | built (receiver : Nat) (ports : Ports)
  | measured (receiver : Nat) (ports : Ports)
  | serving (server : Server)
  | finished
  | failed (fault : StartupFault)
deriving Repr, DecidableEq

/-- A run that fails lets go of its receiver. -/
def fail (receiver : Nat) (fault : StartupFault) (shutdown : Shutdown) : Progress Stage where
  task := .failed fault
  shutdown := (shutdown.step (.drop receiver)).2

/-- The next step of a run. -/
def step (s : Settings) : Task Stage
  -- Subscribed before anything else, so that no signal is lost from here on.
  | .called handle ports, shutdown =>
    match shutdown.step (.subscribe handle) with
    | (.receiver receiver, shutdown) => { task := .subscribed receiver ports, shutdown }
    | (_, shutdown) => { task := .called handle ports, shutdown }
  | .subscribed receiver ports, shutdown =>
    match Application.build s with
    | .error fault => fail receiver (.app fault) shutdown
    | .ok (_, events) =>
      { task := .built receiver ports, shutdown, output := events.map .event ++ [.line notice] }
  | .built receiver ports, shutdown =>
    match startMetrics s.observability ports with
    | .error fault => fail receiver fault shutdown
    | .ok (events, ports) =>
      { task := .measured receiver ports, shutdown, output := events.map .event }
  | .measured receiver ports, shutdown =>
    match listen s.listener ports with
    | .error fault => fail receiver fault shutdown
    | .ok (address, events) =>
      { task := .serving { address, receiver }, shutdown, output := events.map .event }
  | .serving server, shutdown =>
    if server.phase = .stopped then
      { task := .finished, shutdown, output := [.event shutdownComplete] }
    else
      let p := server.step shutdown
      { task := .serving p.task, shutdown := p.shutdown, output := p.output }
  | .finished, shutdown => { task := .finished, shutdown }
  | .failed fault, shutdown => { task := .failed fault, shutdown }

/-- How a run has ended. -/
inductive Ending where
  | finished
  /-- It has not ended. -/
  | serving
  | failed (fault : StartupFault)
deriving Repr, DecidableEq

def Stage.ending : Stage → Ending
  | .finished => .finished
  | .failed fault => .failed fault
  | _ => .serving

def Stage.isServing : Stage → Bool
  | .serving _ => true
  | _ => false

/-- The steps after which a run that does not fail accepts requests. -/
def stepsToServe : Nat := 5

/-- The steps that a run takes from when it gets the signal. -/
def stepsToStop : Nat := 3

/-- Runs a server that has the first handle. The others take their turns once it serves. -/
def run (s : Settings) (ports : Ports) (others : List Turn) (shutdown : Shutdown) : Shared Stage :=
  let up := Shared.run (step s) { task := .called 0 ports, shutdown }
    (List.replicate stepsToServe .own)
  if up.task.isServing then up.run (step s) (others ++ List.replicate stepsToStop .own) else up

end Startup
end DevServer
