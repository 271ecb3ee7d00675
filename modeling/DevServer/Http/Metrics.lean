import DevServer.Http.Identifier
import DevServer.Http.Layers

/-!
Counting what the routes answer, by method and status: how often, and how many times were taken.
-/
namespace DevServer.Http

set_option autoImplicit false

/-- What is measured of answers. -/
inductive Metric where
  /-- How many there were. -/
  | requests
  /-- How long they took. -/
  | durations
deriving Repr, DecidableEq

/-- The name under which it is reported how often something was measured. -/
def Metric.name : Metric → String
  | .requests => "webserver_requests_total"
  | .durations => "webserver_request_duration_seconds_count"

/-- What measurements are counted by. -/
structure Series where
  metric : Metric
  method : Method
  status : Nat
deriving Repr, DecidableEq

/-- How often each series has been counted. -/
abbrev Metrics := List (Series × Nat)

namespace Metrics

/-- Counts one measurement; the first one of a series makes the series. -/
def increment (ms : Metrics) (s : Series) : Metrics :=
  match ms with
  | [] => [(s, 1)]
  | (t, n) :: rest => if t = s then (t, n + 1) :: rest else (t, n) :: increment rest s

def count (ms : Metrics) (s : Series) : Nat := (ms.lookup s).getD 0

/-- Counts an answer, and the time that it took. -/
def record (ms : Metrics) (method : Method) (status : Nat) : Metrics :=
  (ms.increment ⟨.requests, method, status⟩).increment ⟨.durations, method, status⟩

/-- Counts a response if the routes have given it. -/
def observe (ms : Metrics) (req : Request) (served : Served) : Metrics :=
  if served.fromRoutes then ms.record req.method served.response.status else ms

/-- A line of the report. -/
def line (s : Series) (n : Nat) : String :=
  s.metric.name ++ "\x7bmethod=\"" ++ s.method.name ++ "\",status=\"" ++ toString s.status ++
    "\"\x7d " ++ toString n

/-- The counts, one line each, in alphabetical order. -/
def render (ms : Metrics) : List String :=
  (ms.map fun m => line m.1 m.2).mergeSort fun a b => a ≤ b

end Metrics

/-- A request that comes, and the bytes that are drawn for it. -/
structure Arrival where
  request : Request
  drawn : Fin 16 → UInt8

/-- The identifier that a request gets if it brings none. -/
def Arrival.fresh (a : Arrival) : String := (Uuid.ofDrawn a.drawn).text

def Router.receive (r : Router Endpoint) (s : Settings) (a : Arrival) : Served :=
  r.serve s a.fresh a.request

/-- The answers to requests one after the other, and what has been counted. -/
def Router.serveAll (r : Router Endpoint) (s : Settings) :
    List Arrival → Metrics → List Response × Metrics
  | [], ms => ([], ms)
  | a :: rest, ms =>
    let served := r.receive s a
    let (responses, ms) := serveAll r s rest (ms.observe a.request served)
    (served.response :: responses, ms)

end DevServer.Http
