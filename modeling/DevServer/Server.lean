import DevServer.Net.Address
import DevServer.Shared

/-!
A server that listens on an address. It accepts requests until the receiver of the signal gets
something, whatever that is: a signal, word of signals that it has missed, or word that none can come
any more. Then it answers the requests that it has and stops. Nothing else ends it: a connection that
cannot be accepted is tried again, so that serving has no fault of its own, and none is modelled.
-/
namespace DevServer

set_option autoImplicit false

open Log (Event)
open Net (SocketAddress)

/-- How far a server has come. -/
inductive Server.Phase where
  | bound
  | accepting
  | draining
  | stopped
deriving Repr, DecidableEq

structure Server where
  address : SocketAddress
  /-- The receiver that the server waits with. -/
  receiver : Nat
  phase : Server.Phase := .bound
deriving Repr, DecidableEq

namespace Server

def event (message : String) (fields : List (String × Log.FieldValue)) : Event where
  level := .info
  target := "reporting_webserver::http::server"
  message := message
  fields := fields

def addressField (a : SocketAddress) : String × Log.FieldValue := ("address", .shown a.render)

def starting (a : SocketAddress) : Event := event "HTTP server starting" [addressField a]

def draining : Event := event "Shutdown signal received, draining connections" []

def stopped : Event := event "HTTP server stopped" []

/-- The next step of a server. One that has got nothing yet waits, and one that has stopped does
nothing more. -/
def step : Task Server := fun v shutdown =>
  match v.phase with
  | .bound =>
    { task := { v with phase := .accepting }, shutdown, output := [.event (starting v.address)] }
  | .accepting =>
    match shutdown.step (.receive v.receiver) with
    | (.empty, shutdown) => { task := v, shutdown }
    | (_, shutdown) =>
      -- The receiver is let go of with the first thing that it gets.
      { task := { v with phase := .draining }
        shutdown := (shutdown.step (.drop v.receiver)).2
        output := [.event draining] }
  | .draining => { task := { v with phase := .stopped }, shutdown, output := [.event stopped] }
  | .stopped => { task := v, shutdown }

end Server
end DevServer
