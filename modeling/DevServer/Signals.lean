import DevServer.Startup

/-!
Stopping the server when the operating system says so. A listener waits for that beside the run of
the server. When its waiting ends it tells how, sends the signal and lets go of its handle; that is
also so if it cannot wait at all, since the operating system then no longer ends the program itself.
-/
namespace DevServer.Signals

set_option autoImplicit false

open Log (Event)
open Startup (Stage)

/-- How waiting for the operating system ends: with its signal, or with why none can be waited for. -/
abbrev Outcome := Except String Unit

def target : String := "reporting_webserver::lifecycle::signals"

def report : Outcome → Event
  | .ok () => { level := .info, target, message := "Termination signal received" }
  | .error reason =>
    { level := .error, target, message := "Signal handling failed, shutting down",
      fields := [("error", .shown reason)] }

/-- How far the listener has come. -/
inductive Listener where
  | waiting
  | resolved (outcome : Outcome)
  | told
  /-- The signal has been sent. -/
  | triggered
  | ended

/-- The handle of the listener; the run of the server has the first. -/
def handle : Nat := 1

/-- What the listener does next. -/
def Listener.turns : Listener → List Turn
  | .waiting => []
  | .resolved outcome => [.output (.event (report outcome))]
  | .told => [.command (.trigger handle)]
  | .triggered => [.command (.dropHandle handle)]
  | .ended => []

/-- How far it has come then. -/
def Listener.next : Listener → Listener
  | .waiting => .waiting
  | .resolved _ => .told
  | .told => .triggered
  | .triggered => .ended
  | .ended => .ended

def Listener.resolve (outcome : Outcome) : Listener → Listener
  | .waiting => .resolved outcome
  | l => l

/-- The run of a server and the listener beside it. -/
structure System where
  run : Shared Stage
  listener : Listener := .waiting

/-- Who does something next. -/
inductive Move where
  /-- The run takes its next step. -/
  | main
  /-- The waiting of the listener ends. -/
  | resolve (outcome : Outcome)
  /-- The listener takes its next step. -/
  | listener

namespace System

/-- The run and the listener before their first steps. -/
def start (ports : Net.Ports) : System where
  run := { task := .called 0 ports, shutdown := (Shutdown.new.step (.clone 0)).2 }

def move (s : Settings) (sys : System) : Move → System
  | .main => { sys with run := sys.run.turn (Startup.step s) .own }
  | .resolve outcome => { sys with listener := sys.listener.resolve outcome }
  | .listener =>
    { run := sys.run.run (Startup.step s) sys.listener.turns, listener := sys.listener.next }

/-- Moves one after the other. -/
def moves (s : Settings) (sys : System) (ms : List Move) : System := ms.foldl (move s) sys

end System

/-- The operating system tells the program to stop, and it does. -/
def termination : List Move :=
  [.resolve (.ok ()), .listener, .listener, .listener] ++
    List.replicate Startup.stepsToStop .main

/-- Runs a server from its start. If it serves, it is told to stop or goes on. -/
def run (s : Settings) (ports : Net.Ports) (terminated : Bool) : System :=
  let up := (System.start ports).moves s (List.replicate Startup.stepsToServe .main)
  if up.run.task.isServing && terminated then up.moves s termination else up

end DevServer.Signals
