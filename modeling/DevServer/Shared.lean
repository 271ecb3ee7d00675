import DevServer.Log.Event
import DevServer.Shutdown

/-!
A task that shares a signal with others. Turns are taken in any order: the task takes its next step,
or somebody else does something with the signal or puts something out. What the task itself puts out
is kept apart from what all put out.
-/
namespace DevServer

set_option autoImplicit false

/-- Something that is put out. -/
inductive Output where
  | event (e : Log.Event)
  | line (s : String)
deriving Repr, DecidableEq

/-- What a step of a task leaves. -/
structure Progress (σ : Type) where
  task : σ
  shutdown : Shutdown
  output : List Output := []

/-- A task as its next step, given the signal. -/
abbrev Task (σ : Type) := σ → Shutdown → Progress σ

/-- Who does something next, and what. -/
inductive Turn where
  /-- The task takes its next step. -/
  | own
  /-- Somebody else does something with the signal. -/
  | command (c : Shutdown.Command)
  /-- Somebody else puts something out. -/
  | output (o : Output)

/-- A task on its way, with the signal that it shares. -/
structure Shared (σ : Type) where
  task : σ
  shutdown : Shutdown
  /-- What the task has put out. -/
  own : List Output := []
  /-- What all have put out, in order. -/
  output : List Output := []

namespace Shared

variable {σ : Type} (step : Task σ)

def turn (w : Shared σ) : Turn → Shared σ
  | .own =>
    let p := step w.task w.shutdown
    { task := p.task, shutdown := p.shutdown, own := w.own ++ p.output, output := w.output ++ p.output }
  | .command c => { w with shutdown := (w.shutdown.step c).2 }
  | .output o => { w with output := w.output ++ [o] }

/-- Takes turns one after the other. -/
def run (w : Shared σ) (turns : List Turn) : Shared σ := turns.foldl (turn step) w

end Shared
end DevServer
