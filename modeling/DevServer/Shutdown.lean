/-!
Telling the parts of a program to stop. Whoever holds a handle can send the signal and can make
receivers; a receiver gets the signals that are sent after it was made. Signals are numbered as they
are sent, and only the last one is kept, so that a receiver that has missed some is told how many
before it gets the last one.
-/
namespace DevServer

set_option autoImplicit false

/-- The state of a signal: which handles are held, how many signals have been sent, and for each
receiver that is held the number of the signal that it gets next. -/
structure Shutdown where
  handles : List Bool
  receivers : List (Option Nat)
  sent : Nat
  le_sent : ∀ n, some n ∈ receivers → n ≤ sent
deriving Repr, DecidableEq

namespace Shutdown

/-- How many signals are kept. -/
def capacity : Nat := 1

def new : Shutdown where
  handles := [true]
  receivers := []
  sent := 0
  le_sent := nofun

/-- What can be done. Handles and receivers are numbered from zero as they are made. -/
inductive Command where
  | clone (handle : Nat)
  | dropHandle (handle : Nat)
  | subscribe (handle : Nat)
  | trigger (handle : Nat)
  | count (handle : Nat)
  | receive (receiver : Nat)
  | drop (receiver : Nat)
deriving Repr, DecidableEq

/-- What comes of it. -/
inductive Reply where
  | handle (n : Nat)
  | receiver (n : Nat)
  | dropped
  | triggered
  | count (n : Nat)
  | signal
  | empty
  /-- Nothing can come any more. -/
  | closed
  /-- So many signals have been missed. -/
  | lagged (n : Nat)
  /-- There is no such handle or receiver, or no longer. -/
  | gone
deriving Repr, DecidableEq

variable (s : Shutdown)

def isHeld (handle : Nat) : Bool := s.handles[handle]? = some true

/-- The number of the signal that a receiver gets next, if it is held. -/
def position? (receiver : Nat) : Option Nat := s.receivers[receiver]?.join

def receiverCount : Nat := s.receivers.countP Option.isSome

/-- Whether anyone can still send the signal. -/
def isOpen : Bool := s.handles.contains true

theorem position?_le {r n : Nat} (h : s.position? r = some n) : n ≤ s.sent :=
  s.le_sent n (List.mem_of_getElem? (Option.join_eq_some_iff.mp h))

/-- The state with one more handle. -/
def addHandle : Shutdown := { s with handles := s.handles ++ [true] }

def dropHandle (handle : Nat) : Shutdown := { s with handles := s.handles.set handle false }

/-- The state with one more receiver. It gets the signals that are sent from now on. -/
def addReceiver : Shutdown where
  handles := s.handles
  receivers := s.receivers ++ [some s.sent]
  sent := s.sent
  le_sent n h := by
    rcases List.mem_append.mp h with h | h
    · exact s.le_sent n h
    · exact Nat.le_of_eq (Option.some.inj (List.mem_singleton.mp h))

/-- The state in which a receiver is at another place, or is no longer held. -/
def place (receiver : Nat) (at? : Option Nat) (hat : ∀ n, at? = some n → n ≤ s.sent) : Shutdown where
  handles := s.handles
  receivers := s.receivers.set receiver at?
  sent := s.sent
  le_sent n h := (List.mem_or_eq_of_mem_set h).elim (s.le_sent n) fun h => hat n h.symm

/-- The state with one more signal sent. Where nobody can get it nothing is kept of it. -/
def send : Shutdown :=
  if s.receiverCount = 0 then s
  else
    { s with
      sent := s.sent + 1
      le_sent := fun n h => Nat.le_succ_of_le (s.le_sent n h) }

/-- What a receiver that is at a signal gets, and where it is then. -/
def read (n : Nat) : Reply × Nat :=
  if n = s.sent then (if s.isOpen then .empty else .closed, n)
  else if n < s.sent - capacity then (.lagged (s.sent - capacity - n), s.sent - capacity)
  else (.signal, n + 1)

theorem read_le {n : Nat} (h : n ≤ s.sent) : (s.read n).2 ≤ s.sent := by
  unfold read
  split
  · exact h
  · split
    · exact Nat.sub_le _ _
    · show n + 1 ≤ s.sent
      omega

/-- What is done with a handle comes about if the handle is held. -/
def withHandle (handle : Nat) (done : Reply × Shutdown) : Reply × Shutdown :=
  if s.isHeld handle then done else (.gone, s)

/-- Lets a receiver that is held get what there is for it. -/
def receive (receiver : Nat) : Reply × Shutdown :=
  match h : s.position? receiver with
  | none => (.gone, s)
  | some n =>
    ((s.read n).1, s.place receiver (some (s.read n).2) fun m hm => by
      obtain rfl := Option.some.inj hm
      exact s.read_le (s.position?_le h))

def dropReceiver (receiver : Nat) : Reply × Shutdown :=
  match s.position? receiver with
  | none => (.gone, s)
  | some _ => (.dropped, s.place receiver none nofun)

def step : Command → Reply × Shutdown
  | .clone h => s.withHandle h (.handle s.handles.length, s.addHandle)
  | .dropHandle h => s.withHandle h (.dropped, s.dropHandle h)
  | .subscribe h => s.withHandle h (.receiver s.receivers.length, s.addReceiver)
  | .trigger h => s.withHandle h (.triggered, s.send)
  | .count h => s.withHandle h (.count s.receiverCount, s)
  | .receive r => s.receive r
  | .drop r => s.dropReceiver r

/-- Does commands one after the other. -/
def run (s : Shutdown) : List Command → List Reply × Shutdown
  | [] => ([], s)
  | c :: rest =>
    let (reply, s) := s.step c
    let (replies, s) := s.run rest
    (reply :: replies, s)

end Shutdown
end DevServer
