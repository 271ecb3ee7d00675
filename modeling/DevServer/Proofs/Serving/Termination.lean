import DevServer.Proofs.Serving.Stopping
import DevServer.Signals

/-!
# When the operating system says stop

The listener sends its one signal whenever the operating system lets it, and the run of the server
makes its receiver in its first step. A signal that is sent later ends the run, wherever the run
stands. A signal that is sent before that step reaches nobody: the run comes up all the same and
waits for good, although the operating system no longer ends the program itself.
-/
namespace DevServer

set_option autoImplicit false

open Net (Ports SocketAddress)

namespace Signals

open Startup (Stage GoesOn Stopped StartsUp)

def Move.isMain : Move → Bool
  | .main => true
  | _ => false

namespace Listener

/-- Whether the signal has been sent. -/
def isSpent : Listener → Bool
  | .triggered => true
  | .ended => true
  | _ => false

/-- How far a listener has come after moves. -/
def after (l : Listener) : List Move → Listener
  | [] => l
  | .main :: ms => l.after ms
  | .resolve outcome :: ms => (l.resolve outcome).after ms
  | .listener :: ms => l.next.after ms

/-- The turns that moves are for the run. -/
def turnsIn (l : Listener) : List Move → List Turn
  | [] => []
  | .main :: ms => .own :: l.turnsIn ms
  | .resolve outcome :: ms => (l.resolve outcome).turnsIn ms
  | .listener :: ms => l.turns ++ l.next.turnsIn ms

variable {l : Listener} {ms : List Move} {t : Turn}

theorem isSpent_resolve (outcome : Outcome) : (l.resolve outcome).isSpent = l.isSpent := by
  cases l <;> rfl

theorem isSpent_next (h : l ≠ .told) : l.next.isSpent = l.isSpent := by
  cases l with
  | told => exact absurd rfl h
  | _ => rfl

theorem isSpent_after (h : l.isSpent = true) (ms : List Move) : (l.after ms).isSpent = true := by
  induction ms generalizing l with
  | nil => exact h
  | cons m ms ih =>
    cases m with
    | main => exact ih h
    | resolve outcome => exact ih ((isSpent_resolve outcome).trans h)
    | listener =>
      refine ih ((isSpent_next ?_).trans h)
      rintro rfl
      cases h

/-- The turns that a listener takes. -/
inductive Takes : Listener → Turn → Prop
  | report (outcome : Outcome) : Takes (.resolved outcome) (.output (.event (report outcome)))
  | trigger : Takes .told (.command (.trigger handle))
  | dropHandle : Takes .triggered (.command (.dropHandle handle))

theorem takes_of_mem_turns (h : t ∈ l.turns) : l.Takes t := by
  cases l with
  | waiting => cases h
  | ended => cases h
  | resolved outcome => exact List.mem_singleton.mp h ▸ .report outcome
  | told => exact List.mem_singleton.mp h ▸ .trigger
  | triggered => exact List.mem_singleton.mp h ▸ .dropHandle

theorem Takes.spares (h : l.Takes t) (r : Nat) : t.Spares r := by
  intro c hc
  cases h with
  | report => cases hc
  | trigger => exact Turn.command.inj hc ▸ nofun
  | dropHandle => exact Turn.command.inj hc ▸ nofun

theorem mem_turnsIn (h : t ∈ l.turnsIn ms) : t = .own ∨ ∃ l' : Listener, l'.Takes t := by
  induction ms generalizing l with
  | nil => cases h
  | cons m ms ih =>
    cases m with
    | main => exact (List.mem_cons.mp h).elim .inl ih
    | resolve outcome => exact ih h
    | listener => exact (List.mem_append.mp h).elim (fun h => .inr ⟨l, takes_of_mem_turns h⟩) ih

/-- Before the signal is sent, and after that, none is. -/
theorem silent_turnsIn (hsame : (l.after ms).isSpent = l.isSpent) (h : t ∈ l.turnsIn ms) (i : Nat) :
    t ≠ .command (.trigger i) := by
  induction ms generalizing l with
  | nil => cases h
  | cons m ms ih =>
    cases m with
    | main =>
      rcases List.mem_cons.mp h with rfl | h
      · exact nofun
      · exact ih hsame h
    | resolve outcome => exact ih (hsame.trans (isSpent_resolve outcome).symm) h
    | listener =>
      have htold : l ≠ .told := by
        rintro rfl
        exact Bool.false_ne_true (hsame.symm.trans (isSpent_after (l := .triggered) rfl ms))
      rcases List.mem_append.mp h with h | h
      · cases takes_of_mem_turns h with
        | trigger => exact absurd rfl htold
        | _ => exact nofun
      · exact ih (hsame.trans (isSpent_next htold).symm) h

/-- A listener holds its handle until it has sent the signal. -/
theorem keeps_handle (hspent : (l.after ms).isSpent = false) (h : t ∈ l.turnsIn ms) :
    t ≠ .command (.dropHandle handle) := by
  induction ms generalizing l with
  | nil => cases h
  | cons m ms ih =>
    cases m with
    | main =>
      rcases List.mem_cons.mp h with rfl | h
      · exact nofun
      · exact ih hspent h
    | resolve outcome => exact ih hspent h
    | listener =>
      rcases List.mem_append.mp h with h | h
      · cases takes_of_mem_turns h with
        | dropHandle =>
          have hended := isSpent_after (l := .ended) rfl ms
          exact absurd (hspent.symm.trans hended) Bool.false_ne_true
        | _ => exact nofun
      · exact ih hspent h

theorem turnsIn_append (ms ns : List Move) :
    l.turnsIn (ms ++ ns) = l.turnsIn ms ++ (l.after ms).turnsIn ns := by
  induction ms generalizing l with
  | nil => rfl
  | cons m ms ih =>
    cases m with
    | main => exact congrArg (Turn.own :: ·) ih
    | resolve outcome => exact ih
    | listener => exact (congrArg (l.turns ++ ·) ih).trans (List.append_assoc ..).symm

/-- A listener sends its signal in one of its steps. -/
theorem exists_told (hl : l.isSpent = false) (hms : (l.after ms).isSpent = true) :
    ∃ before rest, ms = before ++ .listener :: rest ∧ l.after before = .told := by
  induction ms generalizing l with
  | nil => exact absurd (hl.symm.trans hms) Bool.false_ne_true
  | cons m ms ih =>
    cases m with
    | main =>
      obtain ⟨before, rest, rfl, htold⟩ := ih hl hms
      exact ⟨.main :: before, rest, rfl, htold⟩
    | resolve outcome =>
      obtain ⟨before, rest, rfl, htold⟩ := ih ((isSpent_resolve outcome).trans hl) hms
      exact ⟨.resolve outcome :: before, rest, rfl, htold⟩
    | listener =>
      cases hl' : l with
      | told => exact ⟨[], ms, rfl, rfl⟩
      | _ =>
        have hnext : l.next.isSpent = false := by
          rw [isSpent_next (by rw [hl']; exact nofun)]
          exact hl
        obtain ⟨before, rest, rfl, htold⟩ := ih hnext hms
        exact ⟨.listener :: before, rest, rfl, hl' ▸ htold⟩

theorem spares_turnsIn (r : Nat) (h : t ∈ l.turnsIn ms) : t.Spares r := by
  rcases mem_turnsIn h with rfl | ⟨l', htakes⟩
  · exact nofun
  · exact htakes.spares r

theorem countP_turnsIn : (l.turnsIn ms).countP Turn.isOwn = ms.countP Move.isMain := by
  induction ms generalizing l with
  | nil => rfl
  | cons m ms ih =>
    cases m with
    | main =>
      show (Turn.own :: l.turnsIn ms).countP Turn.isOwn = _
      rw [List.countP_cons_of_pos rfl, List.countP_cons_of_pos rfl, ih]
    | resolve outcome => exact ih
    | listener =>
      have hturns : l.turns.countP Turn.isOwn = 0 := by cases l <;> rfl
      show (l.turns ++ l.next.turnsIn ms).countP Turn.isOwn = _
      rw [List.countP_append, hturns, Nat.zero_add]
      exact ih

end Listener

namespace System

variable {s : Settings} {ports : Ports}

theorem moves_append (sys : System) (ms ns : List Move) :
    sys.moves s (ms ++ ns) = (sys.moves s ms).moves s ns := List.foldl_append

/-- To the run of the server all that the listener does is turns of somebody else. -/
theorem moves_eq (sys : System) (ms : List Move) : sys.moves s ms =
    { run := sys.run.run (Startup.step s) (sys.listener.turnsIn ms)
      listener := sys.listener.after ms } := by
  induction ms generalizing sys with
  | nil => rfl
  | cons m ms ih =>
    refine (ih (sys.move s m)).trans ?_
    cases m with
    | main => rfl
    | resolve outcome => rfl
    | listener =>
      show _ = System.mk (sys.run.run _ (sys.listener.turns ++ sys.listener.next.turnsIn ms)) _
      rw [Shared.run_append]
      rfl

theorem listener_moves_append (sys : System) (ms ns : List Move) :
    (sys.moves s (ms ++ ns)).listener = (sys.moves s ms).listener.after ns := by
  rw [moves_append, moves_eq _ ns]

theorem run_moves_append (sys : System) (ms ns : List Move) : (sys.moves s (ms ++ ns)).run =
    (sys.moves s ms).run.run (Startup.step s) ((sys.moves s ms).listener.turnsIn ns) := by
  rw [moves_append, moves_eq _ ns]

theorem isSpent_moves_append {sys : System} {ms : List Move}
    (hms : (sys.moves s ms).listener.isSpent = true) (ns : List Move) :
    (sys.moves s (ms ++ ns)).listener.isSpent = true := by
  rw [listener_moves_append]
  exact Listener.isSpent_after hms ns

/-- The run has not taken its first step: nothing can be received, and nothing has been put out. -/
structure Unheard (ports : Ports) (w : Shared Stage) : Prop where
  task : w.task = .called 0 ports
  receivers : w.shutdown.receivers = []
  own : w.own = []

theorem Unheard.turn {w : Shared Stage} (hw : Unheard ports w) {l : Listener} {t : Turn}
    (ht : l.Takes t) : Unheard ports (w.turn (Startup.step s) t) := by
  obtain ⟨htask, hreceivers, hown⟩ := hw
  cases ht with
  | report _ => exact ⟨htask, hreceivers, hown⟩
  | trigger =>
    refine ⟨htask, ?_, hown⟩
    show (w.shutdown.withHandle handle _).2.receivers = []
    unfold Shutdown.withHandle
    split
    · exact Shutdown.receivers_send.trans hreceivers
    · exact hreceivers
  | dropHandle =>
    refine ⟨htask, ?_, hown⟩
    show (w.shutdown.withHandle handle _).2.receivers = []
    unfold Shutdown.withHandle
    split
    · exact hreceivers
    · exact hreceivers

variable (ports) in
theorem unheard {ms : List Move} (hms : .main ∉ ms) : Unheard ports ((start ports).moves s ms).run := by
  rw [moves_eq]
  refine Shared.run_keeps (P := fun t => ∃ l : Listener, l.Takes t) ?_ ⟨rfl, rfl, rfl⟩ ?_
  · rintro w t ⟨l, ht⟩ hw
    exact hw.turn ht
  · intro t ht
    refine (Listener.mem_turnsIn ht).resolve_left ?_
    rintro rfl
    have hnone : ms.countP Move.isMain = 0 := by
      rw [List.countP_eq_zero]
      intro m hm
      cases m with
      | main => exact absurd hm hms
      | _ => exact nofun
    rw [← Listener.countP_turnsIn, List.countP_eq_zero] at hnone
    exact absurd rfl (hnone _ ht)

/-- The run has a handle at all times. -/
theorem isHeld_server (ms : List Move) :
    ((start ports).moves s ms).run.shutdown.isHeld 0 = true := by
  rw [moves_eq]
  refine Startup.isHeld_run rfl fun t ht => ?_
  rcases Listener.mem_turnsIn ht with rfl | ⟨l, htakes⟩
  · exact nofun
  · cases htakes <;> exact nofun

theorem isHeld_listener {ms : List Move}
    (hspent : ((start ports).moves s ms).listener.isSpent = false) :
    ((start ports).moves s ms).run.shutdown.isHeld handle = true := by
  rw [moves_eq] at hspent ⊢
  exact Startup.isHeld_run rfl fun t ht => Listener.keeps_handle hspent ht

theorem Unheard.goesOn {w : Shared Stage} (hw : Unheard ports w) : GoesOn w := by
  obtain ⟨htask, _, hown⟩ := hw
  constructor
  · rw [htask]
    rfl
  · rw [hown]
    exact List.not_mem_nil

section Serving

variable {a : SocketAddress} {p : Startup.Preamble} (hup : StartsUp s ports a p)

/-- From its first step on the run has a receiver. -/
theorem idle_of_first {ms : List Move} (hms : .main ∉ ms) :
    (Startup.waiter hup 0).Idle 0 ((start ports).moves s (ms ++ [.main])).run := by
  have hi : ((start ports).moves s ms).run.shutdown.isHeld 0 = true := isHeld_server ms
  obtain ⟨htask, hreceivers, hown⟩ := unheard (s := s) ports hms
  rw [moves_append]
  show Waiter.Idle _ 0 (Shared.turn (Startup.step s) ((start ports).moves s ms).run .own)
  have hr : ((start ports).moves s ms).run.shutdown.addReceiver.unseen? 0 = some 0 := by
    rw [Shutdown.unseen?_addReceiver, hreceivers]
    rfl
  unfold Shared.turn
  dsimp only
  rw [htask, Startup.step_called hi, hreceivers, hown]
  exact Startup.idle_subscribed hup hr

include hup

/-- A run goes on if no signal is sent from when it has its receiver. -/
theorem goesOn_of_silent {pre post : List Move} (hpre : .main ∉ pre)
    (hsame : ((start ports).moves s (pre ++ .main :: post)).listener.isSpent =
      ((start ports).moves s (pre ++ [.main])).listener.isSpent) :
    GoesOn ((start ports).moves s (pre ++ .main :: post)).run := by
  have hidle := idle_of_first hup hpre
  have hopen : ((start ports).moves s (pre ++ .main :: post)).run.shutdown.isOpen = true :=
    Shutdown.isOpen_iff.mpr ⟨0, isHeld_server _⟩
  rw [List.append_cons, run_moves_append] at hopen ⊢
  rw [List.append_cons, listener_moves_append] at hsame
  refine Startup.goesOn_of_idle hup ((Startup.waiter hup 0).stays hidle ?_ ?_ hopen)
  · exact fun t ht => Listener.spares_turnsIn 0 ht
  · exact Shared.signals_eq_zero _ fun t ht => Listener.silent_turnsIn hsame ht

theorem goesOn_before_sent {ms : List Move}
    (hms : ((start ports).moves s ms).listener.isSpent = false) :
    GoesOn ((start ports).moves s ms).run := by
  by_cases hmain : .main ∈ ms
  · obtain ⟨pre, post, rfl, hpre⟩ := List.eq_append_cons_of_mem hmain
    refine goesOn_of_silent hup hpre ?_
    cases hspent : ((start ports).moves s (pre ++ [.main])).listener.isSpent with
    | false => exact hms
    | true => rw [List.append_cons, isSpent_moves_append hspent post]
  · exact (unheard ports hmain).goesOn

/-- A signal that is sent before the run has its receiver is lost. -/
theorem goesOn_after_lost {before : List Move}
    (htold : ((start ports).moves s before).listener = .told) (hbefore : .main ∉ before)
    (after : List Move) : GoesOn ((start ports).moves s (before ++ .listener :: after)).run := by
  have hnone : ∀ ms : List Move, .main ∉ ms → .main ∉ before ++ .listener :: ms := by
    intro ms hms hmem
    rcases List.mem_append.mp hmem with hmem | hmem
    · exact hbefore hmem
    · exact hms ((List.mem_cons.mp hmem).resolve_left nofun)
  have hsent : ∀ ms : List Move,
      ((start ports).moves s (before ++ .listener :: ms)).listener.isSpent = true := by
    intro ms
    rw [listener_moves_append, htold]
    exact Listener.isSpent_after (l := .triggered) rfl ms
  -- If the run takes its first step at all, it does so when the signal has been sent.
  by_cases hmain : .main ∈ after
  · obtain ⟨pre, post, rfl, hpre⟩ := List.eq_append_cons_of_mem hmain
    have hsplit : ∀ ns : List Move, before ++ .listener :: (pre ++ ns) =
        (before ++ .listener :: pre) ++ ns := fun ns => (List.append_assoc before (.listener :: pre) ns).symm
    rw [hsplit]
    refine goesOn_of_silent hup (hnone pre hpre) ?_
    rw [← hsplit, ← hsplit, hsent, hsent]
  · exact (unheard ports (hnone after hmain)).goesOn

/-- A signal that is sent when the run has its receiver ends the run. -/
theorem stopped_after_sent {before after : List Move}
    (htold : ((start ports).moves s before).listener = .told) (hbefore : .main ∈ before)
    (hcount : 7 ≤ after.countP Move.isMain) :
    Stopped a p ((start ports).moves s (before ++ .listener :: after)).run := by
  have hheld : ((start ports).moves s before).run.shutdown.isHeld handle = true :=
    isHeld_listener (by rw [htold]; rfl)
  obtain ⟨pre, mid, rfl, hpre⟩ := List.eq_append_cons_of_mem hbefore
  have hidle := idle_of_first (s := s) hup hpre
  rw [List.append_cons, listener_moves_append] at htold
  rw [List.append_cons, run_moves_append] at hheld
  rw [List.append_cons pre, List.append_assoc, run_moves_append, Listener.turnsIn_append, htold]
  -- From the first step of the run on, the listener is somebody who sends one signal.
  generalize (start ports).moves s (pre ++ [.main]) = sys at hidle hheld
  have hsignals : 0 < sys.run.signals (Startup.step s)
      (sys.listener.turnsIn mid ++ Listener.told.turns) := by
    have hone : (Turn.command (.trigger handle)).signals
        (sys.run.run (Startup.step s) (sys.listener.turnsIn mid)).shutdown = 1 := if_pos hheld
    rw [Shared.signals_append]
    show 0 < _ + (Turn.signals _ (.command (.trigger handle)) + 0)
    rw [hone]
    exact Nat.succ_pos _
  have hspares : ∀ t ∈ sys.listener.turnsIn mid ++ Listener.told.turns, t.Spares 0 := by
    intro t ht
    rcases List.mem_append.mp ht with ht | ht
    · exact Listener.spares_turnsIn 0 ht
    · exact (Listener.takes_of_mem_turns ht).spares 0
  have hspares' : ∀ t ∈ Listener.triggered.turnsIn after, t.Spares 0 := fun t ht =>
    Listener.spares_turnsIn 0 ht
  show Stopped a p (sys.run.run _ (_ ++ (Listener.told.turns ++ Listener.triggered.turnsIn after)))
  rw [← List.append_assoc]
  obtain ⟨hrank, hlog⟩ := (Startup.waiter hup 0).ends hidle hspares hspares' (.inl hsignals)
    (Listener.countP_turnsIn.symm ▸ hcount)
  exact Startup.stopped_of_last hup hrank hlog

/-- The listener sends one signal at most. While it has not, the run goes on. If it does after the
first step of the run, the run ends; if it does before that, the run goes on for good. -/
theorem signal_received_or_lost :
    (∀ ms, ((start ports).moves s ms).listener.isSpent = false →
      GoesOn ((start ports).moves s ms).run) ∧
    (∀ ms, ((start ports).moves s ms).listener.isSpent = true → ∃ before after,
      ms = before ++ .listener :: after ∧ ((start ports).moves s before).listener = .told) ∧
    ∀ before after, ((start ports).moves s before).listener = .told →
      (.main ∈ before → 7 ≤ after.countP Move.isMain →
        Stopped a p ((start ports).moves s (before ++ .listener :: after)).run) ∧
      (.main ∉ before → GoesOn ((start ports).moves s (before ++ .listener :: after)).run) := by
  refine ⟨fun ms hms => goesOn_before_sent hup hms, fun ms hms => ?_, fun before after htold => ?_⟩
  · rw [moves_eq] at hms
    obtain ⟨before, after, hsplit, htold⟩ := Listener.exists_told (l := .waiting) rfl hms
    refine ⟨before, after, hsplit, ?_⟩
    rw [moves_eq]
    exact htold
  · exact ⟨stopped_after_sent hup htold, fun hbefore => goesOn_after_lost hup htold hbefore after⟩

end Serving

/-- The operating system says stop while the application is built. -/
theorem signal_between_stages_received :
    StartsUp {} { assigned := 49152 } Startup.anyAddress Startup.barePreamble ∧
      Stopped Startup.anyAddress Startup.barePreamble ((start { assigned := 49152 }).moves {}
        ([.main, .resolve (.ok ()), .listener, .main] ++ .listener :: List.replicate 7 .main)).run :=
  ⟨Startup.startsUp_bare,
    ((signal_received_or_lost Startup.startsUp_bare).2.2
      [.main, .resolve (.ok ()), .listener, .main] (List.replicate 7 .main) rfl).1
      (List.mem_cons_self ..) (by decide)⟩

/-- There is no signal to wait for and the listener finds that out before the run takes its first
step. What should end the program is sent, the run serves, and nothing that either does ends it. -/
theorem early_signal_lost :
    let after (ms : List Move) := (start { assigned := 49152 }).moves {}
      ([.resolve (.error "no signal driver"), .listener] ++ .listener :: ms)
    (after []).listener.isSpent = true ∧
      (after (List.replicate 5 .main)).run.task.isServing = true ∧
      ∀ ms, GoesOn (after ms).run := by
  refine ⟨rfl, by rfl, fun ms => ?_⟩
  refine goesOn_after_lost Startup.startsUp_bare rfl ?_ ms
  intro hmem
  cases hmem with
  | tail _ hmem => cases hmem with
    | tail _ hmem => cases hmem

end System
end Signals
end DevServer
