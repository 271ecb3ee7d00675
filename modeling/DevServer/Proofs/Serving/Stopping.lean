import DevServer.Proofs.Applications.Building
import DevServer.Proofs.Serving.Stages

/-!
# One clean stop

A server stops by whatever its receiver gets first, be it a signal, word of signals that it missed or
word that none can come any more, and it stops once: how many signals there were and when they came
makes no difference. A run holds its receiver from its first step on, so that this is also true of
signals that come while it starts.
-/
namespace DevServer

set_option autoImplicit false

open Net (Ports SocketAddress)

namespace Server

/-- The steps that have been taken. -/
def Phase.rank : Phase → Nat
  | .bound => 0
  | .accepting => 1
  | .draining => 2
  | .stopped => 3

/-- What a server has put out by then. -/
def Phase.log (a : SocketAddress) : Phase → List Output
  | .bound => []
  | .accepting => [.event (starting a)]
  | .draining => [.event (starting a), .event Server.draining]
  | .stopped => [.event (starting a), .event Server.draining, .event Server.stopped]

/-- A server that accepts goes on as long as there is nothing for its receiver. -/
theorem step_accepting {v : Server} (hv : v.phase = .accepting) {s : Shutdown} {u : Nat}
    (hu : s.unseen? v.receiver = some u) :
    (v.step s).shutdown.handles = s.handles ∧
      ((v.step s).task = v ∧ (v.step s).shutdown.unseen? v.receiver = some u ∧
          ¬ s.Alerts v.receiver ∨
        (v.step s).task = { v with phase := .draining } ∧ s.Alerts v.receiver) := by
  obtain ⟨n, ha, hn⟩ := Shutdown.answer_of_unseen? hu
  have hreceived := (Shutdown.frame_receiver (s := s) (c := .receive v.receiver) rfl).1
  have hdropped : ((s.step (.receive v.receiver)).2.step (.drop v.receiver)).2.handles = s.handles :=
    (Shutdown.frame_receiver rfl).1.trans hreceived
  unfold Server.step
  rw [hv]
  generalize s.step (.receive v.receiver) = out at ha hn hreceived hdropped
  obtain ⟨reply, next⟩ := out
  cases ha with
  | empty ho =>
    refine ⟨hreceived, .inl ⟨rfl, hn, ?_⟩⟩
    rintro ⟨m, hm, hsome⟩
    rw [hu] at hm
    obtain rfl := Option.some.inj hm
    rw [ho] at hsome
    exact hsome.elim (Nat.lt_irrefl 0) nofun
  | closed hc => exact ⟨hdropped, .inr ⟨rfl, 0, hu, .inr (Bool.eq_false_iff.mpr hc)⟩⟩
  | signal => exact ⟨hdropped, .inr ⟨rfl, 1, hu, .inl Nat.one_pos⟩⟩
  | lagged n => exact ⟨hdropped, .inr ⟨rfl, n + 2, hu, .inl (Nat.succ_pos _)⟩⟩

/-- A server as a task that waits with its receiver. -/
def waiter (a : SocketAddress) (r : Nat) : Waiter Server.step r where
  Waits v := v.address = a ∧ v.receiver = r ∧ (v.phase = .bound ∨ v.phase = .accepting)
  Told v := v.address = a ∧ v.receiver = r ∧ (v.phase = .draining ∨ v.phase = .stopped)
  rank v := v.phase.rank
  last := Phase.stopped.rank
  log v := v.phase.log a
  waits_step := by
    rintro ⟨a, r, phase⟩ s u ⟨rfl, rfl, rfl | rfl⟩ hu
    · exact ⟨rfl, .inl ⟨⟨rfl, rfl, .inr rfl⟩, hu⟩⟩
    · obtain ⟨hhandles, ⟨htask, hkept, _⟩ | ⟨htask, halerts⟩⟩ :=
        step_accepting (v := ⟨a, r, .accepting⟩) rfl hu
      · rw [htask]
        exact ⟨hhandles, .inl ⟨⟨rfl, rfl, .inr rfl⟩, hkept⟩⟩
      · rw [htask]
        exact ⟨hhandles, .inr ⟨⟨rfl, rfl, .inl rfl⟩, halerts⟩⟩
  alerted_step := by
    rintro ⟨a, r, phase⟩ s ⟨rfl, rfl, rfl | rfl⟩ halerts
    · exact Nat.one_pos
    · obtain ⟨u, hu, _⟩ := id halerts
      obtain ⟨_, ⟨_, _, hquiet⟩ | ⟨htask, _⟩⟩ := step_accepting (v := ⟨a, r, .accepting⟩) rfl hu
      · exact absurd halerts hquiet
      · rw [htask]
        exact Nat.lt_succ_self 1
  told_step := by
    rintro ⟨a, r, phase⟩ s ⟨rfl, rfl, rfl | rfl⟩
    · exact ⟨rfl, ⟨rfl, rfl, .inr rfl⟩, Nat.le_refl _⟩
    · exact ⟨rfl, ⟨rfl, rfl, .inr rfl⟩, Nat.min_le_left _ _⟩
  log_step := by
    rintro ⟨a, r, phase⟩ s (⟨rfl, rfl, rfl | rfl⟩ | ⟨rfl, rfl, rfl | rfl⟩)
    · rfl
    · unfold Server.step
      dsimp only
      split <;> rfl
    · rfl
    · rfl

theorem ne_stopped_of_waits {a : SocketAddress} {r : Nat} {v : Server} (hv : (waiter a r).Waits v) :
    v.phase ≠ .stopped := by
  obtain ⟨_, _, hphase | hphase⟩ := hv <;> rw [hphase] <;> exact nofun

theorem Phase.eq_stopped_of_rank {phase : Phase} (h : Phase.stopped.rank ≤ phase.rank) :
    phase = .stopped := by
  cases phase with
  | stopped => rfl
  | _ => exact absurd h (by decide)

theorem draining_not_mem_log (a : SocketAddress) {phase : Phase}
    (h : phase = .bound ∨ phase = .accepting) : .event draining ∉ phase.log a := by
  rcases h with rfl | rfl <;> simp [Phase.log, draining, starting, event]

/-- The server has stopped and has told so once. -/
structure Stopped (a : SocketAddress) (w : Shared Server) : Prop where
  phase : w.task.phase = .stopped
  own : w.own = [.event (starting a), .event draining, .event stopped]

/-- The server has not begun to stop. -/
structure GoesOn (w : Shared Server) : Prop where
  phase : w.task.phase = .bound ∨ w.task.phase = .accepting
  own : .event draining ∉ w.own

theorem ends_when_told {sd : Shutdown} {r : Nat} (hr : sd.unseen? r = some 0) (a : SocketAddress) :
    EndsWhenTold Server.step r { task := { address := a, receiver := r }, shutdown := sd } 3
      (Stopped a) GoesOn := by
  have hidle : (waiter a r).Idle 0 { task := { address := a, receiver := r }, shutdown := sd } :=
    ⟨⟨rfl, rfl, .inl rfl⟩, hr, rfl⟩
  refine (waiter a r).endsWhenTold hidle (fun w hrank hlog => ?_) fun w hw => ?_
  · have hphase := Phase.eq_stopped_of_rank hrank
    refine ⟨hphase, hlog.trans ?_⟩
    show w.task.phase.log a = _
    rw [hphase]
    rfl
  · obtain ⟨⟨_, _, hphase⟩, _, hlog⟩ := hw
    refine ⟨hphase, ?_⟩
    rw [hlog]
    exact draining_not_mem_log a hphase

end Server

namespace Startup

/-- What a run has put out before it serves, by the stages. -/
structure Preamble where
  built : List Log.Event
  measured : List Log.Event
  bound : List Log.Event

namespace Preamble

def afterBuild (p : Preamble) : List Output := p.built.map .event ++ [.line notice]

def afterMetrics (p : Preamble) : List Output := p.afterBuild ++ p.measured.map .event

def output (p : Preamble) : List Output := p.afterMetrics ++ p.bound.map .event

end Preamble

/-- No stage before serving fails: the run gets an address, and puts this out on the way. -/
structure StartsUp (s : Settings) (ports : Ports) (a : SocketAddress) (p : Preamble) : Prop where
  built : ∃ app, Application.build s = .ok (app, p.built)
  bound : ∃ left, startMetrics s.observability ports = .ok (p.measured, left) ∧
    listen s.listener left = .ok (a, p.bound)

def Stage.rank : Stage → Nat
  | .called _ _ => 0
  | .subscribed _ _ => 0
  | .built _ _ => 1
  | .measured _ _ => 2
  | .serving v => 3 + v.phase.rank
  | .finished => 7
  | .failed _ => 0

/-- What a run has put out by then. -/
def Stage.log (a : SocketAddress) (p : Preamble) : Stage → List Output
  | .called _ _ => []
  | .subscribed _ _ => []
  | .built _ _ => p.afterBuild
  | .measured _ _ => p.afterMetrics
  | .serving v => p.output ++ v.phase.log a
  | .finished => p.output ++ Server.Phase.stopped.log a ++ [.event shutdownComplete]
  | .failed _ => []

/-- A run that does not fail is at one of these stages until its receiver gets something. -/
inductive Waits (s : Settings) (ports : Ports) (a : SocketAddress) (p : Preamble) (r : Nat) :
    Stage → Prop
  | subscribed : Waits s ports a p r (.subscribed r ports)
  | built : Waits s ports a p r (.built r ports)
  | measured {left : Ports} : listen s.listener left = .ok (a, p.bound) →
    Waits s ports a p r (.measured r left)
  | serving {v : Server} : (Server.waiter a r).Waits v → Waits s ports a p r (.serving v)

/-- And at one of these then. -/
inductive Told (a : SocketAddress) (r : Nat) : Stage → Prop
  | serving {v : Server} : (Server.waiter a r).Told v → Told a r (.serving v)
  | finished : Told a r .finished

section Steps

variable {s : Settings} {ports : Ports} {a : SocketAddress} {p : Preamble} {r : Nat}

theorem step_subscribed (hup : StartsUp s ports a p) (sd : Shutdown) :
    step s (.subscribed r ports) sd = Progress.mk (.built r ports) sd p.afterBuild := by
  obtain ⟨app, hbuilt⟩ := hup.built
  unfold step
  dsimp only
  rw [hbuilt]
  rfl

theorem step_built (hup : StartsUp s ports a p) (sd : Shutdown) :
    ∃ left, listen s.listener left = .ok (a, p.bound) ∧
      step s (.built r ports) sd = Progress.mk (.measured r left) sd (p.measured.map .event) := by
  obtain ⟨left, hmeasured, hbound⟩ := hup.bound
  refine ⟨left, hbound, ?_⟩
  unfold step
  dsimp only
  rw [hmeasured]

theorem step_measured {left : Ports} (hbound : listen s.listener left = .ok (a, p.bound))
    (sd : Shutdown) : step s (.measured r left) sd =
      Progress.mk (.serving { address := a, receiver := r }) sd (p.bound.map .event) := by
  unfold step
  dsimp only
  rw [hbound]

theorem step_serving {v : Server} (hv : v.phase ≠ .stopped) (sd : Shutdown) :
    step s (.serving v) sd =
      Progress.mk (.serving (v.step sd).task) (v.step sd).shutdown (v.step sd).output :=
  if_neg hv

theorem step_stopped {v : Server} (hv : v.phase = .stopped) (sd : Shutdown) :
    step s (.serving v) sd = Progress.mk .finished sd [.event shutdownComplete] :=
  if_pos hv

end Steps

/-- The run of a server as a task that waits with its receiver from when it has it. -/
def waiter {s : Settings} {ports : Ports} {a : SocketAddress} {p : Preamble}
    (hup : StartsUp s ports a p) (r : Nat) : Waiter (step s) r where
  Waits := Waits s ports a p r
  Told := Told a r
  rank := Stage.rank
  last := Stage.finished.rank
  log := Stage.log a p
  waits_step := by
    intro stage sd u hwaits hu
    cases hwaits with
    | subscribed =>
      rw [step_subscribed hup]
      exact ⟨rfl, .inl ⟨.built, hu⟩⟩
    | built =>
      obtain ⟨left, hbound, hstep⟩ := step_built (r := r) hup sd
      rw [hstep]
      exact ⟨rfl, .inl ⟨.measured hbound, hu⟩⟩
    | measured hbound =>
      rw [step_measured hbound]
      exact ⟨rfl, .inl ⟨.serving ⟨rfl, rfl, .inl rfl⟩, hu⟩⟩
    | serving hv =>
      rw [step_serving (Server.ne_stopped_of_waits hv)]
      exact ((Server.waiter a r).waits_step hv hu).imp_right
        (.imp (.imp_left .serving) (.imp_left .serving))
  alerted_step := by
    intro stage sd hwaits halerts
    cases hwaits with
    | subscribed =>
      rw [step_subscribed hup]
      exact Nat.lt_succ_self 0
    | built =>
      obtain ⟨left, hbound, hstep⟩ := step_built (r := r) hup sd
      rw [hstep]
      exact Nat.lt_succ_self 1
    | measured hbound =>
      rw [step_measured hbound]
      exact Nat.lt_succ_self 2
    | serving hv =>
      rw [step_serving (Server.ne_stopped_of_waits hv)]
      exact Nat.add_lt_add_left ((Server.waiter a r).alerted_step hv halerts) 3
  told_step := by
    intro stage sd htold
    cases htold with
    | finished => exact ⟨rfl, .finished, Nat.min_le_left _ _⟩
    | @serving v hv =>
      by_cases hstopped : v.phase = .stopped
      · rw [step_stopped hstopped]
        exact ⟨rfl, .finished, Nat.min_le_left _ _⟩
      · rw [step_serving hstopped]
        obtain ⟨hhandles, hv', hrank⟩ := (Server.waiter a r).told_step (s := sd) hv
        refine ⟨hhandles, .serving hv', ?_⟩
        -- It is draining, and one more step is left to the server.
        have hphase := hv.2.2.resolve_right hstopped
        have hnext : (v.step sd).task.phase = .stopped := by
          unfold Server.step
          rw [hphase]
        show min 7 (3 + v.phase.rank + 1) ≤ 3 + (v.step sd).task.phase.rank
        rw [hphase, hnext]
        exact Nat.le_refl 6
  log_step := by
    intro stage sd hstage
    have hserving : ∀ v : Server, v.phase ≠ .stopped →
        (Server.waiter a r).Waits v ∨ (Server.waiter a r).Told v →
        Stage.log a p (step s (.serving v) sd).task =
          Stage.log a p (.serving v) ++ (step s (.serving v) sd).output := by
      intro v hphase hv
      rw [step_serving hphase]
      exact (congrArg (p.output ++ ·) ((Server.waiter a r).log_step hv)).trans
        (List.append_assoc ..).symm
    rcases hstage with hwaits | htold
    · cases hwaits with
      | subscribed =>
        rw [step_subscribed hup]
        rfl
      | built =>
        obtain ⟨left, hbound, hstep⟩ := step_built (r := r) hup sd
        rw [hstep]
        rfl
      | measured hbound =>
        rw [step_measured hbound]
        exact List.append_nil _
      | serving hv => exact hserving _ (Server.ne_stopped_of_waits hv) (.inl hv)
    · cases htold with
      | finished => exact (List.append_nil _).symm
      | @serving v hv =>
        by_cases hstopped : v.phase = .stopped
        · rw [step_stopped hstopped]
          show _ = p.output ++ v.phase.log a ++ _
          rw [hstopped]
          rfl
        · exact hserving v hstopped (.inr hv)

/-- The messages by which a run tells that it serves and how it ends. -/
def servingMessages : List String :=
  [(Server.event "HTTP server starting" []).message, Server.draining.message,
    Server.stopped.message, shutdownComplete.message]

/-- Something that a run puts out only when it serves or after that. -/
def IsServing (o : Output) : Prop := ∃ e, o = .event e ∧ e.message ∈ servingMessages

theorem quiet_of_messages {events : List Log.Event} {known : List String}
    (hknown : ∀ e ∈ events, e.message ∈ known) (hquiet : ∀ m ∈ known, m ∉ servingMessages) :
    ∀ o ∈ events.map Output.event, ¬ IsServing o := by
  rintro o ho ⟨e, rfl, he⟩
  obtain ⟨e', he', heq⟩ := List.mem_map.mp ho
  obtain rfl := Output.event.inj heq
  exact hquiet _ (hknown _ he') he

theorem messages_of_build {s : Settings} {app : Application} {events : List Log.Event}
    (h : Application.build s = .ok (app, events)) : ∀ e ∈ events, e.message ∈
      ["No reporting adapter selected", "Application initialized", "Blueprint registered",
        "Unrecognized adapter, reporting views stay disabled"] := by
  have hs := Application.build_spec s
  rw [h] at hs
  cases hs with
  | bare _ => simp [Application.withoutAdapter, Application.initialized]
  | reports a _ => simp [Application.registered, Application.initialized]
  | skipped name _ _ _ =>
    simp [AdapterChoice.skipped, Application.withoutAdapter, Application.initialized]

theorem messages_of_startMetrics {o : Observability} {ports left : Ports} {events : List Log.Event}
    (h : startMetrics o ports = .ok (events, left)) :
    ∀ e ∈ events, e.message ∈ ["Metrics endpoint listening"] := by
  intro e he
  obtain ⟨a, rfl⟩ := metricsListening_of_startMetrics h e he
  exact List.mem_singleton_self _

theorem messages_of_listen {l : Listener} {ports : Ports} {a : SocketAddress}
    {events : List Log.Event} (h : listen l ports = .ok (a, events)) :
    ∀ e ∈ events, e.message ∈ ["Listener bound"] := by
  intro e he
  rw [listenerBound_of_listen h e he]
  exact List.mem_singleton_self _

/-- What a run puts out before it serves is nothing that it puts out later. -/
theorem StartsUp.quiet {s : Settings} {ports : Ports} {a : SocketAddress} {p : Preamble}
    (hup : StartsUp s ports a p) : ∀ o ∈ p.output, ¬ IsServing o := by
  obtain ⟨⟨app, hbuilt⟩, left, hmeasured, hbound⟩ := hup
  intro o ho
  unfold Preamble.output Preamble.afterMetrics Preamble.afterBuild at ho
  rcases List.mem_append.mp ho with ho | ho
  · rcases List.mem_append.mp ho with ho | ho
    · rcases List.mem_append.mp ho with ho | ho
      · exact quiet_of_messages (messages_of_build hbuilt) (by decide) o ho
      · rintro ⟨e, rfl, _⟩
        cases List.mem_singleton.mp ho
    · exact quiet_of_messages (messages_of_startMetrics hmeasured) (by decide) o ho
  · exact quiet_of_messages (messages_of_listen hbound) (by decide) o ho

theorem Stage.eq_finished_of_rank {stage : Stage} (h : Stage.finished.rank ≤ stage.rank) :
    stage = .finished := by
  cases stage with
  | finished => rfl
  | serving v =>
    have hle : 7 ≤ 3 + v.phase.rank := h
    cases hp : v.phase <;> rw [hp] at hle <;> exact absurd hle (by decide)
  | _ => simp [Stage.rank] at h

theorem ending_of_waits {s : Settings} {ports : Ports} {a : SocketAddress} {p : Preamble} {r : Nat}
    {stage : Stage} (h : Waits s ports a p r stage) : stage.ending = .serving := by
  cases h <;> rfl

theorem draining_not_mem_log {s : Settings} {ports : Ports} {a : SocketAddress} {p : Preamble}
    {r : Nat} (hup : StartsUp s ports a p) {stage : Stage} (h : Waits s ports a p r stage) :
    .event Server.draining ∉ stage.log a p := by
  have hquiet : .event Server.draining ∉ p.output := fun hmem =>
    hup.quiet _ hmem ⟨_, rfl, by decide⟩
  cases h with
  | subscribed => exact nofun
  | built => exact fun hmem => hquiet (List.mem_append_left _ (List.mem_append_left _ hmem))
  | measured _ => exact fun hmem => hquiet (List.mem_append_left _ hmem)
  | serving hv =>
    exact fun hmem => (List.mem_append.mp hmem).elim hquiet (Server.draining_not_mem_log a hv.2.2)

/-- The run has ended and has told once that it does. -/
structure Stopped (a : SocketAddress) (p : Preamble) (w : Shared Stage) : Prop where
  task : w.task = .finished
  own : w.own = p.output ++ [.event (Server.starting a), .event Server.draining,
    .event Server.stopped, .event shutdownComplete]

/-- The run has not ended and its server has not begun to stop. -/
structure GoesOn (w : Shared Stage) : Prop where
  ending : w.task.ending = .serving
  own : .event Server.draining ∉ w.own

section Idle

variable {s : Settings} {ports : Ports} {a : SocketAddress} {p : Preamble} {r : Nat}
  (hup : StartsUp s ports a p)

theorem idle_subscribed {sd : Shutdown} {output : List Output} (hr : sd.unseen? r = some 0) :
    (waiter hup r).Idle 0 (Shared.mk (.subscribed r ports) sd [] output) :=
  ⟨Waits.subscribed, hr, rfl⟩

theorem goesOn_of_idle {u : Nat} {w : Shared Stage} (hw : (waiter hup r).Idle u w) : GoesOn w := by
  obtain ⟨hwaits, _, hlog⟩ := hw
  refine ⟨ending_of_waits hwaits, ?_⟩
  rw [hlog]
  exact draining_not_mem_log hup hwaits

theorem stopped_of_last {w : Shared Stage} (hrank : (waiter hup r).last ≤ (waiter hup r).rank w.task)
    (hlog : w.own = (waiter hup r).log w.task) : Stopped a p w := by
  have hfinished := Stage.eq_finished_of_rank hrank
  rw [hfinished] at hlog
  exact ⟨hfinished, hlog.trans (List.append_assoc ..)⟩

end Idle

/-- A server, and a run of one from when it has its receiver, stop once by whatever there is for the
receiver: any number of signals at any time or the loss of the last handle. -/
theorem stops_once {s : Settings} {ports : Ports} {a : SocketAddress} {p : Preamble}
    (hup : StartsUp s ports a p) {sd : Shutdown} {i : Nat} (hi : sd.isHeld i = true) :
    let r := sd.receivers.length
    EndsWhenTold Server.step r
        { task := { address := a, receiver := r }, shutdown := (sd.step (.subscribe i)).2 } 3
        (Server.Stopped a) Server.GoesOn ∧
      EndsWhenTold (step s) r
        (Shared.turn (step s) { task := .called i ports, shutdown := sd } .own) 7
        (Stopped a p) GoesOn ∧
      ∀ o ∈ p.output, ¬ IsServing o := by
  intro r
  have hsubscribed : sd.step (.subscribe i) = (.receiver r, sd.addReceiver) :=
    Shutdown.step_of_isHeld rfl hi
  have hr : sd.addReceiver.unseen? r = some 0 := by
    rw [Shutdown.unseen?_addReceiver, if_pos rfl]
  have hidle : (waiter hup r).Idle 0
      (Shared.turn (step s) { task := .called i ports, shutdown := sd } .own) := by
    unfold Shared.turn
    dsimp only
    rw [step_called hi]
    exact idle_subscribed hup hr
  rw [hsubscribed]
  exact ⟨Server.ends_when_told hr a, (waiter hup r).endsWhenTold hidle
    (fun _ => stopped_of_last hup) fun _ => goesOn_of_idle hup, hup.quiet⟩

/-- Where a run without any settings listens. -/
def anyAddress : SocketAddress where
  ip := .v4 ⟨0, 0, 0, 0⟩
  port := 8000

/-- What it puts out before it serves. -/
def barePreamble : Preamble where
  built := [Application.withoutAdapter, Application.new.initialized]
  measured := []
  bound := [listenerBound anyAddress]

theorem startsUp_bare : StartsUp {} { assigned := 49152 } anyAddress barePreamble where
  built := ⟨Application.new, Application.build_bare (.inl rfl)⟩
  bound := ⟨{ assigned := 49152 }, rfl, by rfl⟩

/-- Two signals come before anything is built and the handle is lost; the run stops all the same. -/
theorem stops_after_early_signals :
    let run := Shared.turn (step {})
      { task := .called 0 { assigned := 49152 }, shutdown := Shutdown.new } .own
    let early : List Turn := [.command (.trigger 0), .command (.trigger 0), .command (.dropHandle 0)]
    let w := run.run (step {}) (early ++ List.replicate 7 .own)
    StartsUp {} { assigned := 49152 } anyAddress barePreamble ∧ Shutdown.new.isHeld 0 = true ∧
      0 < run.signals (step {}) early ∧ Stopped anyAddress barePreamble w := by
  intro run early w
  have hsome : 0 < run.signals (step {}) early := Nat.lt_add_right _ Nat.one_pos
  have hearly : ∀ t ∈ early, t.Spares 0 := by
    simp [early, Turn.Spares, Shutdown.Command.receiver?]
  have hown : ∀ t ∈ List.replicate 7 Turn.own, t.Spares 0 := fun t ht => by
    rw [List.eq_of_mem_replicate ht]
    exact nofun
  exact ⟨startsUp_bare, by decide, hsome,
    (stops_once startsUp_bare (i := 0) (by decide)).2.1.ended early (List.replicate 7 .own) hearly hown
      (.inl hsome) (by decide)⟩

end Startup

end DevServer
