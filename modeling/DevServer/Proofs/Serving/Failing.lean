import DevServer.Proofs.Serving.Receivers
import DevServer.Proofs.Serving.Stopping

/-!
# Failing on the way up

Five checks stand before a run that serves, and each is at fault or not by itself: the name of the
adapter, the address of the metrics, their port, the address to listen on and its port. A run that
fails does so by the first check that is at fault and by no other, having put out what the checks
before that one let it put out, and nothing from then on. Serving itself has no fault of its own.
Whichever way a run ends it has let go of the receiver that it made.
-/
namespace DevServer

set_option autoImplicit false

open Net (Ports SocketAddress)

namespace Server

/-- What a server puts out in a step is what its phases differ in. -/
theorem log_step (v : Server) (sd : Shutdown) :
    (v.step sd).task.address = v.address ∧
      (v.step sd).task.phase.log v.address = v.phase.log v.address ++ (v.step sd).output := by
  have hphase : (waiter v.address v.receiver).Waits v ∨
      (waiter v.address v.receiver).Told v := by
    cases hv : v.phase with
    | bound => exact .inl ⟨rfl, rfl, .inl hv⟩
    | accepting => exact .inl ⟨rfl, rfl, .inr hv⟩
    | draining => exact .inr ⟨rfl, rfl, .inl hv⟩
    | stopped => exact .inr ⟨rfl, rfl, .inr hv⟩
  refine ⟨?_, (waiter v.address v.receiver).log_step hphase⟩
  unfold Server.step
  split
  · rfl
  · split <;> rfl
  · rfl
  · rfl

end Server

namespace Startup

/-- What is looked at on the way up. -/
inductive Check where
  | adapter
  | metricsAddress
  | metrics
  | listenAddress
  | bind
deriving Repr, DecidableEq

/-- How many checks come before. -/
def Check.rank : Check → Nat
  | .adapter => 0
  | .metricsAddress => 1
  | .metrics => 2
  | .listenAddress => 3
  | .bind => 4

theorem Check.rank_inj {c d : Check} (h : c.rank = d.rank) : c = d := by
  cases c <;> cases d <;> first | rfl | cases h

/-- The ports that the metrics leave. -/
def portsLeft (o : Observability) (ports : Ports) : Ports :=
  match startMetrics o ports with
  | .ok (_, left) => left
  | .error _ => ports

/-- A check is at fault, whatever the others are. -/
inductive Fails (s : Settings) (ports : Ports) : Check → StartupFault → Prop
  | adapter {name : String} : s.strictAdapter = true → s.adapter = some name →
    Unrecognized name → Fails s ports .adapter (.app (.unknownAdapter ⟨name⟩))
  | metricsAddress : s.observability.metricsEnabled = true →
    SocketAddress.ofString? s.observability.metricsAddress = none →
    Fails s ports .metricsAddress (.metricsAddress s.observability.metricsAddress)
  | metrics {a : SocketAddress} {fault : Net.BindFault} : s.observability.metricsEnabled = true →
    SocketAddress.ofString? s.observability.metricsAddress = some a → ports.bind a = .error fault →
    Fails s ports .metrics (.metrics fault)
  | listenAddress : s.listener.socketAddress? = none →
    Fails s ports .listenAddress (.listenAddress s.listener.display)
  | bind {a : SocketAddress} {fault : Net.BindFault} : s.listener.socketAddress? = some a →
    (portsLeft s.observability ports).bind a = .error fault → Fails s ports .bind (.bind a fault)

/-- A check is at fault and none before it is. -/
structure FirstFault (s : Settings) (ports : Ports) (c : Check) (fault : StartupFault) : Prop where
  fails : Fails s ports c fault
  first : ∀ d other, d.rank < c.rank → ¬ Fails s ports d other

/-- What is put out when the application is built. -/
def toldByBuild (s : Settings) : List Output :=
  match Application.build s with
  | .ok (_, events) => events.map .event ++ [.line notice]
  | .error _ => []

/-- What is put out when the metrics have started. -/
def toldByMetrics (o : Observability) (ports : Ports) : List Output :=
  match startMetrics o ports with
  | .ok (events, _) => events.map .event
  | .error _ => []

/-- What a run puts out before a check. -/
def toldBefore (s : Settings) (ports : Ports) : Check → List Output
  | .adapter => []
  | .metricsAddress => toldByBuild s
  | .metrics => toldByBuild s
  | .listenAddress => toldByBuild s ++ toldByMetrics s.observability ports
  | .bind => toldByBuild s ++ toldByMetrics s.observability ports

section Checks

variable {s : Settings} {ports : Ports} {c : Check} {fault : StartupFault}

theorem Fails.unique {other : StartupFault} (h : Fails s ports c fault)
    (h' : Fails s ports c other) : fault = other := by
  cases h with
  | adapter _ hname _ =>
    cases h' with
    | adapter _ hname' _ =>
      rw [hname] at hname'
      rw [Option.some.inj hname']
  | metricsAddress _ _ =>
    cases h' with
    | metricsAddress _ _ => rfl
  | metrics _ ha hbind =>
    cases h' with
    | metrics _ ha' hbind' =>
      rw [ha] at ha'
      obtain rfl := Option.some.inj ha'
      rw [hbind] at hbind'
      rw [Except.error.inj hbind']
  | listenAddress _ =>
    cases h' with
    | listenAddress _ => rfl
  | bind ha hbind =>
    cases h' with
    | bind ha' hbind' =>
      rw [ha] at ha'
      obtain rfl := Option.some.inj ha'
      rw [hbind] at hbind'
      rw [Except.error.inj hbind']

/-- Of several checks at fault one is reported. -/
theorem FirstFault.unique {d : Check} {other : StartupFault} (h : FirstFault s ports c fault)
    (h' : FirstFault s ports d other) : c = d ∧ fault = other := by
  obtain rfl : c = d := by
    rcases Nat.lt_trichotomy c.rank d.rank with hlt | heq | hgt
    · exact absurd h.fails (h'.first _ _ hlt)
    · exact Check.rank_inj heq
    · exact absurd h'.fails (h.first _ _ hgt)
  exact ⟨rfl, h.fails.unique h'.fails⟩

theorem build_eq_error_iff_fails {f : AppFault} :
    Application.build s = .error f ↔ Fails s ports .adapter (.app f) := by
  rw [Application.build_eq_error_iff]
  constructor
  · rintro ⟨hstrict, name, hname, hunknown, rfl⟩
    exact .adapter hstrict hname hunknown
  · rintro (⟨hstrict, hname, hunknown⟩)
    exact ⟨hstrict, _, hname, hunknown, rfl⟩

theorem not_fails_of_build {x : Application × List Log.Event} (h : Application.build s = .ok x) :
    ¬ Fails s ports .adapter fault := by
  intro hfails
  obtain ⟨f, rfl⟩ : ∃ f, fault = .app f := by
    cases hfails with
    | adapter _ _ _ => exact ⟨_, rfl⟩
  rw [build_eq_error_iff_fails.mpr hfails] at h
  cases h

/-- What starting the metrics comes to. -/
inductive MetricsSpec (s : Settings) (ports : Ports) :
    Except StartupFault (List Log.Event × Ports) → Prop
  | started {x : List Log.Event × Ports} :
    (∀ fault, ¬ Fails s ports .metricsAddress fault) → (∀ fault, ¬ Fails s ports .metrics fault) →
    MetricsSpec s ports (.ok x)
  | noAddress {fault : StartupFault} : Fails s ports .metricsAddress fault →
    MetricsSpec s ports (.error fault)
  | noPort {fault : StartupFault} : (∀ fault, ¬ Fails s ports .metricsAddress fault) →
    Fails s ports .metrics fault → MetricsSpec s ports (.error fault)

theorem startMetrics_spec (s : Settings) (ports : Ports) :
    MetricsSpec s ports (startMetrics s.observability ports) := by
  unfold startMetrics
  cases henabled : s.observability.metricsEnabled with
  | false =>
    refine .started (fun fault h => ?_) fun fault h => ?_
    · cases h with
      | metricsAddress h' _ => exact absurd (h'.symm.trans henabled) nofun
    · cases h with
      | metrics h' _ _ => exact absurd (h'.symm.trans henabled) nofun
  | true =>
    simp only [Bool.not_true, Bool.false_eq_true, ↓reduceIte]
    cases ha : SocketAddress.ofString? s.observability.metricsAddress with
    | none => exact .noAddress (.metricsAddress henabled ha)
    | some a =>
      have haddress : ∀ fault, ¬ Fails s ports .metricsAddress fault := fun fault h => by
        cases h with
        | metricsAddress _ h' => exact absurd (h'.symm.trans ha) nofun
      dsimp only
      cases hbind : ports.bind a with
      | error fault => exact .noPort haddress (.metrics henabled ha hbind)
      | ok bound =>
        refine .started haddress fun fault h => ?_
        cases h with
        | metrics _ ha' hbind' =>
          obtain rfl := Option.some.inj (ha.symm.trans ha')
          exact absurd (hbind.symm.trans hbind') nofun

/-- What listening on the ports that are left comes to. -/
inductive ListenSpec (s : Settings) (ports : Ports) :
    Except StartupFault (SocketAddress × List Log.Event) → Prop
  | bound {x : SocketAddress × List Log.Event} :
    (∀ fault, ¬ Fails s ports .listenAddress fault) → (∀ fault, ¬ Fails s ports .bind fault) →
    ListenSpec s ports (.ok x)
  | noAddress {fault : StartupFault} : Fails s ports .listenAddress fault →
    ListenSpec s ports (.error fault)
  | noPort {fault : StartupFault} : (∀ fault, ¬ Fails s ports .listenAddress fault) →
    Fails s ports .bind fault → ListenSpec s ports (.error fault)

theorem listen_spec (s : Settings) (ports : Ports) :
    ListenSpec s ports (listen s.listener (portsLeft s.observability ports)) := by
  unfold listen
  cases ha : s.listener.socketAddress? with
  | none => exact .noAddress (.listenAddress ha)
  | some a =>
    have haddress : ∀ fault, ¬ Fails s ports .listenAddress fault := fun fault h => by
      cases h with
      | listenAddress h' => exact absurd (h'.symm.trans ha) nofun
    dsimp only
    cases hbind : (portsLeft s.observability ports).bind a with
    | error fault => exact .noPort haddress (.bind ha hbind)
    | ok bound =>
      refine .bound haddress fun fault h => ?_
      cases h with
      | bind ha' hbind' =>
        obtain rfl := Option.some.inj (ha.symm.trans ha')
        exact absurd (hbind.symm.trans hbind') nofun

theorem portsLeft_eq {o : Observability} {left : Ports} {events : List Log.Event}
    (h : startMetrics o ports = .ok (events, left)) : portsLeft o ports = left := by
  unfold portsLeft
  rw [h]

theorem toldByBuild_eq {app : Application} {events : List Log.Event}
    (h : Application.build s = .ok (app, events)) :
    toldByBuild s = events.map .event ++ [.line notice] := by
  unfold toldByBuild
  rw [h]

theorem toldByMetrics_eq {o : Observability} {left : Ports} {events : List Log.Event}
    (h : startMetrics o ports = .ok (events, left)) :
    toldByMetrics o ports = events.map .event := by
  unfold toldByMetrics
  rw [h]

/-- A run that fails when the application is built, or after that, does so by its first fault. -/
theorem firstFault_of_build {f : AppFault} (h : Application.build s = .error f) :
    FirstFault s ports .adapter (.app f) where
  fails := build_eq_error_iff_fails.mp h
  first _ _ hlt := absurd hlt (Nat.not_lt_zero _)

theorem firstFault_of_startMetrics {x : Application × List Log.Event}
    (hbuilt : Application.build s = .ok x)
    (h : startMetrics s.observability ports = .error fault) :
    ∃ c, FirstFault s ports c fault ∧ toldBefore s ports c = toldByBuild s := by
  have hs := startMetrics_spec s ports
  rw [h] at hs
  cases hs with
  | noAddress hfails =>
    refine ⟨.metricsAddress, ⟨hfails, fun d other hlt => ?_⟩, rfl⟩
    cases d with
    | adapter => exact not_fails_of_build hbuilt
    | _ => exact absurd hlt (by decide)
  | noPort haddress hfails =>
    refine ⟨.metrics, ⟨hfails, fun d other hlt => ?_⟩, rfl⟩
    cases d with
    | adapter => exact not_fails_of_build hbuilt
    | metricsAddress => exact haddress other
    | _ => exact absurd hlt (by decide)

theorem firstFault_of_listen {x : Application × List Log.Event} {left : Ports}
    {events : List Log.Event} (hbuilt : Application.build s = .ok x)
    (hmeasured : startMetrics s.observability ports = .ok (events, left))
    (h : listen s.listener left = .error fault) :
    ∃ c, FirstFault s ports c fault ∧
      toldBefore s ports c = toldByBuild s ++ toldByMetrics s.observability ports := by
  have hm := startMetrics_spec s ports
  rw [hmeasured] at hm
  have hs := listen_spec s ports
  rw [portsLeft_eq hmeasured, h] at hs
  cases hm with
  | started haddress hport =>
    cases hs with
    | noAddress hfails =>
      refine ⟨.listenAddress, ⟨hfails, fun d other hlt => ?_⟩, rfl⟩
      cases d with
      | adapter => exact not_fails_of_build hbuilt
      | metricsAddress => exact haddress other
      | metrics => exact hport other
      | _ => exact absurd hlt (by decide)
    | noPort hlisten hfails =>
      refine ⟨.bind, ⟨hfails, fun d other hlt => ?_⟩, rfl⟩
      cases d with
      | adapter => exact not_fails_of_build hbuilt
      | metricsAddress => exact haddress other
      | metrics => exact hport other
      | listenAddress => exact hlisten other
      | bind => exact absurd hlt (by decide)

/-- A run that comes up has no check at fault. -/
theorem StartsUp.not_fails {a : SocketAddress} {p : Preamble} (hup : StartsUp s ports a p) :
    ¬ Fails s ports c fault := by
  obtain ⟨⟨app, hbuilt⟩, left, hmeasured, hbound⟩ := hup
  have hm := startMetrics_spec s ports
  rw [hmeasured] at hm
  have hl := listen_spec s ports
  rw [portsLeft_eq hmeasured, hbound] at hl
  cases hm with
  | started haddress hport =>
    cases hl with
    | bound hlisten hbind =>
      cases c with
      | adapter => exact not_fails_of_build hbuilt
      | metricsAddress => exact haddress fault
      | metrics => exact hport fault
      | listenAddress => exact hlisten fault
      | bind => exact hbind fault

end Checks

/-- Where a run can stand that has its receiver, and what it has put out by then. -/
inductive Reached (s : Settings) (ports : Ports) (r : Nat) : Stage → List Output → Prop
  | subscribed : Reached s ports r (.subscribed r ports) []
  | built {x : Application × List Log.Event} : Application.build s = .ok x →
    Reached s ports r (.built r ports) (toldByBuild s)
  | measured {x : Application × List Log.Event} {left : Ports} {events : List Log.Event} :
    Application.build s = .ok x → startMetrics s.observability ports = .ok (events, left) →
    Reached s ports r (.measured r left) (toldByBuild s ++ toldByMetrics s.observability ports)
  | failed {c : Check} {fault : StartupFault} : FirstFault s ports c fault →
    Reached s ports r (.failed fault) (toldBefore s ports c)
  | serving {a : SocketAddress} {p : Preamble} {v : Server} : StartsUp s ports a p →
    v.address = a → Reached s ports r (.serving v) (p.output ++ v.phase.log a)
  | finished {a : SocketAddress} {p : Preamble} : StartsUp s ports a p →
    Reached s ports r .finished
      (p.output ++ Server.Phase.stopped.log a ++ [.event shutdownComplete])

/-- The steps of its own that a run takes until it serves or has failed. -/
def Stage.ahead : Stage → Nat
  | .called _ _ => 4
  | .subscribed _ _ => 3
  | .built _ _ => 2
  | .measured _ _ => 1
  | _ => 0

section Run

variable {s : Settings} {ports : Ports} {r : Nat} {stage : Stage} {own : List Output}

theorem Preamble.output_eq {a : SocketAddress} {p : Preamble} (hup : StartsUp s ports a p) :
    p.output =
      toldByBuild s ++ toldByMetrics s.observability ports ++ p.bound.map Output.event := by
  obtain ⟨⟨app, hbuilt⟩, left, hmeasured, hbound⟩ := hup
  rw [toldByBuild_eq hbuilt, toldByMetrics_eq hmeasured]
  rfl

theorem Reached.step (h : Reached s ports r stage own) (sd : Shutdown) :
    Reached s ports r (step s stage sd).task (own ++ (step s stage sd).output) := by
  have hs := step_spec s stage sd
  generalize Startup.step s stage sd = p at hs
  cases h with
  | subscribed =>
    cases hs with
    | built hbuilt =>
      show Reached s ports r (.built r ports) _
      rw [List.nil_append, ← toldByBuild_eq hbuilt]
      exact .built hbuilt
    | notBuilt hbuilt => exact .failed (firstFault_of_build hbuilt)
  | built hbuilt =>
    cases hs with
    | measured hmeasured =>
      show Reached s ports r (.measured r _) _
      rw [← toldByMetrics_eq hmeasured]
      exact .measured hbuilt hmeasured
    | notMeasured hmeasured =>
      obtain ⟨c, hfirst, htold⟩ := firstFault_of_startMetrics hbuilt hmeasured
      show Reached s ports r (.failed _) (_ ++ [])
      rw [List.append_nil, ← htold]
      exact .failed hfirst
  | @measured x left measured hbuilt hmeasured =>
    cases hs with
    | @bound _ _ _ a bound hbound =>
      obtain ⟨app, built⟩ := x
      have hup : StartsUp s ports a ⟨built, measured, bound⟩ :=
        ⟨⟨app, hbuilt⟩, left, hmeasured, hbound⟩
      have hserving : Reached s ports r (.serving { address := a, receiver := r })
          ((Preamble.mk built measured bound).output ++ []) := .serving hup rfl
      rw [List.append_nil, Preamble.output_eq hup] at hserving
      exact hserving
    | notBound hbound =>
      obtain ⟨c, hfirst, htold⟩ := firstFault_of_listen hbuilt hmeasured hbound
      show Reached s ports r (.failed _) (_ ++ [])
      rw [List.append_nil, ← htold]
      exact .failed hfirst
  | failed hfirst =>
    cases hs with
    | failed =>
      show Reached s ports r (.failed _) (_ ++ [])
      rw [List.append_nil]
      exact .failed hfirst
  | @serving a p v hup ha =>
    subst ha
    cases hs with
    | serves _ =>
      obtain ⟨haddress, hlog⟩ := Server.log_step v sd
      rw [List.append_assoc, ← hlog]
      exact .serving hup haddress
    | completes hstopped =>
      rw [hstopped]
      exact .finished hup
  | finished hup =>
    cases hs with
    | finished =>
      show Reached s ports r .finished (_ ++ [])
      rw [List.append_nil]
      exact .finished hup

theorem Reached.ahead_step (h : Reached s ports r stage own) (sd : Shutdown) :
    (Startup.step s stage sd).task.ahead ≤ stage.ahead - 1 := by
  have hs := step_spec s stage sd
  generalize Startup.step s stage sd = p at hs
  cases h with
  | subscribed =>
    cases hs with
    | built _ => exact Nat.le_refl 2
    | notBuilt _ => exact Nat.zero_le _
  | built _ =>
    cases hs with
    | measured _ => exact Nat.le_refl 1
    | notMeasured _ => exact Nat.zero_le _
  | measured _ _ => cases hs <;> exact Nat.le_refl 0
  | failed _ => cases hs; exact Nat.le_refl 0
  | serving _ _ => cases hs <;> exact Nat.le_refl 0
  | finished _ => cases hs; exact Nat.le_refl 0

theorem Reached.turn {w : Shared Stage} (h : Reached s ports r w.task w.own) (t : Turn) :
    Reached s ports r (w.turn (Startup.step s) t).task (w.turn (Startup.step s) t).own ∧
      (w.turn (Startup.step s) t).task.ahead ≤ w.task.ahead - [t].countP Turn.isOwn := by
  cases t with
  | own => exact ⟨h.step w.shutdown, h.ahead_step w.shutdown⟩
  | command c => exact ⟨h, Nat.le_refl _⟩
  | output o => exact ⟨h, Nat.le_refl _⟩

/-- Whatever others do, a run gets on with each step of its own. -/
theorem Reached.run {w : Shared Stage} (h : Reached s ports r w.task w.own) (ts : List Turn) :
    Reached s ports r (w.run (Startup.step s) ts).task (w.run (Startup.step s) ts).own ∧
      (w.run (Startup.step s) ts).task.ahead ≤ w.task.ahead - ts.countP Turn.isOwn := by
  induction ts generalizing w with
  | nil => exact ⟨h, Nat.le_refl _⟩
  | cons t ts ih =>
    obtain ⟨hturn, hahead⟩ := h.turn t
    obtain ⟨hrun, hahead'⟩ := ih hturn
    have hcount : (t :: ts).countP Turn.isOwn = [t].countP Turn.isOwn + ts.countP Turn.isOwn := by
      rw [← List.countP_append]
      rfl
    refine ⟨hrun, ?_⟩
    rw [Shared.run_cons]
    omega

/-- A run that has no check ahead has failed by its first fault, or there is none. -/
theorem Reached.decided (h : Reached s ports r stage own) (hahead : stage.ahead = 0) :
    (∃ c fault, FirstFault s ports c fault ∧ stage = .failed fault) ∨
      (∀ c fault, ¬ Fails s ports c fault) ∧ (stage.isServing = true ∨ stage = .finished) := by
  cases h with
  | subscribed => cases hahead
  | built _ => cases hahead
  | measured _ _ => cases hahead
  | failed hfirst => exact .inl ⟨_, _, hfirst, rfl⟩
  | serving hup _ => exact .inr ⟨fun _ _ => hup.not_fails, .inl rfl⟩
  | finished hup => exact .inr ⟨fun _ _ => hup.not_fails, .inr rfl⟩

theorem Reached.firstFault {fault : StartupFault} (h : Reached s ports r (.failed fault) own) :
    ∃ c, FirstFault s ports c fault ∧ own = toldBefore s ports c := by
  cases h with
  | failed hfirst => exact ⟨_, hfirst, rfl⟩

end Run

section Told

variable {s : Settings} {ports : Ports} {c : Check} {e : Log.Event}

theorem count_notice_events (events : List Log.Event) :
    (events.map Output.event).count (.line notice) = 0 := by
  rw [List.count_eq_zero]
  intro h
  obtain ⟨e, _, he⟩ := List.mem_map.mp h
  cases he

theorem count_notice_toldByBuild {x : Application × List Log.Event}
    (h : Application.build s = .ok x) : (toldByBuild s).count (.line notice) = 1 := by
  rw [toldByBuild_eq h, List.count_append, count_notice_events]
  rfl

theorem count_notice_toldByMetrics (o : Observability) (ports : Ports) :
    (toldByMetrics o ports).count (.line notice) = 0 := by
  unfold toldByMetrics
  split
  · exact count_notice_events _
  · rfl

theorem count_notice_log (a : SocketAddress) (phase : Server.Phase) :
    (phase.log a).count (.line notice) = 0 := by
  cases phase with
  | bound => rfl
  | accepting => exact count_notice_events [_]
  | draining => exact count_notice_events [_, _]
  | stopped => exact count_notice_events [_, _, _]

theorem count_notice_output {a : SocketAddress} {p : Preamble} (hup : StartsUp s ports a p) :
    p.output.count (.line notice) = 1 := by
  obtain ⟨app, hbuilt⟩ := hup.built
  rw [Preamble.output_eq hup, List.count_append, List.count_append, count_notice_toldByBuild hbuilt,
    count_notice_toldByMetrics, count_notice_events]

/-- The notice is told once as soon as the adapter has been looked at and is not at fault. -/
theorem Reached.count_notice {r : Nat} {stage : Stage} {own : List Output}
    (h : Reached s ports r stage own) :
    (stage.ahead = 3 ∨ ∃ fault, Fails s ports .adapter fault) ∧ own.count (.line notice) = 0 ∨
      (∀ fault, ¬ Fails s ports .adapter fault) ∧ own.count (.line notice) = 1 := by
  cases h with
  | subscribed => exact .inl ⟨.inl rfl, rfl⟩
  | built hbuilt =>
    exact .inr ⟨fun _ => not_fails_of_build hbuilt, count_notice_toldByBuild hbuilt⟩
  | measured hbuilt _ =>
    refine .inr ⟨fun _ => not_fails_of_build hbuilt, ?_⟩
    rw [List.count_append, count_notice_toldByBuild hbuilt, count_notice_toldByMetrics]
  | @failed c fault hfirst =>
    by_cases hc : c = .adapter
    · subst hc
      exact .inl ⟨.inr ⟨fault, hfirst.fails⟩, rfl⟩
    · have hpassed : ∀ fault, ¬ Fails s ports .adapter fault := fun other =>
        hfirst.first .adapter other (Nat.pos_of_ne_zero fun hzero => hc (Check.rank_inj hzero))
      refine .inr ⟨hpassed, ?_⟩
      cases hbuilt : Application.build s with
      | error f => exact absurd (build_eq_error_iff_fails.mp hbuilt) (hpassed _)
      | ok x =>
        have hbuild := count_notice_toldByBuild hbuilt
        cases c with
        | adapter => exact absurd rfl hc
        | metricsAddress => exact hbuild
        | metrics => exact hbuild
        | listenAddress =>
          exact List.count_append.trans (by rw [hbuild, count_notice_toldByMetrics])
        | bind => exact List.count_append.trans (by rw [hbuild, count_notice_toldByMetrics])
  | serving hup _ =>
    refine .inr ⟨fun _ => hup.not_fails, ?_⟩
    rw [List.count_append, count_notice_output hup, count_notice_log]
  | finished hup =>
    refine .inr ⟨fun _ => hup.not_fails, ?_⟩
    rw [List.count_append, List.count_append, count_notice_output hup, count_notice_log]
    rfl

/-- The messages by which a run tells that it listens, that it serves and how it ends. -/
def laterMessages : List String := (listenerBound anyAddress).message :: servingMessages

theorem unheard_of_messages {events : List Log.Event} {known : List String}
    (hknown : ∀ e ∈ events, e.message ∈ known) (hquiet : ∀ m ∈ known, m ∉ laterMessages)
    (h : .event e ∈ events.map Output.event) : e.message ∉ laterMessages := by
  obtain ⟨e', he', heq⟩ := List.mem_map.mp h
  obtain rfl := Output.event.inj heq
  exact hquiet _ (hknown _ he')

theorem unheard_of_toldByBuild (h : .event e ∈ toldByBuild s) : e.message ∉ laterMessages := by
  unfold toldByBuild at h
  split at h
  · next hbuilt =>
    rcases List.mem_append.mp h with h | h
    · exact unheard_of_messages (messages_of_build hbuilt) (by decide) h
    · cases List.mem_singleton.mp h
  · cases h

theorem unheard_of_toldByMetrics {o : Observability} (h : .event e ∈ toldByMetrics o ports) :
    e.message ∉ laterMessages := by
  unfold toldByMetrics at h
  split at h
  · next hmeasured =>
    exact unheard_of_messages (messages_of_startMetrics hmeasured) (by decide) h
  · cases h

/-- Nothing that is told before a check says that the run listens or serves. -/
theorem unheard_of_toldBefore (h : .event e ∈ toldBefore s ports c) :
    e.message ∉ laterMessages := by
  have hboth : .event e ∈ toldByBuild s ++ toldByMetrics s.observability ports →
      e.message ∉ laterMessages := fun h =>
    (List.mem_append.mp h).elim unheard_of_toldByBuild unheard_of_toldByMetrics
  cases c with
  | adapter => cases h
  | metricsAddress => exact unheard_of_toldByBuild h
  | metrics => exact unheard_of_toldByBuild h
  | listenAddress => exact hboth h
  | bind => exact hboth h

end Told

theorem failed_stays {s : Settings} {w : Shared Stage} {fault : StartupFault}
    (hw : w.task = .failed fault) (ts : List Turn) :
    (w.run (step s) ts).task = .failed fault ∧ (w.run (step s) ts).own = w.own := by
  refine Shared.run_keeps (I := fun w' => w'.task = .failed fault ∧ w'.own = w.own)
    (P := fun _ => True) ?_ ⟨hw, rfl⟩ fun _ _ => trivial
  rintro w' t - ⟨htask, hown⟩
  cases t with
  | command c => exact ⟨htask, hown⟩
  | output o => exact ⟨htask, hown⟩
  | own =>
    rw [turn_failed htask]
    exact ⟨htask, hown⟩

/-- Somebody else makes no receiver and lets go of none. -/
def Undisturbing (t : Turn) : Prop :=
  ∀ c, t = .command c → (∀ i, c ≠ .subscribe i) ∧ ∀ r, c ≠ .drop r

/-- What a run has come to after some turns, of which others may have taken any. -/
structure EndsByFirstFault (s : Settings) (ports : Ports) (start : Shared Stage)
    (turns : List Turn) (w : Shared Stage) : Prop where
  /-- It fails by the first fault only, and has put out what came before that. -/
  failed : ∀ fault, w.task = .failed fault →
    ∃ c, FirstFault s ports c fault ∧ w.own = toldBefore s ports c
  /-- It does fail by the first fault if there is one. -/
  fails : 4 ≤ turns.countP Turn.isOwn → ∀ c fault, FirstFault s ports c fault →
    w.task = .failed fault
  /-- Otherwise no check is at fault and the run comes up. -/
  comesUp : 4 ≤ turns.countP Turn.isOwn → (∀ c fault, ¬ FirstFault s ports c fault) →
    (∀ c fault, ¬ Fails s ports c fault) ∧ (w.task.isServing = true ∨ w.task = .finished)
  /-- Once it has failed it puts out nothing more, whoever does what. -/
  stays : ∀ fault, w.task = .failed fault → ∀ us : List Turn,
    (w.run (step s) us).task = .failed fault ∧ (w.run (step s) us).own = w.own
  unheard : ∀ fault, w.task = .failed fault → ∀ e, .event e ∈ w.own → e.message ∉ laterMessages
  noticed : (∀ fault, ¬ Fails s ports .adapter fault) → 2 ≤ turns.countP Turn.isOwn →
    w.own.count (.line notice) = 1
  unnoticed : ∀ fault, Fails s ports .adapter fault → .line notice ∉ w.own
  /-- However it ends, there are as many receivers as others have left. -/
  receivers : w.task.ending ≠ .serving →
    w.shutdown.receiverCount + start.tally (step s) Shutdown.releases turns =
      start.shutdown.receiverCount + start.tally (step s) Shutdown.subscribes turns
  undisturbed : w.task.ending ≠ .serving → (∀ t ∈ turns, Undisturbing t) →
    w.shutdown.receiverCount = start.shutdown.receiverCount

theorem tally_of_undisturbing {s : Settings} (w : Shared Stage) {ts : List Turn}
    (hts : ∀ t ∈ ts, Undisturbing t) :
    w.tally (step s) Shutdown.subscribes ts = 0 ∧ w.tally (step s) Shutdown.releases ts = 0 := by
  constructor
  · refine Shared.tally_eq_zero w fun t ht sd => ?_
    cases t with
    | command c =>
      cases c with
      | subscribe i => exact absurd rfl ((hts _ ht _ rfl).1 i)
      | _ => rfl
    | _ => rfl
  · refine Shared.tally_eq_zero w fun t ht sd => ?_
    cases t with
    | command c =>
      cases c with
      | drop r => exact absurd rfl ((hts _ ht _ rfl).2 r)
      | _ => rfl
    | _ => rfl

theorem receiver?_of_ending {stage : Stage} (h : stage.ending ≠ .serving) :
    stage.receiver? = none := by
  cases stage with
  | finished => rfl
  | failed fault => rfl
  | _ => exact absurd rfl h

/-- Where a run stands that has taken its first step, with the receivers that there are. -/
theorem reached_of_called (s : Settings) (ports : Ports) {sd : Shutdown} {i : Nat}
    (hi : sd.isHeld i = true) {ts : List Turn} (hts : ∀ t ∈ ts, t.Spares sd.receivers.length) :
    let start : Shared Stage := { task := .called i ports, shutdown := sd }
    let w := start.run (step s) (.own :: ts)
    Reached s ports sd.receivers.length w.task w.own ∧
      w.task.ahead ≤ 4 - (Turn.own :: ts).countP Turn.isOwn ∧
      ∃ m, m + start.tally (step s) Shutdown.releases (.own :: ts) =
          sd.receiverCount + start.tally (step s) Shutdown.subscribes (.own :: ts) ∧
        Shutdown.Holding sd.receivers.length m w.shutdown w.task.receiver? := by
  intro start w
  have hturn : start.turn (step s) .own =
      { task := .subscribed sd.receivers.length ports, shutdown := sd.addReceiver } := by
    unfold Shared.turn
    dsimp only [start]
    rw [step_called hi]
    rfl
  have hw : w = Shared.run (step s)
      { task := .subscribed sd.receivers.length ports, shutdown := sd.addReceiver } ts :=
    congrArg (Shared.run (step s) · ts) hturn
  have hcount : (Turn.own :: ts).countP Turn.isOwn = ts.countP Turn.isOwn + 1 :=
    List.countP_cons_of_pos rfl
  obtain ⟨hreached, hahead⟩ := Reached.run (w := Shared.mk (.subscribed sd.receivers.length ports)
    sd.addReceiver [] []) (Reached.subscribed (s := s)) ts
  rw [hw, Shared.tally_own, Shared.tally_own, hturn]
  refine ⟨hreached, ?_, holding_run (w := Shared.mk _ _ [] []) rfl (.subscribe rfl) hts⟩
  exact Nat.le_trans hahead (by rw [hcount]; show 3 - _ ≤ _; omega)

/-- Whatever the settings, the ports and the signal are and whatever others do in between, a run
that gets its turns fails by the first check at fault, or comes up if there is none. -/
theorem fails_by_first_fault {s : Settings} {ports : Ports} {sd : Shutdown} {i : Nat}
    (hi : sd.isHeld i = true) {ts : List Turn} (hts : ∀ t ∈ ts, t.Spares sd.receivers.length) :
    let start : Shared Stage := { task := .called i ports, shutdown := sd }
    EndsByFirstFault s ports start (.own :: ts) (start.run (step s) (.own :: ts)) := by
  intro start
  obtain ⟨hreached, hahead, m, hm, hholding⟩ := reached_of_called s ports hi hts
  generalize start.run (step s) (.own :: ts) = w at hreached hahead hholding ⊢
  have hfirst : ∀ fault, w.task = .failed fault →
      ∃ c, FirstFault s ports c fault ∧ w.own = toldBefore s ports c := fun fault htask => by
    rw [htask] at hreached
    exact hreached.firstFault
  have hbalance : w.task.ending ≠ .serving →
      w.shutdown.receiverCount + start.tally (step s) Shutdown.releases (.own :: ts) =
        sd.receiverCount + start.tally (step s) Shutdown.subscribes (.own :: ts) := fun hend => by
    rw [receiver?_of_ending hend] at hholding
    cases hholding with
    | free hfree => rw [hfree, hm]
  constructor
  case failed => exact hfirst
  case fails =>
    intro hturns c fault hfault
    obtain ⟨d, other, hother, htask⟩ | ⟨hnone, _⟩ := hreached.decided (by omega)
    · rw [(hfault.unique hother).2, htask]
    · exact absurd hfault.fails (hnone c fault)
  case comesUp =>
    intro hturns hnone
    obtain ⟨c, fault, hfault, _⟩ | hup := hreached.decided (by omega)
    · exact absurd hfault (hnone c fault)
    · exact hup
  case stays => exact fun fault htask us => failed_stays htask us
  case unheard =>
    intro fault htask e he
    obtain ⟨c, _, hown⟩ := hfirst fault htask
    rw [hown] at he
    exact unheard_of_toldBefore he
  case noticed =>
    intro hpassed hturns
    obtain ⟨hthree | ⟨fault, hfault⟩, _⟩ | ⟨_, honce⟩ := hreached.count_notice
    · omega
    · exact absurd hfault (hpassed fault)
    · exact honce
  case unnoticed =>
    intro fault hfault
    obtain ⟨_, hcount⟩ | ⟨hpassed, _⟩ := hreached.count_notice
    · exact List.count_eq_zero.mp hcount
    · exact absurd hfault (hpassed fault)
  case receivers => exact hbalance
  case undisturbed =>
    intro hend hothers
    obtain ⟨hmade, hdropped⟩ := tally_of_undisturbing (s := s) start hothers
    have hcount := hbalance hend
    rw [hmade, hdropped] at hcount
    exact hcount

/-- The port is taken, and while the run comes up somebody else makes a receiver and sends a signal:
the run fails by the port, has told of no listener, and leaves the other's receiver alone. -/
theorem taken_port_ends_run :
    let ports : Ports := { taken := [anyAddress], assigned := 49152 }
    let turns : List Turn :=
      [.own, .command (.subscribe 0), .own, .command (.trigger 0), .own, .own, .own]
    let w := Shared.run (step {}) { task := .called 0 ports, shutdown := Shutdown.new } turns
    Shutdown.new.isHeld 0 = true ∧ (∀ t ∈ turns.tail, t.Spares 0) ∧
      FirstFault {} ports .bind (.bind anyAddress .inUse) ∧
      w.task = .failed (.bind anyAddress .inUse) ∧ w.own = toldByBuild {} ∧
      w.own.count (.line notice) = 1 ∧ w.shutdown.receiverCount = 1 := by
  intro ports turns w
  have hspares : ∀ t ∈ turns.tail, t.Spares 0 := by
    simp [turns, Turn.Spares, Shutdown.Command.receiver?]
  have hmeasured : startMetrics {} ports = .ok ([], ports) := rfl
  obtain ⟨c, hfirst, htold⟩ : ∃ c, FirstFault {} ports c (.bind anyAddress .inUse) ∧
      toldBefore {} ports c = toldByBuild {} ++ toldByMetrics {} ports :=
    firstFault_of_listen (Application.build_bare (.inl rfl)) hmeasured (by rfl)
  have hends : EndsByFirstFault {} ports { task := .called 0 ports, shutdown := Shutdown.new } turns
      w := fails_by_first_fault (i := 0) (by decide) hspares
  obtain rfl : c = .bind := by
    cases hfirst.fails
    rfl
  have htask := hends.fails (by decide) .bind _ hfirst
  obtain ⟨d, hfirst', hown⟩ := hends.failed _ htask
  obtain ⟨rfl, _⟩ := hfirst.unique hfirst'
  refine ⟨by decide, hspares, hfirst, htask, ?_, ?_, ?_⟩
  · rw [hown, htold]
    exact List.append_nil _
  · exact hends.noticed (fun fault => hfirst.first .adapter fault (by decide)) (by decide)
  · exact hends.receivers (htask ▸ by decide)

end Startup

end DevServer
