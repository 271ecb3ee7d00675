import DevServer.Proofs.Serving.Waiting
import DevServer.Startup

/-!
# The stages of a run

Everything that the next step of a run can come to. A step that fails is the last one; no step makes
or drops a handle, so that who can send the signal is for others to decide.
-/
namespace DevServer

set_option autoImplicit false

open Net (Ports SocketAddress)

namespace Server

/-- A server makes and drops no handles. -/
theorem handles_step (v : Server) (sd : Shutdown) : (v.step sd).shutdown.handles = sd.handles := by
  unfold Server.step
  split
  · rfl
  · have hreceived := (Shutdown.frame_receiver (s := sd) (c := .receive v.receiver) rfl).1
    split
    · next heq => rwa [heq] at hreceived
    · next heq =>
      rw [heq] at hreceived
      exact (Shutdown.frame_receiver rfl).1.trans hreceived
  · rfl
  · rfl

end Server

namespace Startup

/-- All that the metrics tell is where they listen. -/
theorem metricsListening_of_startMetrics {o : Observability} {ports left : Ports}
    {events : List Log.Event} (h : startMetrics o ports = .ok (events, left)) :
    ∀ e ∈ events, ∃ a, e = metricsListening a := by
  unfold startMetrics at h
  split at h
  · obtain ⟨rfl, _⟩ := Prod.mk.inj (Except.ok.inj h)
    exact List.forall_mem_nil _
  · split at h
    · cases h
    · split at h
      · cases h
      · obtain ⟨rfl, _⟩ := Prod.mk.inj (Except.ok.inj h)
        exact List.forall_mem_singleton.mpr ⟨_, rfl⟩

theorem listenerBound_of_listen {l : Listener} {ports : Ports} {a : SocketAddress}
    {events : List Log.Event} (h : listen l ports = .ok (a, events)) :
    ∀ e ∈ events, e = listenerBound a := by
  unfold listen at h
  split at h
  · cases h
  · split at h
    · cases h
    · obtain ⟨rfl, rfl⟩ := Prod.mk.inj (Except.ok.inj h)
      exact List.forall_mem_singleton.mpr rfl

/-- What the next step of a run comes to. -/
inductive StepSpec (s : Settings) : Stage → Shutdown → Progress Stage → Prop
  | subscribed {i : Nat} {ports : Ports} {sd : Shutdown} : sd.isHeld i = true →
    StepSpec s (.called i ports) sd
      (Progress.mk (.subscribed sd.receivers.length ports) sd.addReceiver [])
  | gone {i : Nat} {ports : Ports} {sd : Shutdown} : sd.isHeld i = false →
    StepSpec s (.called i ports) sd (Progress.mk (.called i ports) sd [])
  | built {r : Nat} {ports : Ports} {sd : Shutdown} {app : Application} {events : List Log.Event} :
    Application.build s = .ok (app, events) →
    StepSpec s (.subscribed r ports) sd
      (Progress.mk (.built r ports) sd (events.map .event ++ [.line notice]))
  | notBuilt {r : Nat} {ports : Ports} {sd : Shutdown} {fault : AppFault} :
    Application.build s = .error fault →
    StepSpec s (.subscribed r ports) sd (fail r (.app fault) sd)
  | measured {r : Nat} {ports left : Ports} {sd : Shutdown} {events : List Log.Event} :
    startMetrics s.observability ports = .ok (events, left) →
    StepSpec s (.built r ports) sd (Progress.mk (.measured r left) sd (events.map .event))
  | notMeasured {r : Nat} {ports : Ports} {sd : Shutdown} {fault : StartupFault} :
    startMetrics s.observability ports = .error fault →
    StepSpec s (.built r ports) sd (fail r fault sd)
  | bound {r : Nat} {ports : Ports} {sd : Shutdown} {a : SocketAddress} {events : List Log.Event} :
    listen s.listener ports = .ok (a, events) →
    StepSpec s (.measured r ports) sd
      (Progress.mk (.serving { address := a, receiver := r }) sd (events.map .event))
  | notBound {r : Nat} {ports : Ports} {sd : Shutdown} {fault : StartupFault} :
    listen s.listener ports = .error fault →
    StepSpec s (.measured r ports) sd (fail r fault sd)
  | serves {v : Server} {sd : Shutdown} : v.phase ≠ .stopped →
    StepSpec s (.serving v) sd
      (Progress.mk (.serving (v.step sd).task) (v.step sd).shutdown (v.step sd).output)
  | completes {v : Server} {sd : Shutdown} : v.phase = .stopped →
    StepSpec s (.serving v) sd (Progress.mk .finished sd [.event shutdownComplete])
  | finished {sd : Shutdown} : StepSpec s .finished sd (Progress.mk .finished sd [])
  | failed {fault : StartupFault} {sd : Shutdown} :
    StepSpec s (.failed fault) sd (Progress.mk (.failed fault) sd [])

theorem step_spec (s : Settings) (stage : Stage) (sd : Shutdown) :
    StepSpec s stage sd (step s stage sd) := by
  unfold step
  cases stage with
  | called i ports =>
    dsimp only
    cases hi : sd.isHeld i with
    | true =>
      rw [Shutdown.step_of_isHeld (c := .subscribe i) rfl hi]
      exact .subscribed hi
    | false =>
      rw [Shutdown.step_of_not_isHeld (c := .subscribe i) rfl (Bool.eq_false_iff.mp hi)]
      exact .gone hi
  | subscribed r ports =>
    dsimp only
    split
    · next hbuild => exact .notBuilt hbuild
    · next hbuild => exact .built hbuild
  | built r ports =>
    dsimp only
    split
    · next hmetrics => exact .notMeasured hmetrics
    · next hmetrics => exact .measured hmetrics
  | measured r ports =>
    dsimp only
    split
    · next hlisten => exact .notBound hlisten
    · next hlisten => exact .bound hlisten
  | serving v =>
    dsimp only
    split
    · next hv => exact .completes hv
    · next hv => exact .serves hv
  | finished => exact .finished
  | failed fault => exact .failed

theorem step_called {s : Settings} {ports : Ports} {sd : Shutdown} {i : Nat}
    (hi : sd.isHeld i = true) : step s (.called i ports) sd =
      Progress.mk (.subscribed sd.receivers.length ports) sd.addReceiver [] := by
  unfold step
  dsimp only
  rw [Shutdown.step_of_isHeld (c := .subscribe i) rfl hi]

theorem handles_step (s : Settings) (stage : Stage) (sd : Shutdown) :
    (step s stage sd).shutdown.handles = sd.handles := by
  have hs := step_spec s stage sd
  generalize step s stage sd = p at hs
  cases hs with
  | serves _ => exact Server.handles_step _ sd
  | notBuilt _ => exact (Shutdown.frame_receiver rfl).1
  | notMeasured _ => exact (Shutdown.frame_receiver rfl).1
  | notBound _ => exact (Shutdown.frame_receiver rfl).1
  | _ => rfl

/-- A run that has failed does nothing more. -/
theorem turn_failed {s : Settings} {w : Shared Stage} {fault : StartupFault}
    (hw : w.task = .failed fault) : w.turn (step s) .own = w := by
  obtain ⟨task, shutdown, own, output⟩ := w
  obtain rfl : task = .failed fault := hw
  show Shared.mk (Stage.failed fault) shutdown (own ++ []) (output ++ []) = _
  rw [List.append_nil, List.append_nil]

/-- A handle is held until somebody else drops it. -/
theorem isHeld_run {s : Settings} {w : Shared Stage} {i : Nat} (hi : w.shutdown.isHeld i = true)
    {ts : List Turn} (hts : ∀ t ∈ ts, t ≠ .command (.dropHandle i)) :
    (w.run (step s) ts).shutdown.isHeld i = true := by
  refine Shared.run_keeps (I := fun w => w.shutdown.isHeld i = true) ?_ hi hts
  intro w t ht hw
  cases t with
  | own =>
    show (step s w.task w.shutdown).shutdown.isHeld i = true
    unfold Shutdown.isHeld
    rw [handles_step]
    exact hw
  | command c => exact Shutdown.isHeld_step hw fun hc => ht (hc ▸ rfl)
  | output o => exact hw

end Startup

end DevServer
