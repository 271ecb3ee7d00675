import DevServer.Proofs.CommandLine.Variables
import DevServer.Proofs.Serving.Termination
import DevServer.Proofs.Settings.Validity

/-!
# How the command line ends

The arguments, the settings, the adapter, the metrics and the address are looked at in this order.
The first that is at fault ends the program, and what it has put out by then is what those before it
put out: the notice stands between the events of the application and all later ones, once. Exit code
zero is left to a server that came up and was told to stop.
-/
namespace DevServer

set_option autoImplicit false

open Net (Ports SocketAddress)

namespace Signals

open Startup (Stage StartsUp Ending startMetrics listen notice shutdownComplete)

theorem moves_main {s : Settings} (sys : System) (n : Nat) :
    sys.moves s (List.replicate n .main) =
      { sys with run := sys.run.run (Startup.step s) (List.replicate n .own) } := by
  induction n generalizing sys with
  | zero => rfl
  | succ n ih => exact ih (sys.move s .main)

/-- The signal when the run has its receiver and the listener its handle. -/
def subscribed : Shutdown := (Shutdown.new.step (.clone 0)).2.addReceiver

/-- What a run that nobody disturbs comes to. -/
inductive RunSpec (s : Settings) (ports : Ports) (terminated : Bool) : Ending → List Output → Prop
  | notBuilt {fault : AppFault} : Application.build s = .error fault →
    RunSpec s ports terminated (.failed (.app fault)) []
  | notMeasured {app : Application} {built : List Log.Event} {fault : StartupFault} :
    Application.build s = .ok (app, built) → startMetrics s.observability ports = .error fault →
    RunSpec s ports terminated (.failed fault) (built.map .event ++ [.line notice])
  | notBound {app : Application} {built measured : List Log.Event} {left : Ports}
      {fault : StartupFault} :
    Application.build s = .ok (app, built) →
    startMetrics s.observability ports = .ok (measured, left) →
    listen s.listener left = .error fault →
    RunSpec s ports terminated (.failed fault)
      (built.map .event ++ [.line notice] ++ measured.map .event)
  | serving {a : SocketAddress} {p : Startup.Preamble} : StartsUp s ports a p →
    terminated = false →
    RunSpec s ports terminated .serving (p.output ++ [.event (Server.starting a)])
  | stopped {a : SocketAddress} {p : Startup.Preamble} : StartsUp s ports a p →
    terminated = true →
    RunSpec s ports terminated .finished (p.output ++ ([Server.starting a, report (.ok ()),
      Server.draining, Server.stopped, shutdownComplete].map .event))

section Run

variable {s : Settings} {ports : Ports} {w : Shared Stage}

theorem failed_run {fault : StartupFault} (hw : w.task = .failed fault) (n : Nat) :
    (w.run (Startup.step s) (List.replicate n .own)).task = .failed fault ∧
      (w.run (Startup.step s) (List.replicate n .own)).output = w.output := by
  refine Shared.run_keeps (I := fun w' => w'.task = .failed fault ∧ w'.output = w.output)
    (P := (· = .own)) ?_ ⟨hw, rfl⟩ fun t ht => List.eq_of_mem_replicate ht
  rintro w' t rfl ⟨htask, houtput⟩
  rw [Startup.turn_failed htask]
  exact ⟨htask, houtput⟩

/-- A step that fails is the last one that matters. -/
theorem run_failing {r : Nat} {fault : StartupFault}
    (hw : Startup.step s w.task w.shutdown = Startup.fail r fault w.shutdown) (n : Nat) :
    (w.run (Startup.step s) (List.replicate (n + 1) .own)).task = .failed fault ∧
      (w.run (Startup.step s) (List.replicate (n + 1) .own)).output = w.output := by
  have htask : (w.turn (Startup.step s) .own).task = .failed fault := by
    unfold Shared.turn
    rw [hw]
    rfl
  have houtput : (w.turn (Startup.step s) .own).output = w.output := by
    unfold Shared.turn
    rw [hw]
    exact List.append_nil _
  obtain ⟨htask', houtput'⟩ := failed_run (s := s) htask n
  exact ⟨htask', houtput'.trans houtput⟩

theorem turn_started : (System.start ports).run.turn (Startup.step s) .own =
    { task := .subscribed 0 ports, shutdown := subscribed } := rfl

theorem turn_building {app : Application} {built : List Log.Event}
    (hbuilt : Application.build s = .ok (app, built)) :
    Shared.turn (Startup.step s) { task := .subscribed 0 ports, shutdown := subscribed } .own =
      { task := .built 0 ports, shutdown := subscribed,
        own := built.map .event ++ [.line notice], output := built.map .event ++ [.line notice] } := by
  unfold Shared.turn Startup.step
  dsimp only
  rw [hbuilt]
  rfl

theorem turn_measuring {left : Ports} {measured : List Log.Event} {own output : List Output}
    (hmeasured : startMetrics s.observability ports = .ok (measured, left)) :
    Shared.turn (Startup.step s) { task := .built 0 ports, shutdown := subscribed, own, output } .own =
      { task := .measured 0 left, shutdown := subscribed,
        own := own ++ measured.map .event, output := output ++ measured.map .event } := by
  unfold Shared.turn Startup.step
  dsimp only
  rw [hmeasured]

theorem turn_binding {a : SocketAddress} {bound : List Log.Event} {own output : List Output}
    (hbound : listen s.listener ports = .ok (a, bound)) :
    Shared.turn (Startup.step s)
        { task := .measured 0 ports, shutdown := subscribed, own, output } .own =
      { task := .serving { address := a, receiver := 0 }, shutdown := subscribed,
        own := own ++ bound.map .event, output := output ++ bound.map .event } := by
  unfold Shared.turn Startup.step
  dsimp only
  rw [hbound]

end Run

section Failing

variable {s : Settings} {ports : Ports} {r : Nat} {sd : Shutdown}

theorem step_unbuilt {fault : AppFault} (h : Application.build s = .error fault) :
    Startup.step s (.subscribed r ports) sd = Startup.fail r (.app fault) sd := by
  unfold Startup.step
  dsimp only
  rw [h]

theorem step_unmeasured {fault : StartupFault}
    (h : startMetrics s.observability ports = .error fault) :
    Startup.step s (.built r ports) sd = Startup.fail r fault sd := by
  unfold Startup.step
  dsimp only
  rw [h]

theorem step_unbound {fault : StartupFault} (h : listen s.listener ports = .error fault) :
    Startup.step s (.measured r ports) sd = Startup.fail r fault sd := by
  unfold Startup.step
  dsimp only
  rw [h]

end Failing

/-- A server that accepts and is told to stop does. -/
theorem moves_termination {s : Settings} (a : SocketAddress) (own output : List Output) :
    let sys := System.moves s
      { run := { task := .serving { address := a, receiver := 0, phase := .accepting },
                 shutdown := subscribed, own, output } } termination
    sys.run.task = .finished ∧ sys.run.output = output ++ ([report (.ok ()), Server.draining,
      Server.stopped, shutdownComplete].map .event) := by
  refine ⟨by rfl, ?_⟩
  show output ++ [.event (report (.ok ()))] ++ [.event Server.draining] ++ [.event Server.stopped] ++
    [.event shutdownComplete] = _
  simp only [List.append_assoc]
  rfl

/-- The run after the steps in which it comes up. -/
inductive UpSpec (s : Settings) (ports : Ports) : Shared Stage → Prop
  | failed {fault : StartupFault} {up : Shared Stage} : up.task = .failed fault →
    (∀ terminated, RunSpec s ports terminated (.failed fault) up.output) → UpSpec s ports up
  | serving {a : SocketAddress} {p : Startup.Preamble} {own : List Output} : StartsUp s ports a p →
    UpSpec s ports
      { task := .serving { address := a, receiver := 0, phase := .accepting },
        shutdown := subscribed, own, output := p.output ++ [.event (Server.starting a)] }

theorem up_spec (s : Settings) (ports : Ports) :
    UpSpec s ports ((System.start ports).run.run (Startup.step s) (List.replicate 5 .own)) := by
  rw [List.replicate_succ, Shared.run_cons, turn_started]
  cases hbuilt : Application.build s with
  | error fault =>
    obtain ⟨htask, houtput⟩ := run_failing
      (w := { task := .subscribed 0 ports, shutdown := subscribed }) (step_unbuilt hbuilt) 3
    exact .failed htask fun _ => houtput ▸ .notBuilt hbuilt
  | ok r =>
    obtain ⟨app, built⟩ := r
    rw [List.replicate_succ, Shared.run_cons, turn_building hbuilt]
    cases hmeasured : startMetrics s.observability ports with
    | error fault =>
      obtain ⟨htask, houtput⟩ := run_failing
        (w := { task := .built 0 ports, shutdown := subscribed,
                own := built.map .event ++ [.line notice],
                output := built.map .event ++ [.line notice] }) (step_unmeasured hmeasured) 2
      exact .failed htask fun _ => houtput ▸ .notMeasured hbuilt hmeasured
    | ok r =>
      obtain ⟨measured, left⟩ := r
      rw [List.replicate_succ, Shared.run_cons, turn_measuring hmeasured]
      cases hbound : listen s.listener left with
      | error fault =>
        obtain ⟨htask, houtput⟩ := run_failing
          (w := { task := .measured 0 left, shutdown := subscribed,
                  own := built.map .event ++ [.line notice] ++ measured.map .event,
                  output := built.map .event ++ [.line notice] ++ measured.map .event })
          (step_unbound hbound) 1
        exact .failed htask fun _ => houtput ▸ .notBound hbuilt hmeasured hbound
      | ok r =>
        obtain ⟨a, bound⟩ := r
        rw [List.replicate_succ, Shared.run_cons, turn_binding hbound]
        exact .serving (p := ⟨built, measured, bound⟩) ⟨⟨app, hbuilt⟩, left, hmeasured, hbound⟩

theorem run_spec (s : Settings) (ports : Ports) (terminated : Bool) :
    RunSpec s ports terminated (run s ports terminated).run.task.ending
      (run s ports terminated).run.output := by
  have hup := up_spec s ports
  have hrun : run s ports terminated =
      let sys : System :=
        { run := (System.start ports).run.run (Startup.step s) (List.replicate 5 .own) }
      if sys.run.task.isServing && terminated then sys.moves s termination else sys := by
    unfold run
    rw [moves_main]
    rfl
  generalize (System.start ports).run.run (Startup.step s) (List.replicate 5 .own) = up at hup hrun
  cases hup with
  | @failed fault _ htask hspec =>
    rw [if_neg (by rw [htask]; exact Bool.false_ne_true)] at hrun
    rw [hrun]
    dsimp only
    rw [htask]
    exact hspec terminated
  | @serving a p own hstarts =>
    cases terminated with
    | false =>
      rw [hrun]
      exact .serving hstarts rfl
    | true =>
      obtain ⟨htask, houtput⟩ := moves_termination (s := s) a own (p.output ++ [.event (Server.starting a)])
      simp only [Stage.isServing, Bool.and_true, if_true] at hrun
      rw [hrun, htask, houtput, List.append_assoc]
      exact .stopped hstarts rfl

/-- The same settings and ports come to one ending. -/
theorem RunSpec.unique {s : Settings} {ports : Ports} {terminated : Bool} {e e' : Ending}
    {output output' : List Output} (h : RunSpec s ports terminated e output)
    (h' : RunSpec s ports terminated e' output') : e = e' ∧ output = output' := by
  cases h <;> cases h' <;> grind [StartsUp, Startup.Preamble]

end Signals

namespace CommandLine

open Log (Event)
open Signals (RunSpec)
open Startup (Ending StartsUp startMetrics listen notice shutdownComplete)

/-- The lines of events, of those that the filter lets through. -/
def eventLines (w : Surroundings) (time : String) (s : Settings) (events : List Event) :
    List String :=
  let filter := Log.filterFor s.observability.logLevel (textVariable? w directivesVariable)
  events.flatMap fun e => if filter.enables e then linesOf (e.render s.observability.logFormat time)
    else []

/-- The lines of what has been put out. -/
def outputLines (w : Surroundings) (time : String) (s : Settings) (output : List Output) :
    List String :=
  let filter := Log.filterFor s.observability.logLevel (textVariable? w directivesVariable)
  output.flatMap (write filter s.observability.logFormat time)

section Lines

variable {w : Surroundings} {time : String} {s : Settings}

@[simp]
theorem outputLines_append (xs ys : List Output) :
    outputLines w time s (xs ++ ys) = outputLines w time s xs ++ outputLines w time s ys :=
  List.flatMap_append ..

end Lines

/-- The options and the settings that a program goes on with. -/
def Accepted (w : Surroundings) (args : List Argument) (o : Options) (s : Settings) : Prop :=
  Options.ofArguments args = .ok o ∧
    Settings.resolve w.files o.config (environment w) o.overrides = .ok s

/-- How the command line ends, by what is at fault. -/
inductive Ends (w : Surroundings) (time : String) (args : List Argument) : Result → Prop
  | help : Options.ofArguments args = .error .help →
    Ends w time args { exit := some 0, stdout := helpText }
  | usage {fault : UsageFault} : Options.ofArguments args = .error (.fault fault) →
    Ends w time args { exit := some 2, stderr := linesOf ("error: " ++ fault.message) }
  | settings {o : Options} {fault : SettingsFault} : Options.ofArguments args = .ok o →
    Settings.resolve w.files o.config (environment w) o.overrides = .error fault →
    Ends w time args { exit := some 1, stderr := errorLines fault.report }
  | adapter {o : Options} {s : Settings} {name : String} : Accepted w args o s →
    s.strictAdapter = true → s.adapter = some name → Unrecognized name →
    Ends w time args
      { exit := some 1
        stdout := eventLines w time s [started o s]
        stderr := errorLines (AppFault.unknownAdapter ⟨name⟩ |> StartupFault.app).report }
  | metrics {o : Options} {s : Settings} {app : Application} {built : List Event}
      {fault : Net.BindFault} : Accepted w args o s → Application.build s = .ok (app, built) →
    startMetrics s.observability w.ports = .error (.metrics fault) →
    Ends w time args
      { exit := some 1
        stdout := eventLines w time s (started o s :: built) ++ [notice]
        stderr := errorLines (StartupFault.metrics fault).report }
  | bind {o : Options} {s : Settings} {app : Application} {built measured : List Event}
      {left : Ports} {a : SocketAddress} {fault : Net.BindFault} : Accepted w args o s →
    Application.build s = .ok (app, built) →
    startMetrics s.observability w.ports = .ok (measured, left) →
    listen s.listener left = .error (.bind a fault) →
    Ends w time args
      { exit := some 1
        stdout := eventLines w time s (started o s :: built) ++ [notice] ++
          eventLines w time s measured
        stderr := errorLines (StartupFault.bind a fault).report }
  | serving {o : Options} {s : Settings} {a : SocketAddress} {p : Startup.Preamble} :
    Accepted w args o s → StartsUp s w.ports a p → w.interrupted = false →
    Ends w time args
      { exit := none
        stdout := eventLines w time s (started o s :: p.built) ++ [notice] ++
          eventLines w time s (p.measured ++ p.bound ++ [Server.starting a]) }
  | stopped {o : Options} {s : Settings} {a : SocketAddress} {p : Startup.Preamble} :
    Accepted w args o s → StartsUp s w.ports a p → w.interrupted = true →
    Ends w time args
      { exit := some 0
        stdout := eventLines w time s (started o s :: p.built) ++ [notice] ++
          eventLines w time s (p.measured ++ p.bound ++ [Server.starting a,
            Signals.report (.ok ()), Server.draining, Server.stopped, shutdownComplete]) }

/-- What the command line makes of how a run has ended. -/
def resultOf (w : Surroundings) (time : String) (o : Options) (s : Settings) (output : List Output) :
    Ending → Result
  | .finished =>
    { exit := some 0, stdout := outputLines w time s (.event (started o s) :: output) }
  | .serving => { exit := none, stdout := outputLines w time s (.event (started o s) :: output) }
  | .failed fault =>
    { exit := some 1
      stdout := outputLines w time s (.event (started o s) :: output)
      stderr := errorLines fault.report }

variable {w : Surroundings} {time : String} {args : List Argument} {o : Options} {s : Settings}

theorem run_of_spec (h : Accepted w args o s) {e : Ending} {output : List Output}
    (hspec : RunSpec s w.ports w.interrupted e output) :
    run w time args = resultOf w time o s output e := by
  obtain ⟨rfl, rfl⟩ := hspec.unique (Signals.run_spec s w.ports w.interrupted)
  rw [run_of_resolve_ok h.1 h.2]
  unfold runServer resultOf
  cases hending : (Signals.run s w.ports w.interrupted).run.task.ending <;>
    simp only [hending] <;> rfl

end CommandLine
end DevServer
