import DevServer.Proofs.Log.Lines
import DevServer.Proofs.Net.Lines
import DevServer.Proofs.Serving.Termination

/-!
# What is put out on one line

Everything that a run and its listener put out is contained, in any order of their turns, but for two
events that show a text as it is: the warning about a name that is no adapter's, which a run puts out
first of all, and the report of why there is no waiting for the operating system.
-/
namespace DevServer

set_option autoImplicit false

open Net (Ports SocketAddress)
open Text (Unbroken)

/-- The settings name an adapter that there is none of, and want no more than a warning. -/
structure Settings.WarnsOf (s : Settings) (name : String) : Prop where
  adapter : s.adapter = some name
  unrecognized : Unrecognized name
  lenient : s.strictAdapter = false

/-- Nothing that is put out as it is has a line end. -/
def Output.Contained : Output → Prop
  | .event e => e.Contained
  | .line s => Unbroken s

theorem Output.contained_events {events : List Log.Event} (h : ∀ e ∈ events, e.Contained) :
    ∀ o ∈ events.map Output.event, o.Contained := List.forall_mem_map.mpr h

/-- The warning about a name that is no adapter's. -/
def Settings.Warning (s : Settings) (o : Output) : Prop :=
  ∃ name, s.WarnsOf name ∧ o = .event (AdapterChoice.skipped name)

theorem AdapterChoice.contained_skipped_iff {name : String} :
    (skipped name).Contained ↔ Unbroken name :=
  Log.Event.contained_shown_iff (by decide) (by decide) (by decide)

/-- What settings make a program put out: a warning first, if they want one, and nothing else that is
not contained. -/
inductive Settings.Tells (s : Settings) : List Output → Prop
  | warning {name : String} {rest : List Output} : s.WarnsOf name → (∀ o ∈ rest, o.Contained) →
    Tells s (.event (AdapterChoice.skipped name) :: rest)
  | contained {output : List Output} : (∀ name, ¬ s.WarnsOf name) → (∀ o ∈ output, o.Contained) →
    Tells s output

namespace Settings.Tells

variable {s : Settings} {output rest : List Output}

theorem append (h : s.Tells output) (hrest : ∀ o ∈ rest, o.Contained) : s.Tells (output ++ rest) := by
  cases h with
  | warning hwarns hcontained =>
    exact .warning hwarns (List.forall_mem_append.mpr ⟨hcontained, hrest⟩)
  | contained hnone hcontained =>
    exact .contained hnone (List.forall_mem_append.mpr ⟨hcontained, hrest⟩)

theorem forall_mem (h : s.Tells output) : ∀ o ∈ output, o.Contained ∨ s.Warning o := by
  cases h with
  | warning hwarns hcontained =>
    exact List.forall_mem_cons.mpr ⟨.inr ⟨_, hwarns, rfl⟩, fun o ho => .inl (hcontained o ho)⟩
  | contained _ hcontained => exact fun o ho => .inl (hcontained o ho)

end Settings.Tells

/-- What holds of all that a task puts out in a step and of all that others put out, holds of all
that is put out in a run. -/
theorem Shared.forall_mem_output {σ : Type} {step : Task σ} {P : Output → Prop}
    (hstep : ∀ task sd, ∀ o ∈ (step task sd).output, P o) {w : Shared σ} (hw : ∀ o ∈ w.output, P o)
    {ts : List Turn} (hts : ∀ o, .output o ∈ ts → P o) : ∀ o ∈ (w.run step ts).output, P o := by
  refine Shared.run_keeps (I := fun w => ∀ o ∈ w.output, P o) (P := fun t => ∀ o, t = .output o → P o)
    ?_ hw fun t ht o he => hts o (he ▸ ht)
  intro w t ht hw
  cases t with
  | own => exact List.forall_mem_append.mpr ⟨hw, hstep w.task w.shutdown⟩
  | command c => exact hw
  | output o => exact List.forall_mem_append.mpr ⟨hw, List.forall_mem_singleton.mpr (ht o rfl)⟩

namespace Server

theorem contained_event {message : String} (hmessage : Unbroken message) :
    (event message []).Contained :=
  Log.Event.contained_mk (by decide) hmessage nofun

theorem contained_addressed {message : String} (hmessage : Unbroken message) (a : SocketAddress) :
    (event message [addressField a]).Contained :=
  (Log.Event.contained_shown_iff (by decide) hmessage (by decide)).mpr a.unbroken_render

theorem contained_starting (a : SocketAddress) : (starting a).Contained :=
  contained_addressed (by decide) a

theorem contained_draining : draining.Contained := contained_event (by decide)

theorem contained_stopped : stopped.Contained := contained_event (by decide)

theorem contained_step (v : Server) (sd : Shutdown) : ∀ o ∈ (v.step sd).output, o.Contained := by
  unfold Server.step
  split
  · exact List.forall_mem_singleton.mpr (contained_starting v.address)
  · split
    · exact List.forall_mem_nil _
    · exact List.forall_mem_singleton.mpr contained_draining
  · exact List.forall_mem_singleton.mpr contained_stopped
  · exact List.forall_mem_nil _

end Server

namespace Application

theorem contained_withoutAdapter : withoutAdapter.Contained :=
  Log.Event.contained_mk (by decide) (by decide) nofun

/-- The name of a blueprint is written between quotes. -/
theorem contained_registered (name : String) : (registered name).Contained :=
  Log.Event.contained_mk (by decide) (by decide)
    (List.forall_mem_singleton.mpr (.text (by decide) name))

theorem contained_initialized (app : Application) : app.initialized.Contained := by
  refine Log.Event.contained_mk (by decide) (by decide) ?_
  rw [List.forall_mem_cons, List.forall_mem_singleton]
  exact ⟨.shown (by decide) (Text.Quoted.unbroken_quoteOption _),
    .shown (by decide) (Text.Quoted.unbroken_quoteList _)⟩

/-- Only the warning, which comes first, shows a text as it is. -/
theorem tells_of_build {s : Settings} {app : Application} {events : List Log.Event}
    (h : build s = .ok (app, events)) : s.Tells (events.map .event) := by
  have hbare : ∀ e ∈ [withoutAdapter, new.initialized], e.Contained :=
    List.forall_mem_cons.mpr ⟨contained_withoutAdapter,
      List.forall_mem_singleton.mpr (contained_initialized new)⟩
  have hs := build_spec s
  rw [h] at hs
  cases hs with
  | bare hn =>
    exact .contained (fun _ hw => hw.unrecognized.ne_of_bare hn hw.adapter)
      (Output.contained_events hbare)
  | reports a hn =>
    have hnone : ∀ name, ¬ s.WarnsOf name := fun name hw =>
      hw.unrecognized.ne_name a (Option.some.inj (hw.adapter.symm.trans hn))
    exact .contained hnone (Output.contained_events (List.forall_mem_cons.mpr
      ⟨contained_registered _, List.forall_mem_singleton.mpr (contained_initialized _)⟩))
  | skipped name hn hu hlenient =>
    exact .warning ⟨hn, hu, hlenient⟩ (Output.contained_events hbare)

end Application

namespace Startup

theorem unbroken_notice : Unbroken notice := by decide

theorem tells_of_built {s : Settings} {app : Application} {events : List Log.Event}
    (h : Application.build s = .ok (app, events)) :
    s.Tells (events.map .event ++ [.line notice]) :=
  (Application.tells_of_build h).append (List.forall_mem_singleton.mpr unbroken_notice)

theorem contained_shutdownComplete : shutdownComplete.Contained :=
  Log.Event.contained_mk (by decide) (by decide) nofun

theorem contained_metricsListening (a : SocketAddress) : (metricsListening a).Contained :=
  (Log.Event.contained_shown_iff (by decide) (by decide) (by decide)).mpr a.unbroken_render

theorem contained_of_startMetrics {o : Observability} {ports left : Ports} {events : List Log.Event}
    (h : startMetrics o ports = .ok (events, left)) : ∀ e ∈ events, e.Contained := by
  intro e he
  obtain ⟨a, rfl⟩ := metricsListening_of_startMetrics h e he
  exact contained_metricsListening a

theorem contained_of_listen {l : Listener} {ports : Ports} {a : SocketAddress}
    {events : List Log.Event} (h : listen l ports = .ok (a, events)) : ∀ e ∈ events, e.Contained := by
  intro e he
  rw [listenerBound_of_listen h e he]
  exact Server.contained_addressed (by decide) a

/-- What a run puts out before it serves. -/
theorem StartsUp.tells {s : Settings} {ports : Ports} {a : SocketAddress} {p : Preamble}
    (hup : StartsUp s ports a p) : s.Tells p.output := by
  obtain ⟨⟨app, hbuilt⟩, left, hmeasured, hbound⟩ := hup
  have hmeasured := Output.contained_events (contained_of_startMetrics hmeasured)
  have hbound := Output.contained_events (contained_of_listen hbound)
  exact ((tells_of_built hbuilt).append hmeasured).append hbound

/-- What a run puts out in one step. -/
theorem contained_step (s : Settings) (stage : Stage) (sd : Shutdown) :
    ∀ o ∈ (step s stage sd).output, o.Contained ∨ s.Warning o := by
  have hs := step_spec s stage sd
  generalize step s stage sd = p at hs
  cases hs with
  | built hbuild => exact (tells_of_built hbuild).forall_mem
  | measured hmetrics =>
    exact fun o ho => .inl (Output.contained_events (contained_of_startMetrics hmetrics) o ho)
  | bound hlisten =>
    exact fun o ho => .inl (Output.contained_events (contained_of_listen hlisten) o ho)
  | serves _ => exact fun o ho => .inl (Server.contained_step _ sd o ho)
  | completes _ => exact List.forall_mem_singleton.mpr (.inl contained_shutdownComplete)
  | _ => exact nofun

end Startup

namespace Signals

theorem contained_report_ok : (report (.ok ())).Contained :=
  Log.Event.contained_mk (by decide) (by decide) nofun

theorem contained_report_error_iff {reason : String} :
    (report (.error reason)).Contained ↔ Unbroken reason :=
  Log.Event.contained_shown_iff (by decide) (by decide) (by decide)

/-- A listener puts out how its waiting has ended, and nothing else. -/
theorem Listener.reported_of_mem_turnsIn {l : Listener} {ms : List Move} {o : Output}
    (h : .output o ∈ l.turnsIn ms) :
    ∃ outcome, o = .event (report outcome) ∧ (l = .resolved outcome ∨ .resolve outcome ∈ ms) := by
  induction ms generalizing l with
  | nil => cases h
  | cons m ms ih =>
    cases m with
    | main =>
      obtain ⟨outcome, ho, hsource⟩ := ih ((List.mem_cons.mp h).resolve_left nofun)
      exact ⟨outcome, ho, hsource.imp_right (List.mem_cons_of_mem _)⟩
    | resolve outcome' =>
      obtain ⟨outcome, ho, hsource⟩ := ih h
      refine ⟨outcome, ho, ?_⟩
      rcases hsource with hl | hms
      · cases l with
        | waiting =>
          obtain rfl := Listener.resolved.inj hl
          exact .inr (List.mem_cons_self ..)
        | _ => exact .inl hl
      · exact .inr (List.mem_cons_of_mem _ hms)
    | listener =>
      rcases List.mem_append.mp h with hturn | hrest
      · cases takes_of_mem_turns hturn with
        | report outcome => exact ⟨outcome, rfl, .inl rfl⟩
      · obtain ⟨outcome, ho, hsource⟩ := ih hrest
        refine ⟨outcome, ho, .inr ?_⟩
        rcases hsource with hl | hms
        · cases l <;> cases hl
        · exact List.mem_cons_of_mem _ hms

/-- The report of why waiting has failed in one of the moves. -/
def Failure (ms : List Move) (o : Output) : Prop :=
  ∃ reason, .resolve (.error reason) ∈ ms ∧ o = .event (report (.error reason))

/-- What a run and its listener put out, in any order of their moves. -/
theorem contained_moves (s : Settings) (ports : Ports) (ms : List Move) :
    ∀ o ∈ ((System.start ports).moves s ms).run.output,
      o.Contained ∨ s.Warning o ∨ Failure ms o := by
  rw [System.moves_eq]
  refine Shared.forall_mem_output (fun stage sd o ho => ?_) nofun fun o ho => ?_
  · exact (Startup.contained_step s stage sd o ho).imp_right .inl
  · obtain ⟨outcome, rfl, hsource⟩ := Listener.reported_of_mem_turnsIn ho
    have hms : .resolve outcome ∈ ms := hsource.resolve_left nofun
    cases outcome with
    | ok _ => exact .inl contained_report_ok
    | error reason => exact .inr (.inr ⟨reason, hms, rfl⟩)

end Signals
end DevServer
