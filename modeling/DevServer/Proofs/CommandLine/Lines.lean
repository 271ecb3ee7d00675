import DevServer.Proofs.CommandLine.Outcomes
import DevServer.Proofs.Serving.Lines

/-!
# One line for each entry of the log

Each event that the filter lets through is to be one line of the output, and so is the notice. It is,
whatever the settings carry, but for one event: in the pretty form the warning about a name that is no
adapter's takes a line more for each line end of the name, and those lines are what the name says. In
JSON no event has more than one line.
-/
namespace DevServer

set_option autoImplicit false

open Net (Ports)
open Text (Unbroken)

namespace Signals

/-- A run that nobody disturbs puts out nothing but its warning that is not contained. -/
theorem RunSpec.tells {s : Settings} {ports : Ports} {terminated : Bool} {e : Startup.Ending}
    {output : List Output} (h : RunSpec s ports terminated e output) : s.Tells output := by
  cases h with
  | notBuilt hbuilt =>
    refine .contained (fun name hw => ?_) nofun
    rw [Application.build_lenient hw.adapter hw.unrecognized hw.lenient] at hbuilt
    cases hbuilt
  | notMeasured hbuilt _ => exact Startup.tells_of_built hbuilt
  | notBound hbuilt hmeasured _ =>
    exact (Startup.tells_of_built hbuilt).append
      (Output.contained_events (Startup.contained_of_startMetrics hmeasured))
  | serving hstarts _ =>
    exact hstarts.tells.append (List.forall_mem_singleton.mpr (Server.contained_starting _))
  | stopped hstarts _ =>
    refine hstarts.tells.append (Output.contained_events ?_)
    simp only [List.forall_mem_cons]
    exact ⟨Server.contained_starting _, contained_report_ok, Server.contained_draining,
      Server.contained_stopped, Startup.contained_shutdownComplete, nofun⟩

end Signals

namespace CommandLine

open AdapterChoice (skipped)
open Startup (notice)

section Lines

variable {s first rest : String}

theorem linesOf_of_unbroken (h : Unbroken s) : linesOf s = [s] := by
  have hsingle : List.splitOnP (· = '\n') s.toList = [s.toList] :=
    List.splitOnP_eq_singleton fun c hc => decide_eq_false fun he => h (he ▸ hc)
  unfold linesOf
  rw [hsingle, List.map_singleton, String.ofList_toList]

/-- The text before the first line end, and the text behind it. -/
theorem exists_of_broken (h : ¬ Unbroken s) : ∃ first rest, s = first ++ "\n" ++ rest ∧ Unbroken first := by
  obtain ⟨front, back, hs, hfront⟩ := List.eq_append_cons_of_mem (Decidable.not_not.mp h)
  refine ⟨String.ofList front, String.ofList back, String.toList_inj.mp ?_, ?_⟩
  · simp only [String.toList_append, String.toList_ofList, List.append_assoc]
    exact hs
  · unfold Unbroken
    rw [String.toList_ofList]
    exact hfront

theorem linesOf_newline (h : Unbroken first) :
    linesOf (first ++ "\n" ++ rest) = first :: linesOf rest := by
  have hsplit : List.splitOnP (· = '\n') (first ++ "\n" ++ rest).toList =
      List.splitOnP (· = '\n') first.toList ++ List.splitOnP (· = '\n') rest.toList := by
    rw [String.toList_append, String.toList_append, List.append_assoc]
    exact List.splitOnP_append_cons _ _ (decide_eq_true rfl)
  have hfirst := linesOf_of_unbroken h
  unfold linesOf at hfirst ⊢
  rw [hsplit, List.map_append, hfirst]
  rfl

/-- Texts are their own lines exactly if each of them is one line. -/
theorem flatMap_linesOf_eq_iff {texts : List String} :
    texts.flatMap linesOf = texts ↔ ∀ t ∈ texts, Unbroken t := by
  induction texts with
  | nil => exact iff_of_true rfl nofun
  | cons t texts ih =>
    rw [List.flatMap_cons, List.forall_mem_cons]
    by_cases ht : Unbroken t
    · rw [linesOf_of_unbroken ht, List.singleton_append, List.cons_inj_right, ih]
      exact (and_iff_right ht).symm
    · refine iff_of_false (fun h => ?_) fun h => ht h.1
      obtain ⟨first, rest, hs, hfirst⟩ := exists_of_broken ht
      rw [hs, linesOf_newline hfirst] at h
      exact ht (hs ▸ (List.cons.inj h).1 ▸ hfirst)

end Lines

/-- The filter that settings and surroundings give. -/
def eventFilter (w : Surroundings) (s : Settings) : Log.Filter :=
  Log.filterFor s.observability.logLevel (textVariable? w directivesVariable)

/-- The entry that the log should have for what is put out. -/
def entryOf (w : Surroundings) (time : String) (s : Settings) : Output → Option String
  | .line text => some text
  | .event e =>
    if (eventFilter w s).enables e then some (e.render s.observability.logFormat time) else none

/-- The entries that the log should have, in the order in which they are put out. -/
def entries (w : Surroundings) (time : String) (s : Settings) (output : List Output) : List String :=
  output.filterMap (entryOf w time s)

/-- What a program puts out that goes on with these options and settings. -/
def emitted (w : Surroundings) (o : Options) (s : Settings) : List Output :=
  .event (started o s) :: (Signals.run s w.ports w.interrupted).run.output

/-- The warning about this name is let through in the pretty form, and the name has a line end. -/
structure Splits (w : Surroundings) (s : Settings) (name : String) : Prop where
  warns : s.WarnsOf name
  pretty : s.observability.logFormat = .pretty
  enabled : (eventFilter w s).enables (skipped name) = true
  broken : ¬ Unbroken name

section Entries

variable {w : Surroundings} {time : String} {args : List Argument} {o : Options} {s : Settings}

theorem outputLines_eq (output : List Output) :
    outputLines w time s output = (entries w time s output).flatMap linesOf := by
  induction output with
  | nil => rfl
  | cons out output ih =>
    have hout : outputLines w time s [out] = (entries w time s [out]).flatMap linesOf := by
      cases out with
      | line text => rfl
      | event e =>
        show List.flatMap (write (eventFilter w s) _ _) [.event e] = _
        simp only [entries, entryOf, write, List.flatMap_singleton, List.filterMap_cons,
          List.filterMap_nil]
        split <;> simp
    rw [← List.singleton_append, outputLines_append, hout, ih]
    unfold entries
    rw [List.filterMap_append, List.flatMap_append]

theorem accepted_of_toOption (ho : Options.ofArguments args = .ok o)
    (hs : (Settings.resolve w.files o.config (environment w) o.overrides).toOption = some s) :
    Accepted w args o s := by
  refine ⟨ho, ?_⟩
  cases hresolve : Settings.resolve w.files o.config (environment w) o.overrides with
  | error fault =>
    rw [hresolve] at hs
    cases hs
  | ok c =>
    rw [hresolve] at hs
    rw [Option.some.inj hs]

theorem stdout_eq (h : Accepted w args o s) :
    (run w time args).stdout = (entries w time s (emitted w o s)).flatMap linesOf := by
  rw [← outputLines_eq, run_of_spec h (Signals.run_spec s w.ports w.interrupted)]
  unfold resultOf
  split <;> rfl

theorem unbroken_entries (htime : Unbroken time) {output : List Output}
    (h : ∀ out ∈ output, out.Contained) : ∀ t ∈ entries w time s output, Unbroken t := by
  intro t ht
  obtain ⟨out, hout, hentry⟩ := List.mem_filterMap.mp ht
  cases out with
  | line text => exact Option.some.inj hentry ▸ h _ hout
  | event e =>
    obtain ⟨_, hrender⟩ := Option.ite_none_right_eq_some.mp hentry
    exact Option.some.inj hrender ▸ Log.Event.Contained.unbroken_render (h _ hout) htime _

/-- A host that has been checked has no line end, and all else that a program starts with is quoted. -/
theorem contained_started (h : Accepted w args o s) : (started o s).Contained := by
  obtain ⟨a, ha⟩ := (Settings.sound_of_resolve h.2).host
  obtain ⟨ip, hip, _⟩ := Option.map_eq_some_iff.mp ha
  refine Log.Event.contained_mk (by decide) (by decide) ?_
  simp only [List.forall_mem_cons]
  refine ⟨.text (by decide) _, .shown (by decide) ?_,
    .shown (by decide) (Text.Quoted.unbroken_quoteOption s.adapter), .truth (by decide) _,
    .shown (by decide) (Net.unbroken_of_ofString? hip), .natural (by decide) _,
    .natural (by decide) _, nofun⟩
  cases o.config with
  | none => decide
  | some path => exact (Text.Quoted.unbroken_quotePath path).between (by decide) (by decide)

/-- In the pretty form the name is the end of the warning. -/
theorem pretty_skipped (name : String) :
    (skipped name).pretty time = (skipped "").pretty time ++ name := by
  simp only [Log.Event.pretty, skipped, List.map_cons, List.map_nil, String.intercalate_cons_cons,
    String.intercalate_singleton, Log.FieldValue.pretty, Log.FieldValue.plain, String.append_assoc,
    String.empty_append]

theorem linesOf_warning {first : String} (hfirst : Unbroken first) (rest : String)
    (htime : Unbroken time) : linesOf ((skipped (first ++ "\n" ++ rest)).pretty time) =
      (skipped first).pretty time :: linesOf rest := by
  have hline : Unbroken ((skipped first).pretty time) :=
    (Log.Event.unbroken_pretty_iff htime).mpr (AdapterChoice.contained_skipped_iff.mpr hfirst)
  rw [pretty_skipped, ← String.append_assoc, ← String.append_assoc, ← pretty_skipped,
    linesOf_newline hline]

/-- What comes behind the warning. -/
def afterWarning (w : Surroundings) (s : Settings) : List Output :=
  (Signals.run s w.ports w.interrupted).run.output.tail

theorem Splits.emitted_eq {name : String} (h : Splits w s name) (o : Options) :
    emitted w o s = .event (started o s) :: .event (skipped name) :: afterWarning w s ∧
      ∀ out ∈ afterWarning w s, out.Contained := by
  have htells := (Signals.run_spec s w.ports w.interrupted).tells
  unfold emitted afterWarning
  generalize (Signals.run s w.ports w.interrupted).run.output = output at htells
  cases htells with
  | @warning name' rest hwarns hrest =>
    obtain rfl : name' = name := Option.some.inj (hwarns.adapter.symm.trans h.warns.adapter)
    exact ⟨rfl, hrest⟩
  | contained hnone _ => exact absurd h.warns (hnone name)

theorem Splits.entries_eq {name : String} (h : Splits w s name) (o : Options) :
    entries w time s (emitted w o s) = entries w time s [.event (started o s)] ++
      (skipped name).pretty time :: entries w time s (afterWarning w s) := by
  have hwarning : entryOf w time s (.event (skipped name)) = some ((skipped name).pretty time) := by
    show (if (eventFilter w s).enables (skipped name) = true then _ else none) = _
    rw [if_pos h.enabled, h.pretty]
    rfl
  unfold entries
  rw [(h.emitted_eq o).1, ← List.singleton_append, List.filterMap_append,
    List.filterMap_cons_some hwarning]

theorem Splits.unbroken_others {name : String} (h : Splits w s name) (ha : Accepted w args o s)
    (htime : Unbroken time) : ∀ t ∈ entries w time s [.event (started o s)] ++
      entries w time s (afterWarning w s), Unbroken t := by
  have hstarted : ∀ out ∈ [Output.event (started o s)], out.Contained :=
    List.forall_mem_singleton.mpr (contained_started ha)
  exact List.forall_mem_append.mpr
    ⟨unbroken_entries htime hstarted, unbroken_entries htime (h.emitted_eq o).2⟩

/-- The warning takes the place of its entry with the lines that the name makes of it. -/
theorem Splits.stdout_eq {first rest : String} (h : Splits w s (first ++ "\n" ++ rest))
    (hfirst : Unbroken first) (ha : Accepted w args o s) (htime : Unbroken time) :
    (run w time args).stdout = entries w time s [.event (started o s)] ++
      (skipped first).pretty time :: linesOf rest ++ entries w time s (afterWarning w s) := by
  obtain ⟨hbefore, hafter⟩ := List.forall_mem_append.mp (h.unbroken_others ha htime)
  rw [CommandLine.stdout_eq ha, h.entries_eq, List.flatMap_append, List.flatMap_cons,
    linesOf_warning hfirst rest htime, flatMap_linesOf_eq_iff.mpr hbefore,
    flatMap_linesOf_eq_iff.mpr hafter, ← List.append_assoc]

theorem unbroken_of_not_splits (hnone : ∀ name, ¬ Splits w s name) (ha : Accepted w args o s)
    (htime : Unbroken time) : ∀ t ∈ entries w time s (emitted w o s), Unbroken t := by
  have hall : ∀ out ∈ emitted w o s, out.Contained ∨ s.Warning out :=
    List.forall_mem_cons.mpr ⟨.inl (contained_started ha),
      (Signals.run_spec s w.ports w.interrupted).tells.forall_mem⟩
  intro t ht
  obtain ⟨out, hout, hentry⟩ := List.mem_filterMap.mp ht
  have hone : t ∈ entries w time s [out] := by
    unfold entries
    rw [List.filterMap_cons_some hentry]
    exact List.mem_cons_self ..
  rcases hall out hout with hcontained | ⟨name, hwarns, rfl⟩
  · exact unbroken_entries htime (List.forall_mem_singleton.mpr hcontained) t hone
  · obtain ⟨henabled, hrender⟩ := Option.ite_none_right_eq_some.mp hentry
    rw [← Option.some.inj hrender]
    cases hformat : s.observability.logFormat with
    | json => exact Log.Event.unbroken_json time _
    | pretty =>
      by_contra hbroken
      exact hnone name ⟨hwarns, hformat, henabled, fun h => hbroken
        ((AdapterChoice.contained_skipped_iff.mpr h).unbroken_render htime _)⟩

/-- Every entry of the log is one line, unless the warning splits: then the lines of the name behind
its first line end stand in the output as they are, like entries, and all others are one line each.
In any order of turns no event but the warning and the report of a failure can take more than one
line, and in JSON none can. -/
theorem one_line_unless_split (h : Accepted w args o s) (htime : Unbroken time) :
    ((run w time args).stdout = entries w time s (emitted w o s) ↔ ∀ name, ¬ Splits w s name) ∧
      (∀ name, Splits w s name → ∃ before first rest after,
        name = first ++ "\n" ++ rest ∧ Unbroken first ∧ (∀ t ∈ before ++ after, Unbroken t) ∧
        entries w time s (emitted w o s) = before ++ (skipped name).pretty time :: after ∧
        (run w time args).stdout =
          before ++ (skipped first).pretty time :: linesOf rest ++ after) ∧
      ∀ ports ms e, .event e ∈ ((Signals.System.start ports).moves s ms).run.output →
        Unbroken (e.json time) ∧
          (Unbroken (e.pretty time) ∨
            (∃ name, s.WarnsOf name ∧ ¬ Unbroken name ∧ e = skipped name) ∨
            ∃ reason, .resolve (.error reason) ∈ ms ∧ ¬ Unbroken reason ∧
              e = Signals.report (.error reason)) := by
  refine ⟨?_, fun name hsplits => ?_, fun ports ms e he => ?_⟩
  · rw [stdout_eq h, flatMap_linesOf_eq_iff]
    refine ⟨fun hall name hsplits => ?_, fun hnone => unbroken_of_not_splits hnone h htime⟩
    rw [hsplits.entries_eq o] at hall
    have hwarning := hall _ (List.mem_append_right _ (List.mem_cons_self ..))
    rw [Log.Event.unbroken_pretty_iff htime, AdapterChoice.contained_skipped_iff] at hwarning
    exact hsplits.broken hwarning
  · obtain ⟨first, rest, rfl, hfirst⟩ := exists_of_broken hsplits.broken
    exact ⟨_, first, rest, _, rfl, hfirst, hsplits.unbroken_others h htime, hsplits.entries_eq o,
      hsplits.stdout_eq hfirst h htime⟩
  · refine ⟨Log.Event.unbroken_json time e, ?_⟩
    rw [Log.Event.unbroken_pretty_iff htime]
    rcases Signals.contained_moves s ports ms _ he with hcontained | ⟨name, hwarns, heq⟩ |
      ⟨reason, hmove, heq⟩
    · exact .inl hcontained
    · obtain rfl := Output.event.inj heq
      rw [AdapterChoice.contained_skipped_iff]
      exact (em _).imp_right fun hbroken => .inl ⟨name, hwarns, hbroken, rfl⟩
    · obtain rfl := Output.event.inj heq
      rw [Signals.contained_report_error_iff]
      exact (em _).imp_right fun hbroken => .inr ⟨reason, hmove, hbroken, rfl⟩

end Entries

/-- A name that goes on, behind its line end, with the notice of a run. -/
def forgedName : String := "ORACLE" ++ "\n" ++ notice

/-- Surroundings in which that is the name of the adapter. -/
def forging : Surroundings := .ofVariables [("ADAPTER", Text.Utf8.encode forgedName)]

def forgingSettings : Settings := { adapter := some forgedName }

theorem accepted_forging : Accepted forging [] {} forgingSettings :=
  accepted_of_toOption rfl (by decide +kernel)

theorem splits_forging : Splits forging forgingSettings forgedName where
  warns := ⟨rfl, by unfold Unrecognized; decide, rfl⟩
  pretty := rfl
  enabled := by decide +kernel
  broken := by decide

/-- The notice is put out once and stands in the output twice. -/
theorem notice_forged :
    Accepted forging [] {} forgingSettings ∧ Unbroken "12:00:00" ∧
      (entries forging "12:00:00" forgingSettings (emitted forging {} forgingSettings)).count notice = 1 ∧
      (run forging "12:00:00" []).stdout.count notice = 2 ∧
      (run forging "12:00:00" []).stdout ≠
        entries forging "12:00:00" forgingSettings (emitted forging {} forgingSettings) := by
  have htime : Unbroken "12:00:00" := by decide
  have hentries : (entries forging "12:00:00" forgingSettings
      (emitted forging {} forgingSettings)).count notice = 1 := by
    decide +kernel
  have hwhole : (skipped forgedName).pretty "12:00:00" ≠ notice := by decide +kernel
  have hfirst : (skipped "ORACLE").pretty "12:00:00" ≠ notice := by decide +kernel
  have hstdout : (run forging "12:00:00" []).stdout.count notice = 2 := by
    rw [splits_forging.stdout_eq (by decide) accepted_forging htime,
      linesOf_of_unbroken Startup.unbroken_notice]
    rw [splits_forging.entries_eq] at hentries
    simp only [List.count_append, List.count_cons_of_ne hwhole, List.count_cons_of_ne hfirst,
      List.count_singleton_self] at hentries ⊢
    omega
  refine ⟨accepted_forging, htime, hentries, hstdout, fun heq => ?_⟩
  rw [heq, hentries] at hstdout
  cases hstdout

/-- The same surroundings with a file that asks for JSON. -/
def forgingInJson : Surroundings :=
  { forging with
    files := fun _ => .ok (Text.Utf8.encode "[observability]\nlog_format = \"json\"\n") }

/-- The name splits the warning in the pretty form and does nothing in JSON. -/
theorem forged_in_pretty_only :
    Accepted forging [] {} forgingSettings ∧ Splits forging forgingSettings forgedName ∧
      (run forging "12:00:00" []).stdout ≠
        entries forging "12:00:00" forgingSettings (emitted forging {} forgingSettings) ∧
      ∃ o s, Accepted forgingInJson [[0x2D, 0x63], [0x78]] o s ∧ s.adapter = some forgedName ∧
        (run forgingInJson "12:00:00" [[0x2D, 0x63], [0x78]]).stdout =
          entries forgingInJson "12:00:00" s (emitted forgingInJson o s) := by
  have htime : Unbroken "12:00:00" := by decide
  have hjson : Accepted forgingInJson [[0x2D, 0x63], [0x78]] { config := some [0x78] }
      { forgingSettings with observability := { logFormat := .json } } :=
    accepted_of_toOption (by decide +kernel) (by decide +kernel)
  refine ⟨accepted_forging, splits_forging, fun heq => ?_, _, _, hjson, rfl, ?_⟩
  · exact (one_line_unless_split accepted_forging htime).1.mp heq forgedName splits_forging
  · exact (one_line_unless_split hjson htime).1.mpr fun name hsplits => nomatch hsplits.pretty

end CommandLine
end DevServer
