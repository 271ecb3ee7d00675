import DevServer.Log.Filter
import DevServer.Proofs.Applications.Building
import DevServer.Proofs.Serving.Stages
import DevServer.Settings.Resolve

/-!
# What was checked does not fail later

Settings are checked once, when they are resolved. Each part that uses them afterwards reads the same
texts again: the address to listen on, the address of the metrics, the level of the log, the name of
the adapter. What the check lets pass all of them can read; what is left to fail is the world (a port
that is taken, an address that is not of this host) and a name that a strict policy refuses.
-/
namespace DevServer

set_option autoImplicit false

open Net (Ports SocketAddress)

namespace Settings

/-- What the check wants of settings. -/
structure Sound (c : Settings) : Prop where
  host : ∃ a, c.listener.socketAddress? = some a
  port : c.listener.port ≠ 0
  requestSecs : c.timeouts.requestSecs ≠ 0
  maxBodySize : c.security.maxBodySize ≠ 0
  logLevel : ∃ l, Log.Level.ofWord? c.observability.logLevel = some l
  metrics : c.observability.metricsEnabled = true →
    ∃ a, SocketAddress.ofString? c.observability.metricsAddress = some a

theorem problems_eq_nil_iff {c : Settings} : c.problems = [] ↔ c.Sound := by
  unfold problems
  simp only [List.append_eq_nil_iff]
  unfold hostProblem? portProblem? timeoutProblem? bodyLimitProblem? logLevelProblem? metricsProblem?
  simp only [Option.toList_eq_nil_iff, ite_eq_right_iff, reduceCtorEq, imp_false,
    Option.isNone_iff_eq_none, Bool.and_eq_true, not_and]
  constructor
  · rintro ⟨⟨⟨⟨⟨hhost, hport⟩, hsecs⟩, hsize⟩, hlevel⟩, hmetrics⟩
    exact ⟨Option.ne_none_iff_exists'.mp hhost, hport, hsecs, hsize,
      Option.ne_none_iff_exists'.mp hlevel, fun h => Option.ne_none_iff_exists'.mp (hmetrics h)⟩
  · rintro ⟨hhost, hport, hsecs, hsize, hlevel, hmetrics⟩
    exact ⟨⟨⟨⟨⟨Option.ne_none_iff_exists'.mpr hhost, hport⟩, hsecs⟩, hsize⟩,
      Option.ne_none_iff_exists'.mpr hlevel⟩, fun h => Option.ne_none_iff_exists'.mpr (hmetrics h)⟩

theorem sound_of_validated {s c : Settings} (h : s.validated = .ok c) : c.Sound := by
  unfold validated at h
  split at h
  · next hs =>
    obtain rfl := Except.ok.inj h
    exact problems_eq_nil_iff.mp (List.isEmpty_iff.mp hs)
  · cases h

theorem sound_of_load {files : Storage.Reader} {path : Storage.Bytes} {c : Settings}
    (h : load files path = .ok c) : c.Sound := by
  unfold load at h
  cases hr : read files path with
  | error fault =>
    rw [hr] at h
    cases h
  | ok s =>
    rw [hr] at h
    exact sound_of_validated h

theorem sound_of_overlay {env : Environment} {o : Overrides} {s c : Settings}
    (h : overlay env o s = .ok c) : c.Sound := by
  unfold overlay at h
  split at h
  · cases h
  · exact sound_of_validated h

theorem sound_of_resolve {files : Storage.Reader} {path : Option Storage.Bytes} {env : Environment}
    {o : Overrides} {c : Settings} (h : resolve files path env o = .ok c) : c.Sound := by
  unfold resolve at h
  cases path with
  | none => exact sound_of_overlay h
  | some path =>
    cases hr : read files path with
    | error fault =>
      simp only [hr] at h
      cases h
    | ok s =>
      simp only [hr] at h
      exact sound_of_overlay h

theorem defaultDirectives_eq (level word : String)
    (hword : word = String.ofList (Text.Blank.foldCase level.toList)) :
    Log.defaultDirectives level = "reporting_webserver=" ++ word ++ ",tower_http=" ++ word := by
  subst hword
  rfl

/-- Each of the five words is read as it was meant. -/
theorem reads_words : ∀ w ∈ Log.Level.words,
    Log.directives? ("reporting_webserver=" ++ w.1 ++ ",tower_http=" ++ w.1) =
      some [{ target := some "reporting_webserver", rank := w.2.rank },
        { target := some "tower_http", rank := w.2.rank }] := by
  decide +kernel

/-- What can still fail when a server with these settings comes up. -/
inductive CanFail (c : Settings) : StartupFault → Prop
  | strict (name : String) : c.strictAdapter = true → c.adapter = some name → Unrecognized name →
    CanFail c (.app (.unknownAdapter ⟨name⟩))
  | metrics (fault : Net.BindFault) : c.observability.metricsEnabled = true →
    CanFail c (.metrics fault)
  | bind (a : SocketAddress) (fault : Net.BindFault) : CanFail c (.bind a fault)

theorem canFail_of_build {c : Settings} {fault : AppFault}
    (h : Application.build c = .error fault) : c.CanFail (.app fault) := by
  obtain ⟨hstrict, name, hname, hunknown, rfl⟩ := Application.build_eq_error_iff.mp h
  exact .strict name hstrict hname hunknown

namespace Sound

variable {c : Settings} (hc : c.Sound)

include hc

theorem canFail_of_startMetrics {ports : Ports} {fault : StartupFault}
    (h : Startup.startMetrics c.observability ports = .error fault) : c.CanFail fault := by
  unfold Startup.startMetrics at h
  split at h
  · cases h
  · next hwanted =>
    have henabled : c.observability.metricsEnabled = true := by simpa using hwanted
    obtain ⟨a, ha⟩ := hc.metrics henabled
    rw [ha] at h
    dsimp only at h
    split at h
    · next bound _ =>
      obtain rfl := Except.error.inj h
      exact .metrics bound henabled
    · cases h

theorem canFail_of_listen {ports : Ports} {fault : StartupFault}
    (h : Startup.listen c.listener ports = .error fault) : c.CanFail fault := by
  obtain ⟨a, ha⟩ := hc.host
  unfold Startup.listen at h
  rw [ha] at h
  dsimp only at h
  split at h
  · next bound _ =>
    obtain rfl := Except.error.inj h
    exact .bind a bound
  · cases h

/-- One step of a run fails in no other way. -/
theorem canFail_step {stage : Startup.Stage} {sd : Shutdown}
    (hstage : ∀ fault, stage = .failed fault → c.CanFail fault) :
    ∀ fault, (Startup.step c stage sd).task = .failed fault → c.CanFail fault := by
  intro fault h
  have hs := Startup.step_spec c stage sd
  generalize Startup.step c stage sd = p at hs h
  cases hs with
  | notBuilt hbuild =>
    cases h
    exact canFail_of_build hbuild
  | notMeasured hmetrics =>
    cases h
    exact hc.canFail_of_startMetrics hmetrics
  | notBound hlisten =>
    cases h
    exact hc.canFail_of_listen hlisten
  | failed =>
    cases h
    exact hstage fault rfl
  | _ => cases h

/-- A run fails in no other way, whatever others do meanwhile. -/
theorem canFail_run {ports : Ports} {i : Nat} {sd : Shutdown} (ts : List Turn) (fault : StartupFault)
    (h : (Shared.run (Startup.step c) { task := .called i ports, shutdown := sd } ts).task =
      .failed fault) : c.CanFail fault := by
  -- Only its own turns bring a run to another stage.
  have hturn : ∀ (w : Shared Startup.Stage) (t : Turn), True →
      (∀ fault, w.task = .failed fault → c.CanFail fault) →
      ∀ fault, (w.turn (Startup.step c) t).task = .failed fault → c.CanFail fault := by
    intro w t _ hw
    cases t with
    | own => exact hc.canFail_step hw
    | command _ => exact hw
    | output _ => exact hw
  exact Shared.run_keeps hturn (fun _ hcalled => by cases hcalled) (fun _ _ => trivial) fault h

/-- The log is told of the level that the settings name, in lower case. -/
theorem directives_of_logLevel : ∃ word level, (word, level) ∈ Log.Level.words ∧
    word.toList = Text.Blank.foldCase c.observability.logLevel.toList ∧
    Log.defaultDirectives c.observability.logLevel =
      "reporting_webserver=" ++ word ++ ",tower_http=" ++ word ∧
    Log.directives? (Log.defaultDirectives c.observability.logLevel) =
      some [{ target := some "reporting_webserver", rank := level.rank },
        { target := some "tower_http", rank := level.rank }] := by
  obtain ⟨level, hlevel⟩ := hc.logLevel
  obtain ⟨before, rest, hwords, _⟩ := List.lookup_eq_some_iff.mp hlevel
  have hmem : (String.ofList (Text.Blank.foldCase c.observability.logLevel.toList), level) ∈
      Log.Level.words := by
    rw [hwords]
    exact List.mem_append_right _ (List.mem_cons_self ..)
  obtain ⟨word, hword⟩ : ∃ word,
      word = String.ofList (Text.Blank.foldCase c.observability.logLevel.toList) := ⟨_, rfl⟩
  rw [← hword] at hmem
  have hread := reads_words (word, level) hmem
  refine ⟨word, level, hmem, ?_, defaultDirectives_eq _ word hword, ?_⟩
  · rw [hword, String.toList_ofList]
  · rw [defaultDirectives_eq _ word hword]
    exact hread

end Sound

/-- Nothing that the check covers fails where the settings are used. -/
structure Dependable (c : Settings) : Prop where
  listen : ∀ ports given, Startup.listen c.listener ports ≠ .error (.listenAddress given)
  run : ∀ ports i sd ts fault,
    (Shared.run (Startup.step c) { task := .called i ports, shutdown := sd } ts).task =
      .failed fault → c.CanFail fault
  port : c.listener.port ≠ 0
  requestSecs : c.timeouts.requestSecs ≠ 0
  maxBodySize : c.security.maxBodySize ≠ 0
  logLevel : ∃ word level, (word, level) ∈ Log.Level.words ∧
    word.toList = Text.Blank.foldCase c.observability.logLevel.toList ∧
    Log.defaultDirectives c.observability.logLevel =
      "reporting_webserver=" ++ word ++ ",tower_http=" ++ word ∧
    Log.directives? (Log.defaultDirectives c.observability.logLevel) =
      some [{ target := some "reporting_webserver", rank := level.rank },
        { target := some "tower_http", rank := level.rank }]

theorem Sound.dependable {c : Settings} (hc : c.Sound) : c.Dependable where
  listen ports given h := by cases hc.canFail_of_listen h
  run _ _ _ ts fault h := hc.canFail_run ts fault h
  port := hc.port
  requestSecs := hc.requestSecs
  maxBodySize := hc.maxBodySize
  logLevel := hc.directives_of_logLevel

/-- Settings that are resolved, or loaded from a file, can be depended on. -/
theorem resolved_dependable (files : Storage.Reader) :
    (∀ path env o c, resolve files path env o = .ok c → c.Dependable) ∧
      ∀ path c, load files path = .ok c → c.Dependable :=
  ⟨fun _ _ _ _ h => (sound_of_resolve h).dependable, fun _ _ h => (sound_of_load h).dependable⟩

/-- A file that has the level in mixed case. -/
def mixedFile : Storage.Reader := fun _ =>
  .ok (Text.Utf8.encode "[observability]\nlog_level = \"DeBug\"\n")

/-- What it makes of the settings if the environment wants strict names. -/
def mixedSettings : Settings where
  adapter := some "ORACLE"
  strictAdapter := true
  observability := { logLevel := "DeBug" }

/-- The level is read in spite of its letters; the name is what can still be refused. -/
theorem mixed_dependable :
    resolve mixedFile (some []) (fun _ => none) { adapter := some "ORACLE", strictAdapter := true } =
        .ok mixedSettings ∧
      mixedSettings.Dependable := by
  have hok : (resolve mixedFile (some []) (fun _ => none)
      { adapter := some "ORACLE", strictAdapter := true }).toOption = some mixedSettings := by
    decide +kernel
  cases hr : resolve mixedFile (some []) (fun _ => none)
      { adapter := some "ORACLE", strictAdapter := true } with
  | error fault =>
    rw [hr] at hok
    cases hok
  | ok c =>
    rw [hr] at hok
    obtain rfl := Option.some.inj hok
    exact ⟨rfl, (resolved_dependable mixedFile).1 _ _ _ _ hr⟩

end Settings

end DevServer
