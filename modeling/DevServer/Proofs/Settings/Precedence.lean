import DevServer.Proofs.Settings.Documents
import DevServer.Settings.Resolve

/-!
# The settings in force, field by field

`merged` says for each field alone which layer it comes from, and `Resolves` lists the outcomes of
resolving with their conditions: faults of the file come before those of the environment, and both
before the problems of the merged settings. Resolving has exactly these outcomes. Which texts are
flags or ports, and what a problem is, are not questions of this module.
-/
namespace DevServer.Settings

set_option autoImplicit false

open Storage (Bytes Reader)

/-- The value of the first layer that gives one, or the lowest value. -/
def highest {α : Type} (layers : List (Option α)) (lowest : α) : α :=
  (layers.findSome? id).getD lowest

@[simp] theorem highest_nil {α : Type} (lowest : α) : highest [] lowest = lowest := rfl

@[simp] theorem highest_none {α : Type} (layers : List (Option α)) (lowest : α) :
    highest (none :: layers) lowest = highest layers lowest := rfl

@[simp] theorem highest_some {α : Type} (a : α) (layers : List (Option α)) (lowest : α) :
    highest (some a :: layers) lowest = a := rfl

/-- A layer below the others is asked last. -/
theorem highest_cons {α : Type} (layer : Option α) (layers : List (Option α)) (lowest : α) :
    highest (layer :: layers) lowest = layer.getD (highest layers lowest) := by
  cases layer <;> rfl

/-- The host of all layers. -/
def mergedHost (env : Environment) (o : Overrides) (given : Given) : String :=
  highest [o.host, env .host, given.host] ({} : Listener).host

/-- The port of all layers. -/
def mergedPort (env : Environment) (o : Overrides) (given : Given) : UInt16 :=
  highest [o.port, (env .port).bind Number.Decimal.readUInt16?, given.port] ({} : Listener).port

/-- The settings of all layers. Strictness can be demanded by the command line but not be taken
back, and what neither variables nor options give is that of the file. -/
def merged (env : Environment) (o : Overrides) (given : Given) (file : Settings) : Settings where
  adapter := highest [o.adapter.map nonEmpty, (env .adapter).map nonEmpty] given.adapter
  strictAdapter := o.strictAdapter ||
    highest [(env .strictAdapter).bind flag?, given.strictAdapter] false
  listener := { host := mergedHost env o given, port := mergedPort env o given }
  timeouts := file.timeouts
  security := file.security
  observability := file.observability

/-- The variable of the policy is a flag if it is set. -/
def FlagReads (env : Environment) : Prop :=
  ∀ raw, env .strictAdapter = some raw → flag? raw ≠ none

/-- The variable of the port is a port if it is set. -/
def PortReads (env : Environment) : Prop :=
  ∀ raw, env .port = some raw → Number.Decimal.readUInt16? raw ≠ none

theorem exists_of_not_flagReads {env : Environment} (h : ¬ FlagReads env) :
    ∃ raw, env .strictAdapter = some raw ∧ flag? raw = none := by
  simpa only [FlagReads, Classical.not_forall, Classical.not_not, exists_prop] using h

theorem exists_of_not_portReads {env : Environment} (h : ¬ PortReads env) :
    ∃ raw, env .port = some raw ∧ Number.Decimal.readUInt16? raw = none := by
  simpa only [PortReads, Classical.not_forall, Classical.not_not, exists_prop] using h

/-- The settings below the environment, and what a file says of those that can be replaced. -/
inductive Base (files : Reader) : Option Bytes → Given → Settings → Prop
  | defaults : Base files none {} {}
  | file {path bytes : Bytes} {text : String} {s : Settings} :
    files path = .ok bytes → Text.Utf8.decode bytes = .ok text → ofDocument text = .ok s →
      Base files (some path) (Given.ofText text) s

/-- The outcomes of resolving, each with its condition. -/
inductive Resolves (files : Reader) (env : Environment) (o : Overrides) :
    Option Bytes → Except SettingsFault Settings → Prop
  | unreadable {path : Bytes} {fault : Storage.Fault} : files path = .error fault →
    Resolves files env o (some path) (.error (.unreadable path fault))
  | notText {path bytes : Bytes} {fault : Text.Utf8.Fault} : files path = .ok bytes →
    Text.Utf8.decode bytes = .error fault →
    Resolves files env o (some path) (.error (.unreadable path .notText))
  | undecodable {path bytes : Bytes} {text : String} {fault : DocumentFault} :
    files path = .ok bytes → Text.Utf8.decode bytes = .ok text → ofDocument text = .error fault →
    Resolves files env o (some path) (.error (.undecodable fault))
  | badFlag {path : Option Bytes} {given : Given} {file : Settings} {raw : String} :
    Base files path given file → env .strictAdapter = some raw → flag? raw = none →
    Resolves files env o path (.error (.badVariable ⟨.strictAdapter, raw⟩))
  | badPort {path : Option Bytes} {given : Given} {file : Settings} {raw : String} :
    Base files path given file → FlagReads env → env .port = some raw →
    Number.Decimal.readUInt16? raw = none →
    Resolves files env o path (.error (.badVariable ⟨.port, raw⟩))
  | invalid {path : Option Bytes} {given : Given} {file : Settings} :
    Base files path given file → FlagReads env → PortReads env →
    (merged env o given file).problems ≠ [] →
    Resolves files env o path (.error (.invalid (merged env o given file).problems))
  | valid {path : Option Bytes} {given : Given} {file : Settings} :
    Base files path given file → FlagReads env → PortReads env →
    (merged env o given file).problems = [] →
    Resolves files env o path (.ok (merged env o given file))

section Environment

variable {env : Environment}

theorem applyVariables_adapter (rest : List Variable) (s : Settings) :
    s.applyVariables env (.adapter :: rest) =
      applyVariables env rest
        { s with adapter := highest [(env .adapter).map nonEmpty] s.adapter } := by
  cases h : env .adapter <;> simp [applyVariables, h, set]

theorem applyVariables_strictAdapter (hf : FlagReads env) (rest : List Variable) (s : Settings) :
    s.applyVariables env (.strictAdapter :: rest) =
      applyVariables env rest
        { s with strictAdapter := highest [(env .strictAdapter).bind flag?] s.strictAdapter } := by
  cases h : env .strictAdapter with
  | none => simp [applyVariables, h]
  | some raw =>
    cases hr : flag? raw with
    | none => exact absurd hr (hf raw h)
    | some flag => simp [applyVariables, h, set, hr]

theorem applyVariables_host (rest : List Variable) (s : Settings) :
    s.applyVariables env (.host :: rest) =
      applyVariables env rest
        { s with listener := { s.listener with host := highest [env .host] s.listener.host } } := by
  cases h : env .host <;> simp [applyVariables, h, set]

theorem applyVariables_port (hp : PortReads env) (rest : List Variable) (s : Settings) :
    s.applyVariables env (.port :: rest) =
      applyVariables env rest
        { s with listener :=
          { s.listener with
            port := highest [(env .port).bind Number.Decimal.readUInt16?] s.listener.port } } := by
  cases h : env .port with
  | none => simp [applyVariables, h]
  | some raw =>
    cases hr : Number.Decimal.readUInt16? raw with
    | none => exact absurd hr (hp raw h)
    | some port => simp [applyVariables, h, set, hr]

/-- Variables that can be read change the fields that they give, and no others. -/
theorem applyEnvironment_eq (hf : FlagReads env) (hp : PortReads env) (s : Settings) :
    s.applyEnvironment env =
      ({ s with
          adapter := highest [(env .adapter).map nonEmpty] s.adapter
          strictAdapter := highest [(env .strictAdapter).bind flag?] s.strictAdapter
          listener :=
            { host := highest [env .host] s.listener.host
              port := highest [(env .port).bind Number.Decimal.readUInt16?] s.listener.port } },
        none) := by
  rw [applyEnvironment, Variable.all, applyVariables_adapter, applyVariables_strictAdapter hf,
    applyVariables_host, applyVariables_port hp]
  rfl

/-- The policy is read first of the two variables that can be bad, whatever the port is. -/
theorem applyEnvironment_badFlag {raw : String} (h : env .strictAdapter = some raw)
    (hr : flag? raw = none) (s : Settings) :
    (s.applyEnvironment env).2 = some ⟨.strictAdapter, raw⟩ := by
  rw [applyEnvironment, Variable.all, applyVariables_adapter]
  simp [applyVariables, h, set, hr]

theorem applyEnvironment_badPort (hf : FlagReads env) {raw : String} (h : env .port = some raw)
    (hr : Number.Decimal.readUInt16? raw = none) (s : Settings) :
    (s.applyEnvironment env).2 = some ⟨.port, raw⟩ := by
  rw [applyEnvironment, Variable.all, applyVariables_adapter, applyVariables_strictAdapter hf,
    applyVariables_host]
  simp [applyVariables, h, set, hr]

end Environment

variable {files : Reader} {env : Environment} {o : Overrides} {path : Option Bytes} {given : Given}
  {file : Settings}

theorem Base.describes (hb : Base files path given file) : given.Describes file := by
  cases hb with
  | defaults => exact describes_defaults
  | file _ _ hs => exact describes_ofText hs

/-- Options change the fields that they give, and no others. -/
theorem applyOverrides_eq (o : Overrides) (s : Settings) :
    s.applyOverrides o =
      { s with
        adapter := highest [o.adapter.map nonEmpty] s.adapter
        strictAdapter := o.strictAdapter || s.strictAdapter
        listener :=
          { host := highest [o.host] s.listener.host, port := highest [o.port] s.listener.port } } := by
  rw [applyOverrides, Bool.or_comm]
  cases o.adapter <;> simp [highest_cons]

/-- The layers above the defaults, put on one after the other, are the merged settings. -/
theorem applyOverrides_merged (hd : given.Describes file) (hf : FlagReads env)
    (hp : PortReads env) :
    (file.applyEnvironment env).1.applyOverrides o = merged env o given file := by
  rw [applyEnvironment_eq hf hp, applyOverrides_eq]
  simp only [merged, mergedHost, mergedPort, highest_cons, highest_nil, hd.adapter,
    hd.strictAdapter, hd.host, hd.port]

theorem overlay_bad {bad : BadVariable} (h : (file.applyEnvironment env).2 = some bad) :
    overlay env o file = .error (.badVariable bad) := by
  rw [overlay]
  split
  · next s other he =>
    rw [he] at h
    rw [Option.some.inj h]
  · next s he => simp [he] at h

theorem overlay_merged (hd : given.Describes file) (hf : FlagReads env) (hp : PortReads env) :
    overlay env o file = (merged env o given file).validated := by
  rw [← applyOverrides_merged hd hf hp, overlay, applyEnvironment_eq hf hp]

theorem resolve_base (hb : Base files path given file) :
    resolve files path env o = overlay env o file := by
  cases hb with
  | defaults => rfl
  | file hbytes htext hs => simp [resolve, read, ofFile, hbytes, htext, hs, bind, Except.bind]

/-- Each outcome is the one that resolving has. -/
theorem Resolves.sound {out : Except SettingsFault Settings} (h : Resolves files env o path out) :
    resolve files path env o = out := by
  cases h with
  | unreadable hbytes => simp [resolve, read, ofFile, hbytes, bind, Except.bind]
  | notText hbytes htext => simp [resolve, read, ofFile, hbytes, htext, bind, Except.bind]
  | undecodable hbytes htext hs =>
    simp [resolve, read, ofFile, hbytes, htext, hs, bind, Except.bind]
  | badFlag hb hset hr =>
    rw [resolve_base hb]
    exact overlay_bad (applyEnvironment_badFlag hset hr _)
  | badPort hb hf hset hr =>
    rw [resolve_base hb]
    exact overlay_bad (applyEnvironment_badPort hf hset hr _)
  | invalid hb hf hp hne =>
    rw [resolve_base hb, overlay_merged hb.describes hf hp, validated]
    simp [hne]
  | valid hb hf hp hnone =>
    rw [resolve_base hb, overlay_merged hb.describes hf hp, validated]
    simp [hnone]

/-- Settings below the environment have an outcome, which the environment and its merging decide. -/
theorem Base.resolves (hb : Base files path given file) : ∃ out, Resolves files env o path out := by
  by_cases hf : FlagReads env
  · by_cases hp : PortReads env
    · by_cases hv : (merged env o given file).problems = []
      · exact ⟨_, .valid hb hf hp hv⟩
      · exact ⟨_, .invalid hb hf hp hv⟩
    · obtain ⟨raw, hset, hr⟩ := exists_of_not_portReads hp
      exact ⟨_, .badPort hb hf hset hr⟩
  · obtain ⟨raw, hset, hr⟩ := exists_of_not_flagReads hf
    exact ⟨_, .badFlag hb hset hr⟩

/-- The outcomes leave nothing out. -/
theorem resolves_exists (files : Reader) (env : Environment) (o : Overrides)
    (path : Option Bytes) : ∃ out, Resolves files env o path out := by
  cases path with
  | none => exact Base.defaults.resolves
  | some path =>
    cases hbytes : files path with
    | error fault => exact ⟨_, .unreadable hbytes⟩
    | ok bytes =>
      cases htext : Text.Utf8.decode bytes with
      | error fault => exact ⟨_, .notText hbytes htext⟩
      | ok text =>
        cases hs : ofDocument text with
        | error fault => exact ⟨_, .undecodable hbytes htext hs⟩
        | ok s => exact (Base.file hbytes htext hs).resolves

/-- Problems are looked for only where both variables can be read. -/
theorem Resolves.reads {problems : List Problem}
    (h : Resolves files env o path (.error (.invalid problems))) :
    FlagReads env ∧ PortReads env := by
  cases h with
  | invalid _ hf hp _ => exact ⟨hf, hp⟩

theorem validated_eq_invalid {s : Settings} {problems : List Problem} :
    s.validated = .error (.invalid problems) ↔ s.problems ≠ [] ∧ s.problems = problems := by
  rw [validated]
  cases s.problems <;> simp

theorem problems_host {s : Settings} {host : String} (h : .invalidHost host ∈ s.problems) :
    host = s.listener.host := by
  simp only [problems, List.mem_append, Option.mem_toList, hostProblem?, portProblem?,
    timeoutProblem?, bodyLimitProblem?, logLevelProblem?, metricsProblem?] at h
  grind

theorem problems_port {s : Settings} (h : .zeroPort ∈ s.problems) : s.listener.port = 0 := by
  simp only [problems, List.mem_append, Option.mem_toList, hostProblem?, portProblem?,
    timeoutProblem?, bodyLimitProblem?, logLevelProblem?, metricsProblem?] at h
  grind

theorem problems_defaults : ({} : Settings).problems = [] := by decide

/-- Without variables and options nothing is put on the settings below. -/
theorem overlay_nothing (s : Settings) : overlay (fun _ => none) {} s = s.validated := by
  have hkept : s.applyOverrides {} = s := by simp [applyOverrides]
  rw [overlay]
  exact congrArg validated hkept

/-- Resolving has exactly the outcomes of `Resolves`. The host and the port of a problem are those
of the highest layer that gives them, so what a higher layer replaces is not reported. Without
variables and options resolving is loading the file, or the defaults. -/
theorem resolve_reference (files : Reader) (path : Option Bytes) (env : Environment)
    (o : Overrides) :
    (∀ out, resolve files path env o = out ↔ Resolves files env o path out) ∧
      (∀ given file problems, Base files path given file →
        resolve files path env o = .error (.invalid problems) →
        problems = (merged env o given file).problems ∧
          (∀ host, .invalidHost host ∈ problems → host = mergedHost env o given) ∧
          (.zeroPort ∈ problems → mergedPort env o given = 0)) ∧
      resolve files path (fun _ => none) {} =
        match path with
        | some path => load files path
        | none => .ok {} := by
  have hiff : ∀ out, resolve files path env o = out ↔ Resolves files env o path out := by
    intro out
    constructor
    · intro h
      obtain ⟨other, hother⟩ := resolves_exists files env o path
      rw [← h, hother.sound]
      exact hother
    · exact Resolves.sound
  refine ⟨hiff, ?_, ?_⟩
  · intro given file problems hb h
    obtain ⟨hf, hp⟩ := ((hiff _).mp h).reads
    rw [resolve_base hb, overlay_merged hb.describes hf hp] at h
    obtain rfl := validated_eq_invalid.mp h |>.2
    exact ⟨rfl, fun host hm => problems_host hm, problems_port⟩
  · cases path with
    | none =>
      rw [resolve_base Base.defaults, overlay_nothing, validated, problems_defaults]
      rfl
    | some path =>
      change read files path >>= overlay (fun _ => none) {} = read files path >>= validated
      rw [funext overlay_nothing]

/-- A host that is no address, and port zero. -/
def badHostAndPort : Environment
  | .host => some "nowhere"
  | .port => some "0"
  | _ => none

/-- An option replaces the host of the environment, so that only the port is reported. -/
theorem replaced_host_unreported :
    Base (fun _ => .error .notFound) none {} {} ∧
      resolve (fun _ => .error .notFound) none badHostAndPort { host := some "::1" } =
        .error (.invalid [.zeroPort]) ∧
      mergedPort badHostAndPort { host := some "::1" } {} = 0 := by
  have hf : FlagReads badHostAndPort := by simp [FlagReads, badHostAndPort]
  have hp : PortReads badHostAndPort := by
    intro raw h
    obtain rfl := Option.some.inj h
    decide
  have hproblems : (merged badHostAndPort { host := some "::1" } {} {}).problems = [.zeroPort] := by
    decide
  have hresolve := ((resolve_reference (fun _ => .error .notFound) none badHostAndPort
    { host := some "::1" }).1 _).mpr (.invalid .defaults hf hp (by rw [hproblems]; simp))
  rw [hproblems] at hresolve
  exact ⟨.defaults, hresolve, ((resolve_reference _ _ _ _).2.1 {} {} _ .defaults hresolve).2.2
    (by simp)⟩

end DevServer.Settings
