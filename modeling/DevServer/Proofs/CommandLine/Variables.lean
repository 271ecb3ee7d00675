import DevServer.CommandLine.Run
import DevServer.Proofs.Settings.Precedence
import DevServer.Proofs.Text.Encoding

/-!
# What a variable does that is set

A variable whose value is text takes part in the settings, or the program ends with a fault of the
settings. A value that is no text does neither: the program runs as if the variable were not set,
and what the variable was to demand or to narrow is not demanded or narrowed.
-/
namespace DevServer

set_option autoImplicit false

/-- What a text does as the value of a variable, where the command line gives these options. -/
def Settings.TakesPart (o : Overrides) (raw : String) (c : Settings) : Variable → Prop
  | .adapter => c.adapter = nonEmpty (o.adapter.getD raw)
  | .strictAdapter => ∃ flag, flag? raw = some flag ∧ c.strictAdapter = (o.strictAdapter || flag)
  | .host => c.listener.host = o.host.getD raw
  | .port => ∃ port, Number.Decimal.readUInt16? raw = some port ∧ c.listener.port = o.port.getD port

namespace Settings

variable {files : Storage.Reader} {path : Option Storage.Bytes} {env : Environment} {o : Overrides}
  {c : Settings}

/-- Settings that are resolved are merged ones. -/
theorem merged_of_resolve (h : resolve files path env o = .ok c) :
    FlagReads env ∧ PortReads env ∧ ∃ given file, c = merged env o given file := by
  obtain ⟨out, hout⟩ := resolves_exists files env o path
  have hc := hout.sound
  rw [h] at hc
  subst hc
  cases hout with
  | valid _ hf hp _ => exact ⟨hf, hp, _, _, rfl⟩

theorem takesPart_of_resolve (h : resolve files path env o = .ok c) {v : Variable} {raw : String}
    (hv : env v = some raw) : c.TakesPart o raw v := by
  obtain ⟨hf, hp, given, file, rfl⟩ := merged_of_resolve h
  cases v with
  | adapter =>
    show highest [o.adapter.map nonEmpty, (env .adapter).map nonEmpty] given.adapter = _
    rw [hv]
    cases o.adapter <;> rfl
  | strictAdapter =>
    cases hflag : flag? raw with
    | none => exact absurd hflag (hf raw hv)
    | some flag =>
      refine ⟨flag, hflag, ?_⟩
      simp only [merged, hv, Option.bind_some, hflag, highest_some]
  | host =>
    show highest [o.host, env .host, given.host] _ = _
    rw [hv, highest_cons, highest_some]
  | port =>
    cases hport : Number.Decimal.readUInt16? raw with
    | none => exact absurd hport (hp raw hv)
    | some port =>
      refine ⟨port, hport, ?_⟩
      show highest [o.port, (env .port).bind Number.Decimal.readUInt16?, given.port] _ = _
      rw [hv, Option.bind_some, hport, highest_cons, highest_some]

end Settings

namespace CommandLine

/-- The same surroundings without a variable. -/
def Surroundings.unset (w : Surroundings) (v : Variable) : Surroundings :=
  { w with valueOf := fun name => if name = v.name then none else w.valueOf name }

variable {w : Surroundings} {v : Variable} {value : List UInt8}

theorem environment_of_text {raw : String} (hv : w.valueOf v.name = some value)
    (htext : Text.Utf8.decode value = .ok raw) : environment w v = some raw := by
  unfold environment textVariable?
  rw [hv, Option.bind_some, htext]
  rfl

/-- No variable tells a value that is no text from none. -/
theorem textVariable?_unset {fault : Text.Utf8.Fault} (hv : w.valueOf v.name = some value)
    (htext : Text.Utf8.decode value = .error fault) (name : String) :
    textVariable? (w.unset v) name = textVariable? w name := by
  unfold textVariable? Surroundings.unset
  dsimp only
  split
  · next hname =>
    rw [hname, hv, Option.bind_some, htext]
    rfl
  · rfl

/-- The values of variables matter to a run only as texts. -/
theorem run_congr {w' : Surroundings} (hvalues : textVariable? w' = textVariable? w)
    (hfiles : w'.files = w.files) (hports : w'.ports = w.ports)
    (hinterrupted : w'.interrupted = w.interrupted) (time : String) (args : List Argument) :
    run w' time args = run w time args := by
  unfold run runServer environment
  rw [hvalues, hfiles, hports, hinterrupted]

theorem run_of_resolve_error {time : String} {args : List Argument} {o : Options}
    {fault : SettingsFault} (ho : Options.ofArguments args = .ok o)
    (hs : Settings.resolve w.files o.config (environment w) o.overrides = .error fault) :
    run w time args = { exit := some 1, stderr := errorLines fault.report } := by
  unfold run
  rw [ho]
  dsimp only
  rw [hs]

theorem run_of_resolve_ok {time : String} {args : List Argument} {o : Options} {c : Settings}
    (ho : Options.ofArguments args = .ok o)
    (hs : Settings.resolve w.files o.config (environment w) o.overrides = .ok c) :
    run w time args = runServer w time o c := by
  unfold run
  rw [ho]
  dsimp only
  rw [hs]

/-- A variable that is set to a text takes part in the settings of the server, or a fault of the
settings ends the program. One that is set to bytes that are no text might as well not be set. -/
theorem heeded_if_text (time : String) {args : List Argument} {o : Options}
    (ho : Options.ofArguments args = .ok o) (hv : w.valueOf v.name = some value) :
    (∀ raw, Text.Utf8.decode value = .ok raw →
      (∃ fault, Settings.resolve w.files o.config (environment w) o.overrides = .error fault ∧
        run w time args = { exit := some 1, stderr := errorLines fault.report }) ∨
      ∃ c, Settings.resolve w.files o.config (environment w) o.overrides = .ok c ∧
        run w time args = runServer w time o c ∧ c.TakesPart o.overrides raw v) ∧
    ∀ fault, Text.Utf8.decode value = .error fault →
      run w time args = run (w.unset v) time args := by
  constructor
  · intro raw htext
    have henv := environment_of_text hv htext
    cases hs : Settings.resolve w.files o.config (environment w) o.overrides with
    | error fault => exact .inl ⟨fault, rfl, run_of_resolve_error ho hs⟩
    | ok c =>
      exact .inr ⟨c, rfl, run_of_resolve_ok ho hs, Settings.takesPart_of_resolve hs henv⟩
  · intro fault htext
    exact (run_congr (funext (textVariable?_unset hv htext)) rfl rfl rfl time args).symm

/-- Surroundings without files in which these variables are set, and the program is told to stop. -/
def Surroundings.ofVariables (values : List (String × List UInt8)) : Surroundings where
  valueOf := fun name => values.lookup name
  files := fun _ => .error .notFound
  ports := { assigned := 49152 }
  interrupted := true

/-- An adapter that there is not, and a policy that is neither demanded nor waived. -/
def doubtfulPolicy : Surroundings :=
  .ofVariables [("ADAPTER", Text.Utf8.encode "ORACLE"), ("ADAPTER_STRICT", Text.Utf8.encode "maybe")]

/-- The policy is text, so the program does not go on without it. -/
theorem doubtful_policy_refused :
    Options.ofArguments [] = .ok {} ∧
      doubtfulPolicy.valueOf Variable.strictAdapter.name = some (Text.Utf8.encode "maybe") ∧
      ∃ fault : SettingsFault,
        run doubtfulPolicy "" [] = { exit := some 1, stderr := errorLines fault.report } := by
  have ho : Options.ofArguments [] = .ok {} := rfl
  have hv : doubtfulPolicy.valueOf Variable.strictAdapter.name =
    some (Text.Utf8.encode "maybe") := rfl
  refine ⟨ho, hv, ?_⟩
  rcases (heeded_if_text "" ho hv).1 "maybe" (Text.Utf8.decode_encode _) with ⟨fault, _, hrun⟩ | hother
  · exact ⟨fault, hrun⟩
  · obtain ⟨c, _, _, flag, hflag, _⟩ := hother
    cases hflag

/-- The same adapter, a policy that is no text, and an address that is none. -/
def illegible : Surroundings :=
  .ofVariables [("ADAPTER", Text.Utf8.encode "ORACLE"), ("ADAPTER_STRICT", [0x31, 0xFF]),
    ("WEBSERVER_HOST", [0x31, 0xFF])]

/-- Neither value ends the program or takes part: the server comes up with an adapter that there is
not, on all addresses, and ends well. -/
theorem illegible_variables_ignored :
    illegible.valueOf Variable.strictAdapter.name = some [0x31, 0xFF] ∧
      illegible.valueOf Variable.host.name = some [0x31, 0xFF] ∧
      (run illegible "" []).exit = some 0 ∧
      (run illegible "" []).stderr = [] ∧
      ∃ c, Settings.resolve illegible.files none (environment illegible) {} = .ok c ∧
        c.adapter = some "ORACLE" ∧ c.strictAdapter = false ∧ c.listener.host = "0.0.0.0" := by
  have hresolve : (Settings.resolve illegible.files none (environment illegible) {}).toOption =
      some { adapter := some "ORACLE" } := by
    decide +kernel
  refine ⟨by decide, by decide, by decide +kernel, by decide +kernel, ?_⟩
  cases hr : Settings.resolve illegible.files none (environment illegible) {} with
  | error fault =>
    rw [hr] at hresolve
    cases hresolve
  | ok c =>
    rw [hr] at hresolve
    obtain rfl := Option.some.inj hresolve
    exact ⟨_, rfl, rfl, rfl, rfl⟩

end CommandLine
end DevServer
