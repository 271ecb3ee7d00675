import DevServer.Proofs.Settings.Precedence

/-!
# Calls that change settings, one after the other

The environment and the options can be applied to settings any number of times and in any order,
and a call of the environment may stop at a bad variable. `Call.written` says for each field alone
what one call writes to it, whether or not the call stops afterwards. After any number of calls a
field holds what the last of them wrote that wrote it at all.
-/
namespace DevServer.Settings

set_option autoImplicit false

/-- A call that changes settings. -/
inductive Call where
  | environment (env : Environment)
  | overrides (o : Overrides)

/-- The settings that a call leaves behind, also where it fails. -/
def Call.apply : Call → Settings → Settings
  | .environment env, s => (s.applyEnvironment env).1
  | .overrides o, s => s.applyOverrides o

/-- The settings after all calls, of which none has to succeed. -/
def afterCalls (calls : List Call) (s : Settings) : Settings :=
  calls.foldl (fun s c => c.apply s) s

@[simp] theorem afterCalls_nil (s : Settings) : afterCalls [] s = s := rfl

@[simp] theorem afterCalls_cons (c : Call) (calls : List Call) (s : Settings) :
    afterCalls (c :: calls) s = afterCalls calls (c.apply s) := rfl

theorem afterCalls_append (before after : List Call) (s : Settings) :
    afterCalls (before ++ after) s = afterCalls after (afterCalls before s) :=
  List.foldl_append

/-- What the field of a variable holds. -/
abbrev Value : Variable → Type
  | .adapter => Option String
  | .strictAdapter => Bool
  | .host => String
  | .port => UInt16

/-- The field of a variable. -/
def valueOf (s : Settings) : (v : Variable) → Value v
  | .adapter => s.adapter
  | .strictAdapter => s.strictAdapter
  | .host => s.listener.host
  | .port => s.listener.port

instance (env : Environment) : Decidable (FlagReads env) :=
  decidable_of_iff ((env .strictAdapter).all fun raw => (flag? raw).isSome) <| by
    simp [FlagReads, Option.all_eq_true, Option.isSome_iff_ne_none]

/-- What a call writes to the field of a variable. A bad policy keeps host and port from being
written, a bad port keeps only itself from it, and nothing keeps the adapter from it. Options never
take the demand for a known adapter back. -/
def Call.written : Call → (v : Variable) → Option (Value v)
  | .environment env, .adapter => (env .adapter).map nonEmpty
  | .environment env, .strictAdapter => (env .strictAdapter).bind flag?
  | .environment env, .host => if FlagReads env then env .host else none
  | .environment env, .port =>
    if FlagReads env then (env .port).bind Number.Decimal.readUInt16? else none
  | .overrides o, .adapter => o.adapter.map nonEmpty
  | .overrides o, .strictAdapter => if o.strictAdapter then some true else none
  | .overrides o, .host => o.host
  | .overrides o, .port => o.port

/-- None of the calls writes the field. -/
def Unwritten (calls : List Call) (v : Variable) : Prop :=
  ∀ c ∈ calls, c.written v = none

instance (calls : List Call) (v : Variable) : Decidable (Unwritten calls v) :=
  inferInstanceAs (Decidable (∀ c ∈ calls, c.written v = none))

/-- The value is what the last of the calls wrote that wrote the field. -/
def LastWritten (calls : List Call) (v : Variable) (a : Value v) : Prop :=
  ∃ before c after, calls = before ++ c :: after ∧ c.written v = some a ∧ Unwritten after v

section Environment

variable {env : Environment}

/-- With a policy that can be read every variable is reached; a bad port is as good as none. -/
theorem applyEnvironment_reached (hf : FlagReads env) (s : Settings) :
    (s.applyEnvironment env).1 =
      { s with
        adapter := highest [(env .adapter).map nonEmpty] s.adapter
        strictAdapter := highest [(env .strictAdapter).bind flag?] s.strictAdapter
        listener :=
          { host := highest [env .host] s.listener.host
            port := highest [(env .port).bind Number.Decimal.readUInt16?] s.listener.port } } := by
  by_cases hp : PortReads env
  · rw [applyEnvironment_eq hf hp]
  · obtain ⟨raw, hset, hr⟩ := exists_of_not_portReads hp
    rw [applyEnvironment, Variable.all, applyVariables_adapter, applyVariables_strictAdapter hf,
      applyVariables_host]
    simp [applyVariables, hset, set, hr]

/-- A bad policy stops the reading when only the adapter has been written. -/
theorem applyEnvironment_stopped (hf : ¬ FlagReads env) (s : Settings) :
    (s.applyEnvironment env).1 =
      { s with adapter := highest [(env .adapter).map nonEmpty] s.adapter } := by
  obtain ⟨raw, hset, hr⟩ := exists_of_not_flagReads hf
  rw [applyEnvironment, Variable.all, applyVariables_adapter]
  simp [applyVariables, hset, set, hr]

/-- A policy that cannot be read writes nothing. -/
theorem bind_flag_eq_none (hf : ¬ FlagReads env) : (env .strictAdapter).bind flag? = none := by
  obtain ⟨raw, hset, hr⟩ := exists_of_not_flagReads hf
  rw [hset, Option.bind_some, hr]

end Environment

variable {v : Variable} {a : Value v} {calls : List Call}

/-- Each field holds after a call what the call wrote to it, or else what it held before. -/
theorem valueOf_apply (c : Call) (s : Settings) (v : Variable) :
    (c.apply s).valueOf v = highest [c.written v] (s.valueOf v) := by
  cases c with
  | environment env =>
    by_cases hf : FlagReads env
    · cases v <;> simp [Call.apply, valueOf, Call.written, applyEnvironment_reached hf, hf]
    · cases v <;>
        simp [Call.apply, valueOf, Call.written, applyEnvironment_stopped hf, hf,
          bind_flag_eq_none hf]
  | overrides o =>
    cases v with
    | strictAdapter =>
      cases ho : o.strictAdapter <;> simp [Call.apply, valueOf, Call.written, applyOverrides_eq, ho]
    | adapter | host | port => simp [Call.apply, valueOf, Call.written, applyOverrides_eq]

theorem valueOf_append (calls : List Call) (c : Call) (s : Settings) (v : Variable) :
    (afterCalls (calls ++ [c]) s).valueOf v =
      highest [c.written v] ((afterCalls calls s).valueOf v) := by
  rw [afterCalls_append]
  exact valueOf_apply c (afterCalls calls s) v

/-- The fields of the variables are the only ones that a call reaches. -/
theorem apply_frame (c : Call) (s : Settings) :
    (c.apply s).timeouts = s.timeouts ∧ (c.apply s).security = s.security ∧
      (c.apply s).observability = s.observability := by
  cases c with
  | environment env =>
    by_cases hf : FlagReads env
    · simp [Call.apply, applyEnvironment_reached hf]
    · simp [Call.apply, applyEnvironment_stopped hf]
  | overrides o => simp [Call.apply, applyOverrides_eq]

theorem afterCalls_frame (calls : List Call) (s : Settings) :
    (afterCalls calls s).timeouts = s.timeouts ∧ (afterCalls calls s).security = s.security ∧
      (afterCalls calls s).observability = s.observability := by
  induction calls generalizing s with
  | nil => simp
  | cons c calls ih =>
    obtain ⟨htimeouts, hsecurity, hobservability⟩ := apply_frame c s
    rw [afterCalls_cons, ← htimeouts, ← hsecurity, ← hobservability]
    exact ih (c.apply s)

/-- Settings are the fields of the variables and what no call reaches. -/
theorem ext_valueOf {s t : Settings} (hvalues : ∀ v, s.valueOf v = t.valueOf v)
    (htimeouts : s.timeouts = t.timeouts) (hsecurity : s.security = t.security)
    (hobservability : s.observability = t.observability) : s = t := by
  obtain ⟨_, _, ⟨_, _⟩, _, _, _⟩ := s
  obtain ⟨_, _, ⟨_, _⟩, _, _, _⟩ := t
  have hadapter := hvalues .adapter
  have hstrict := hvalues .strictAdapter
  have hhost := hvalues .host
  have hport := hvalues .port
  simp_all [valueOf]

/-- What a call writes does not depend on the settings, so writing it again does nothing. -/
theorem apply_apply (c : Call) (s : Settings) : c.apply (c.apply s) = c.apply s := by
  obtain ⟨htimeouts, hsecurity, hobservability⟩ := apply_frame c (c.apply s)
  apply ext_valueOf _ htimeouts hsecurity hobservability
  intro v
  rw [valueOf_apply c (c.apply s), valueOf_apply c s]
  cases c.written v <;> rfl

theorem unwritten_cons {c : Call} :
    Unwritten (c :: calls) v ↔ c.written v = none ∧ Unwritten calls v :=
  List.forall_mem_cons

/-- The last to write is among the later calls, or it is the first if those do not write. -/
theorem lastWritten_cons {c : Call} :
    LastWritten (c :: calls) v a ↔
      LastWritten calls v a ∨ c.written v = some a ∧ Unwritten calls v := by
  constructor
  · rintro ⟨before, d, after, heq, hd, hafter⟩
    cases before with
    | nil =>
      obtain ⟨rfl, rfl⟩ := List.cons.inj heq
      exact .inr ⟨hd, hafter⟩
    | cons e before =>
      obtain ⟨rfl, rfl⟩ := List.cons.inj heq
      exact .inl ⟨before, d, after, rfl, hd, hafter⟩
  · rintro (⟨before, d, after, rfl, hd, hafter⟩ | ⟨hc, hafter⟩)
    · exact ⟨c :: before, d, after, rfl, hd, hafter⟩
    · exact ⟨[], c, calls, rfl, hc, hafter⟩

theorem not_lastWritten_nil : ¬ LastWritten [] v a := by
  rintro ⟨before, c, after, heq, -, -⟩
  simp at heq

/-- After any number of calls a field holds what was written last, or what it held at the start if
no call wrote it. The induction is on the calls, and each takes the settings that it leaves as the
start of the rest. -/
theorem valueOf_afterCalls_iff (calls : List Call) (s : Settings) (v : Variable) (a : Value v) :
    (afterCalls calls s).valueOf v = a ↔
      LastWritten calls v a ∨ Unwritten calls v ∧ s.valueOf v = a := by
  induction calls generalizing s with
  | nil => simp [not_lastWritten_nil, Unwritten]
  | cons c calls ih =>
    rw [afterCalls_cons, ih, lastWritten_cons, unwritten_cons, valueOf_apply]
    cases hc : c.written v with
    | none => simp
    | some b =>
      simp only [highest_some, Option.some.injEq, reduceCtorEq, false_and, or_false]
      rw [and_comm]

/-- Each field holds at the end what the last call wrote that wrote it, of which there is at most
one value, and the other sections are never touched. An empty adapter that is set stands for none;
a policy or a port that cannot be read leaves its field alone; calls that are made again at once
change nothing. -/
theorem afterCalls_last (calls : List Call) (s : Settings) :
    (∀ (v : Variable) (a : Value v), (afterCalls calls s).valueOf v = a ↔
        LastWritten calls v a ∨ Unwritten calls v ∧ s.valueOf v = a) ∧
      (afterCalls calls s).timeouts = s.timeouts ∧
      (afterCalls calls s).security = s.security ∧
      (afterCalls calls s).observability = s.observability ∧
      (∀ env, env .adapter = some "" →
        (afterCalls (calls ++ [.environment env]) s).adapter = none) ∧
      (∀ o : Overrides, o.adapter = some "" →
        (afterCalls (calls ++ [.overrides o]) s).adapter = none) ∧
      (∀ env raw, env .strictAdapter = some raw → flag? raw = none →
        (afterCalls (calls ++ [.environment env]) s).strictAdapter =
          (afterCalls calls s).strictAdapter) ∧
      (∀ env raw, env .port = some raw → Number.Decimal.readUInt16? raw = none →
        (afterCalls (calls ++ [.environment env]) s).listener.port =
          (afterCalls calls s).listener.port) ∧
      ∀ c, afterCalls (calls ++ [c, c]) s = afterCalls (calls ++ [c]) s := by
  obtain ⟨htimeouts, hsecurity, hobservability⟩ := afterCalls_frame calls s
  refine ⟨valueOf_afterCalls_iff calls s, htimeouts, hsecurity, hobservability, ?_, ?_, ?_, ?_, ?_⟩
  · intro env hset
    have hwritten : (Call.environment env).written .adapter = some none := by
      simp [Call.written, hset, nonEmpty]
    exact (valueOf_append calls _ s .adapter).trans (by rw [hwritten, highest_some])
  · intro o hset
    have hwritten : (Call.overrides o).written .adapter = some none := by
      simp [Call.written, hset, nonEmpty]
    exact (valueOf_append calls _ s .adapter).trans (by rw [hwritten, highest_some])
  · intro env raw hset hr
    have hwritten : (Call.environment env).written .strictAdapter = none := by
      simp [Call.written, hset, hr]
    exact (valueOf_append calls _ s .strictAdapter).trans (by rw [hwritten]; rfl)
  · intro env raw hset hr
    have hwritten : (Call.environment env).written .port = none := by
      simp [Call.written, hset, hr]
    exact (valueOf_append calls _ s .port).trans (by rw [hwritten]; rfl)
  · intro c
    simp [afterCalls_append, apply_apply]

/-- A known adapter is demanded, then the policy cannot be read, then the port. -/
def mixedCalls : List Call :=
  [ .overrides { host := some "::1", strictAdapter := true },
    .environment fun
      | .adapter => some ""
      | .strictAdapter => some "maybe"
      | .host => some "unreached"
      | .port => some "1",
    .environment fun
      | .strictAdapter => some "Off"
      | .port => some "65536"
      | _ => none ]

/-- The second call stops behind the adapter and the third behind the policy, which it lowers. -/
theorem mixed_calls_settle :
    afterCalls mixedCalls { adapter := some "MYSQL" } = { listener := { host := "::1" } } := by
  obtain ⟨hvalues, htimeouts, hsecurity, hobservability, -⟩ :=
    afterCalls_last mixedCalls { adapter := some "MYSQL" }
  refine ext_valueOf ?_ htimeouts hsecurity hobservability
  intro v
  cases v with
  | adapter => exact (hvalues .adapter none).mpr (.inl ⟨[_], _, [_], rfl, rfl, by decide⟩)
  | strictAdapter =>
    exact (hvalues .strictAdapter false).mpr (.inl ⟨[_, _], _, [], rfl, by decide, by decide⟩)
  | host => exact (hvalues .host "::1").mpr (.inl ⟨[], _, [_, _], rfl, rfl, by decide⟩)
  | port => exact (hvalues .port 8000).mpr (.inr ⟨by decide, rfl⟩)

end DevServer.Settings
