import DevServer.Proofs.Net.Addresses
import DevServer.Proofs.Settings.Order

/-!
# The problems of settings

Each subject has its own condition (`Settings.Faulty`) and its own entry with the value as it was
given (`Settings.entry`). The list of problems is that of the entries of the faulty subjects in the
order of all subjects. A field has one subject at most, so that changing it touches the entry of
that subject alone.
-/
namespace DevServer

set_option autoImplicit false

/-- What a problem is about. -/
inductive Subject where
  | host
  | port
  | requestTimeout
  | bodyLimit
  | logLevel
  | metricsAddress
deriving DecidableEq

namespace Subject

/-- The subjects in the order in which problems are listed. -/
def all : List Subject := [.host, .port, .requestTimeout, .bodyLimit, .logLevel, .metricsAddress]

theorem mem_all (j : Subject) : j ∈ all := by
  cases j <;> decide

theorem nodup_all : all.Nodup := by decide

/-- Each subject stands at one place among all. -/
theorem all_split (j : Subject) : ∃ before after, all = before ++ j :: after ∧
    j ∉ before ∧ j ∉ after := by
  obtain ⟨before, after, hall⟩ := List.append_of_mem (mem_all j)
  have hnodup := nodup_all
  rw [hall, List.nodup_append] at hnodup
  obtain ⟨-, hafter, hdisjoint⟩ := hnodup
  exact ⟨before, after, hall, fun hm => hdisjoint j hm j (by simp) rfl,
    (List.nodup_cons.mp hafter).1⟩

end Subject

namespace Problem

def subject : Problem → Subject
  | .invalidHost _ => .host
  | .zeroPort => .port
  | .zeroRequestTimeout => .requestTimeout
  | .zeroBodyLimit => .bodyLimit
  | .invalidLogLevel _ => .logLevel
  | .invalidMetricsAddress _ => .metricsAddress

end Problem

namespace Settings

/-- The names of the levels. -/
def levelNames : List String := ["trace", "debug", "info", "warn", "error"]

/-- The condition of each subject. -/
def Faulty (s : Settings) : Subject → Prop
  | .host => ¬ Net.IsAddress s.listener.host.toList
  | .port => s.listener.port = 0
  | .requestTimeout => s.timeouts.requestSecs = 0
  | .bodyLimit => s.security.maxBodySize = 0
  | .logLevel => ∀ name ∈ levelNames,
    s.observability.logLevel.toList.map Char.toLower ≠ name.toList
  | .metricsAddress => s.observability.metricsEnabled = true ∧
    ¬ Net.IsSocket s.observability.metricsAddress.toList

/-- The entry of each subject, with the value as it was given. -/
def entry (s : Settings) : Subject → Problem
  | .host => .invalidHost s.listener.host
  | .port => .zeroPort
  | .requestTimeout => .zeroRequestTimeout
  | .bodyLimit => .zeroBodyLimit
  | .logLevel => .invalidLogLevel s.observability.logLevel
  | .metricsAddress => .invalidMetricsAddress s.observability.metricsAddress

@[simp] theorem subject_entry (s : Settings) (j : Subject) : (s.entry j).subject = j := by
  cases j <;> rfl

/-- What the check of each subject finds. -/
def problem? (s : Settings) : Subject → Option Problem
  | .host => s.hostProblem?
  | .port => s.portProblem?
  | .requestTimeout => s.timeoutProblem?
  | .bodyLimit => s.bodyLimitProblem?
  | .logLevel => s.logLevelProblem?
  | .metricsAddress => s.metricsProblem?

theorem problems_eq_filterMap (s : Settings) : s.problems = Subject.all.filterMap s.problem? := by
  simp [problems, List.filterMap_eq_flatMap_toList, Subject.all, problem?]

theorem socketAddress?_eq_none_iff {l : Listener} :
    l.socketAddress? = none ↔ ¬ Net.IsAddress l.host.toList := by
  rw [← Net.IpAddress.ofString?_isSome_iff, Listener.socketAddress?]
  cases Net.IpAddress.ofString? l.host <;> simp

theorem ofWord?_eq_none_iff {level : String} :
    Log.Level.ofWord? level = none ↔
      ∀ name ∈ levelNames, level.toList.map Char.toLower ≠ name.toList := by
  have hword : ∀ name : String, String.ofList (level.toList.map Char.toLower) = name ↔
      level.toList.map Char.toLower = name.toList := by
    intro name
    rw [← String.toList_inj, String.toList_ofList]
  rw [Log.Level.ofWord?, List.lookup_eq_none_iff]
  simp [Log.Level.words, levelNames, Text.Blank.foldCase, hword]

theorem ofString?_eq_none_iff {address : String} :
    Net.SocketAddress.ofString? address = none ↔ ¬ Net.IsSocket address.toList := by
  rw [← Net.SocketAddress.ofString?_isSome_iff]
  cases Net.SocketAddress.ofString? address <;> simp

/-- Each check finds the entry of its subject exactly if the subject is faulty. -/
theorem problem?_eq_some_iff {s : Settings} {j : Subject} {p : Problem} :
    s.problem? j = some p ↔ s.Faulty j ∧ s.entry j = p := by
  cases j with
  | host => simp [problem?, hostProblem?, socketAddress?_eq_none_iff, Faulty, entry]
  | port => simp [problem?, portProblem?, Faulty, entry]
  | requestTimeout => simp [problem?, timeoutProblem?, Faulty, entry]
  | bodyLimit => simp [problem?, bodyLimitProblem?, Faulty, entry]
  | logLevel =>
    simp only [problem?, logLevelProblem?, Option.isNone_iff_eq_none, ofWord?_eq_none_iff,
      Option.ite_none_right_eq_some, Option.some.injEq, Faulty, entry]
  | metricsAddress => simp [problem?, metricsProblem?, ofString?_eq_none_iff, Faulty, entry]

instance (s : Settings) (j : Subject) : Decidable (s.Faulty j) :=
  decidable_of_iff ((s.problem? j).isSome = true) <| by
    simp [Option.isSome_iff_exists, problem?_eq_some_iff]

/-- The problems are the entries of the faulty subjects in their order. -/
theorem problems_eq_map (s : Settings) :
    s.problems = (Subject.all.filter fun j => s.Faulty j).map s.entry := by
  rw [problems_eq_filterMap, ← List.filterMap_eq_map, List.filterMap_filter]
  apply List.filterMap_congr
  intro j _
  apply Option.ext
  intro p
  rw [problem?_eq_some_iff]
  by_cases h : s.Faulty j <;> simp [h]

theorem mem_problems_iff {s : Settings} {p : Problem} :
    p ∈ s.problems ↔ ∃ j, s.Faulty j ∧ s.entry j = p := by
  simp [problems_eq_filterMap, List.mem_filterMap, Subject.mem_all, problem?_eq_some_iff]

theorem entry_mem_problems_iff {s : Settings} {j : Subject} :
    s.entry j ∈ s.problems ↔ s.Faulty j := by
  rw [mem_problems_iff]
  constructor
  · rintro ⟨k, hk, he⟩
    have hsubject := congrArg Problem.subject he
    rw [subject_entry, subject_entry] at hsubject
    exact hsubject ▸ hk
  · intro h
    exact ⟨j, h, rfl⟩

theorem nodup_problems (s : Settings) : s.problems.Nodup := by
  rw [problems_eq_map]
  refine List.Nodup.map_on ?_ (Subject.nodup_all.filter _)
  intro j _ k _ he
  have hsubject := congrArg Problem.subject he
  rwa [subject_entry, subject_entry] at hsubject

/-- Both settings have the same value in the field. -/
def Field.Agrees (s t : Settings) : Field → Prop
  | .adapter => s.adapter = t.adapter
  | .strictAdapter => s.strictAdapter = t.strictAdapter
  | .host => s.listener.host = t.listener.host
  | .port => s.listener.port = t.listener.port
  | .requestSecs => s.timeouts.requestSecs = t.timeouts.requestSecs
  | .maxBodySize => s.security.maxBodySize = t.security.maxBodySize
  | .logLevel => s.observability.logLevel = t.observability.logLevel
  | .logFormat => s.observability.logFormat = t.observability.logFormat
  | .metricsEnabled => s.observability.metricsEnabled = t.observability.metricsEnabled
  | .metricsAddress => s.observability.metricsAddress = t.observability.metricsAddress

/-- The settings differ in this field at most. -/
def SameBut (f : Field) (s t : Settings) : Prop := ∀ g, g ≠ f → g.Agrees s t

/-- The subject that a field belongs to. Nothing can be wrong with an adapter or a format, and the
address of the metrics is asked for only where they are enabled. -/
def Field.subject? : Field → Option Subject
  | .adapter | .strictAdapter | .logFormat => none
  | .host => some .host
  | .port => some .port
  | .requestSecs => some .requestTimeout
  | .maxBodySize => some .bodyLimit
  | .logLevel => some .logLevel
  | .metricsEnabled | .metricsAddress => some .metricsAddress

/-- A check looks at the fields of its own subject only. -/
theorem SameBut.problem?_eq {f : Field} {s t : Settings} (h : SameBut f s t) {j : Subject}
    (hj : f.subject? ≠ some j) : s.problem? j = t.problem? j := by
  have hagrees : ∀ g : Field, g.subject? = some j → g.Agrees s t := by
    intro g hg
    apply h
    rintro rfl
    exact hj hg
  cases j with
  | host =>
    have hhost : s.listener.host = t.listener.host := hagrees .host rfl
    simp only [problem?, hostProblem?, Listener.socketAddress?, hhost, Option.isNone_map]
  | port =>
    have hport : s.listener.port = t.listener.port := hagrees .port rfl
    simp only [problem?, portProblem?, hport]
  | requestTimeout =>
    have hsecs : s.timeouts.requestSecs = t.timeouts.requestSecs := hagrees .requestSecs rfl
    simp only [problem?, timeoutProblem?, hsecs]
  | bodyLimit =>
    have hsize : s.security.maxBodySize = t.security.maxBodySize := hagrees .maxBodySize rfl
    simp only [problem?, bodyLimitProblem?, hsize]
  | logLevel =>
    have hlevel : s.observability.logLevel = t.observability.logLevel := hagrees .logLevel rfl
    simp only [problem?, logLevelProblem?, hlevel]
  | metricsAddress =>
    have henabled : s.observability.metricsEnabled = t.observability.metricsEnabled :=
      hagrees .metricsEnabled rfl
    have haddress : s.observability.metricsAddress = t.observability.metricsAddress :=
      hagrees .metricsAddress rfl
    simp only [problem?, metricsProblem?, henabled, haddress]

/-- Changing a field changes the entry of its subject at most, and what stands before and behind
that entry stays. -/
theorem SameBut.problems_split {f : Field} {s t : Settings} (h : SameBut f s t) :
    ∃ before own own' after, s.problems = before ++ own.toList ++ after ∧
      t.problems = before ++ own'.toList ++ after ∧
      ∀ p, own = some p ∨ own' = some p → f.subject? = some p.subject := by
  rw [problems_eq_filterMap, problems_eq_filterMap]
  cases hf : f.subject? with
  | none =>
    have heq : s.problem? = t.problem? := funext fun j => h.problem?_eq (by simp [hf])
    rw [← heq]
    exact ⟨Subject.all.filterMap s.problem?, none, none, [], by simp, by simp, by simp⟩
  | some j =>
    obtain ⟨before, after, hall, hbefore, hafter⟩ := j.all_split
    have hkept : ∀ js : List Subject, j ∉ js → js.filterMap s.problem? = js.filterMap t.problem? := by
      intro js hjs
      apply List.filterMap_congr
      intro k hk
      apply h.problem?_eq
      rw [hf]
      rintro ⟨⟩
      exact hjs hk
    refine ⟨before.filterMap s.problem?, s.problem? j, t.problem? j, after.filterMap s.problem?,
      ?_, ?_, ?_⟩
    · rw [hall, List.append_assoc, List.filterMap_append]
      cases hs : s.problem? j <;> simp [hs]
    · rw [hkept before hbefore, hkept after hafter, hall, List.append_assoc, List.filterMap_append]
      cases ht : t.problem? j <;> simp [ht]
    · intro p hp
      rw [problem?_eq_some_iff, problem?_eq_some_iff] at hp
      rcases hp with ⟨-, rfl⟩ | ⟨-, rfl⟩ <;> simp

theorem no_problems_iff {s : Settings} : s.problems = [] ↔ ∀ j, ¬ s.Faulty j := by
  simp [problems_eq_map, Subject.mem_all]

theorem validated_eq_ok_iff {s c : Settings} :
    s.validated = .ok c ↔ c = s ∧ ∀ j, ¬ s.Faulty j := by
  rw [← no_problems_iff]
  by_cases h : s.problems = []
  · have hv : s.validated = .ok s := by simp [validated, h]
    simp [hv, h, eq_comm]
  · simp [validated, h]

theorem validated_eq_error_iff {s : Settings} {fault : SettingsFault} :
    s.validated = .error fault ↔ fault = .invalid s.problems ∧ ∃ j, s.Faulty j := by
  have hfaulty : (∃ j, s.Faulty j) ↔ s.problems ≠ [] := by
    rw [ne_eq, no_problems_iff, not_forall_not]
  rw [hfaulty]
  by_cases h : s.problems = []
  · simp [validated, h]
  · have hv : s.validated = .error (.invalid s.problems) := by simp [validated, h]
    simp [hv, h, eq_comm]

/-- The texts of problems in their order, with a comma and a blank between two of them. -/
inductive Listed : List Problem → String → Prop
  | one (p : Problem) : Listed [p] p.message
  | more (p : Problem) {ps : List Problem} {text : String} : Listed ps text →
    Listed (p :: ps) (p.message ++ ", " ++ text)

theorem listed_intercalate (p : Problem) (ps : List Problem) :
    Listed (p :: ps) (", ".intercalate ((p :: ps).map Problem.message)) := by
  induction ps generalizing p with
  | nil =>
    rw [List.map_cons, List.map_nil, String.intercalate_singleton]
    exact .one p
  | cons q ps ih =>
    rw [List.map_cons, List.map_cons, String.intercalate_cons_cons]
    exact .more p (ih q)

/-- The list of problems is that of the entries of the faulty subjects in their order: an entry is
in it exactly if its subject is faulty, and is in it once. Settings pass the check exactly if no
subject is faulty, and else the check tells the whole list. Settings that differ in one field have
lists that differ in the entry of that field's subject alone. There is no entry of the host exactly
where there is an address to listen on. What is told has the texts of all entries in their order. -/
theorem problems_complete (s : Settings) :
    s.problems = (Subject.all.filter fun j => s.Faulty j).map s.entry ∧
      (∀ j, s.entry j ∈ s.problems ↔ s.Faulty j) ∧ s.problems.Nodup ∧
      (∀ c, s.validated = .ok c ↔ c = s ∧ ∀ j, ¬ s.Faulty j) ∧
      (∀ fault, s.validated = .error fault ↔ fault = .invalid s.problems ∧ ∃ j, s.Faulty j) ∧
      (∀ f t, SameBut f s t →
        ∃ before own own' after, s.problems = before ++ own.toList ++ after ∧
          t.problems = before ++ own'.toList ++ after ∧
          ∀ p, own = some p ∨ own' = some p → f.subject? = some p.subject) ∧
      ((∀ host, .invalidHost host ∉ s.problems) ↔ ∃ a, s.listener.socketAddress? = some a) ∧
      ∀ fault, s.validated = .error fault →
        ∃ text, Listed s.problems text ∧ fault.message = "Validation failed: " ++ text := by
  refine ⟨problems_eq_map s, fun j => entry_mem_problems_iff, nodup_problems s,
    fun c => validated_eq_ok_iff, fun fault => validated_eq_error_iff,
    fun f t h => h.problems_split, ?_, ?_⟩
  · have hentry : ∀ host, .invalidHost host ∈ s.problems ↔
        s.Faulty .host ∧ s.listener.host = host := by
      intro host
      rw [mem_problems_iff]
      constructor
      · rintro ⟨j, hj, he⟩
        cases j <;> cases he
        exact ⟨hj, rfl⟩
      · rintro ⟨hfaulty, rfl⟩
        exact ⟨.host, hfaulty, rfl⟩
    rw [← Option.ne_none_iff_exists', ne_eq, socketAddress?_eq_none_iff]
    simp only [hentry, Faulty]
    constructor
    · intro h hfaulty
      exact h _ ⟨hfaulty, rfl⟩
    · rintro h host ⟨hfaulty, -⟩
      exact h hfaulty
  · intro fault h
    obtain ⟨rfl, j, hj⟩ := validated_eq_error_iff.mp h
    obtain ⟨p, ps, hps⟩ := List.exists_cons_of_ne_nil
      (List.ne_nil_of_mem (entry_mem_problems_iff.mpr hj))
    rw [hps]
    exact ⟨_, listed_intercalate p ps, rfl⟩

/-- The host is almost an address, the level is none, and the address of the metrics does no harm
while they are not enabled. -/
def doubtful : Settings where
  listener := { host := "127.0.0.01" }
  observability := { logLevel := "Loud", metricsAddress := "[::1%eth0]:9090" }

def doubtfulWithMetrics : Settings :=
  { doubtful with observability := { doubtful.observability with metricsEnabled := true } }

theorem enabled_metrics_add_entry :
    doubtful.problems = [.invalidHost "127.0.0.01", .invalidLogLevel "Loud"] ∧
      doubtfulWithMetrics.problems = doubtful.problems ++ [.invalidMetricsAddress "[::1%eth0]:9090"] ∧
      ¬ Net.IsSocket "[::1%eth0]:9090".toList ∧
      ∃ before own own' after, doubtful.problems = before ++ own.toList ++ after ∧
        doubtfulWithMetrics.problems = before ++ own'.toList ++ after ∧
        ∀ p, own = some p ∨ own' = some p → some Subject.metricsAddress = some p.subject := by
  have hproblems : doubtfulWithMetrics.problems =
      doubtful.problems ++ [.invalidMetricsAddress "[::1%eth0]:9090"] := by decide
  have hsame : SameBut .metricsEnabled doubtful doubtfulWithMetrics := by
    intro g hg
    cases g with
    | metricsEnabled => exact absurd rfl hg
    | _ => rfl
  obtain ⟨-, hentry, -⟩ := problems_complete doubtfulWithMetrics
  obtain ⟨-, -, -, -, -, hsplit, -⟩ := problems_complete doubtful
  have hmem : doubtfulWithMetrics.entry .metricsAddress ∈ doubtfulWithMetrics.problems := by
    rw [hproblems]
    exact List.mem_append_right _ (List.mem_singleton_self _)
  obtain ⟨-, hnowhere⟩ := (hentry .metricsAddress).mp hmem
  exact ⟨by decide, hproblems, hnowhere, hsplit .metricsEnabled doubtfulWithMetrics hsame⟩

end Settings
end DevServer
