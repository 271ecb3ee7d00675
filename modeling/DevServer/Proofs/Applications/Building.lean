import DevServer.Proofs.Applications.Assembly
import DevServer.Proofs.Routes.Fixed

/-!
# What settings build

An application is built from the name of an adapter and from the policy for names that are none.
A strict policy refuses such a name and a lenient one warns of it; nothing else can fail. What is
built answers by path and method alone: its health, and the reports where the adapter is known.
-/
namespace DevServer

set_option autoImplicit false

open Http

/-- A name that asks for something and is no adapter's. -/
def Unrecognized (name : String) : Prop := name ≠ "" ∧ name ≠ "RANDOM" ∧ name ≠ "MYSQL"

namespace Adapter

theorem ofName?_eq_some_iff {name : String} {a : Adapter} :
    ofName? name = some a ↔ name = a.name := by
  constructor
  · intro h
    have hn := List.find?_some h
    exact (of_decide_eq_true hn).symm
  · rintro rfl
    exact ofName?_name a

theorem name_ne_empty (a : Adapter) : a.name ≠ "" := by
  cases a with
  | random => decide
  | mysql => decide

theorem name_inj {a b : Adapter} : a.name = b.name ↔ a = b := by
  constructor
  · intro h
    have hb := ofName?_name b
    rw [← h, ofName?_name] at hb
    exact Option.some.inj hb
  · rintro rfl
    rfl

end Adapter

namespace Unrecognized

variable {name : String}

theorem ne_name (h : Unrecognized name) (a : Adapter) : name ≠ a.name := by
  cases a with
  | random => exact h.2.1
  | mysql => exact h.2.2

theorem ne_of_bare (h : Unrecognized name) {given : Option String}
    (hg : given = none ∨ given = some "") : given ≠ some name := by
  rcases hg with rfl | rfl
  · exact fun he => by cases he
  · exact fun he => h.1 (Option.some.inj he).symm

theorem ofName?_eq_none (h : Unrecognized name) : Adapter.ofName? name = none := by
  cases ha : Adapter.ofName? name with
  | none => rfl
  | some a => exact absurd (Adapter.ofName?_eq_some_iff.mp ha) (h.ne_name a)

theorem choice_eq (h : Unrecognized name) : AdapterChoice.ofName (some name) = .unknown name := by
  simp [AdapterChoice.ofName, h.1, h.ofName?_eq_none]

end Unrecognized

/-- What the name of an adapter can be. -/
inductive NameSpec : Option String → Prop
  | unset : NameSpec none
  | empty : NameSpec (some "")
  | known (a : Adapter) : NameSpec (some a.name)
  | unknown (name : String) : Unrecognized name → NameSpec (some name)

theorem name_spec (name : Option String) : NameSpec name := by
  cases name with
  | none => exact .unset
  | some name =>
    by_cases he : name = ""
    · subst he
      exact .empty
    · cases ha : Adapter.ofName? name with
      | some a =>
        obtain rfl := Adapter.ofName?_eq_some_iff.mp ha
        exact .known a
      | none =>
        have hne : ∀ a : Adapter, name ≠ a.name := fun a hn => by
          rw [Adapter.ofName?_eq_some_iff.mpr hn] at ha
          cases ha
        exact .unknown name ⟨he, hne .random, hne .mysql⟩

theorem AdapterChoice.ofName_known (a : Adapter) : ofName (some a.name) = .known a := by
  cases a <;> rfl

namespace Application

/-- The application that has the reports of an adapter. -/
def reports (a : Adapter) : Application :=
  { new.withBlueprint (Reporting.blueprint a) (new.router.beside (Reporting.blueprint a).router) with
    adapter := some a }

theorem fresh_reporting (a : Adapter) : new.Fresh (Reporting.blueprint a) where
  name := List.not_mem_nil
  paths := by
    show ∀ p ∈ [Reporting.indexPath, Reporting.statusPath], p ∉ [Health.path]
    decide

theorem not_clashing_reporting (a : Adapter) :
    ¬ new.router.Clashing (Reporting.blueprint a).router := by
  have hne : ∀ path ∈ [Reporting.indexPath, Reporting.statusPath],
      Health.path.toList ≠ path.toList := by decide
  rintro ⟨q, hq, p, hp, hc⟩
  obtain rfl := List.mem_singleton.mp hq
  have hpath : ∃ path ∈ [Reporting.indexPath, Reporting.statusPath], p = .literal path := by
    rcases List.mem_cons.mp hp with rfl | hp
    · exact ⟨_, List.mem_cons_self .., rfl⟩
    · exact ⟨_, List.mem_cons_of_mem _ (List.mem_singleton_self _), List.mem_singleton.mp hp⟩
  obtain ⟨path, hpath, rfl⟩ := hpath
  exact hne path hpath (Pattern.conflict_literal_iff.mp hc)

theorem withAdapter_some (a : Adapter) :
    withAdapter (some a) = .ok (reports a, [registered Reporting.name]) := by
  -- The reports are new in name and paths, so only a clash of patterns could stop them.
  have hstep := consistent_new.attempt_fresh (Blueprint.built_reporting a) (fresh_reporting a)
  rcases hstep with ⟨_, hstep⟩ | ⟨hclash, _⟩
  · have hr := register_eq_ok_iff.mpr hstep
    unfold withAdapter
    simp only [hr]
    rfl
  · exact absurd hclash (not_clashing_reporting a)

/-- Everything that building can come to. -/
inductive BuildSpec (s : Settings) : Except AppFault (Application × List Log.Event) → Prop
  | bare : s.adapter = none ∨ s.adapter = some "" →
    BuildSpec s (.ok (new, [withoutAdapter, new.initialized]))
  | reports (a : Adapter) : s.adapter = some a.name →
    BuildSpec s (.ok (reports a, [registered Reporting.name, (reports a).initialized]))
  | skipped (name : String) : s.adapter = some name → Unrecognized name → s.strictAdapter = false →
    BuildSpec s (.ok (new, [AdapterChoice.skipped name, withoutAdapter, new.initialized]))
  | refused (name : String) : s.adapter = some name → Unrecognized name → s.strictAdapter = true →
    BuildSpec s (.error (.unknownAdapter ⟨name⟩))

theorem build_bare {s : Settings} (h : s.adapter = none ∨ s.adapter = some "") :
    build s = .ok (new, [withoutAdapter, new.initialized]) := by
  unfold build
  rcases h with h | h
  · rw [h]
    rfl
  · rw [h]
    rfl

theorem build_known {s : Settings} {a : Adapter} (h : s.adapter = some a.name) :
    build s = .ok (reports a, [registered Reporting.name, (reports a).initialized]) := by
  unfold build
  rw [h, AdapterChoice.ofName_known]
  simp only [AdapterChoice.resolve, withAdapter_some]
  rfl

theorem build_lenient {s : Settings} {v : String} (h : s.adapter = some v) (hu : Unrecognized v)
    (hs : s.strictAdapter = false) :
    build s = .ok (new, [AdapterChoice.skipped v, withoutAdapter, new.initialized]) := by
  unfold build
  rw [h, hu.choice_eq, hs]
  rfl

theorem build_strict {s : Settings} {v : String} (h : s.adapter = some v) (hu : Unrecognized v)
    (hs : s.strictAdapter = true) : build s = .error (.unknownAdapter ⟨v⟩) := by
  unfold build
  rw [h, hu.choice_eq, hs]
  rfl

theorem build_spec (s : Settings) : BuildSpec s (build s) := by
  have hname := name_spec s.adapter
  generalize ha : s.adapter = name at hname
  cases hname with
  | unset =>
    rw [build_bare (.inl ha)]
    exact .bare (.inl ha)
  | empty =>
    rw [build_bare (.inr ha)]
    exact .bare (.inr ha)
  | known a =>
    rw [build_known ha]
    exact .reports a ha
  | unknown v hu =>
    cases hs : s.strictAdapter with
    | true =>
      rw [build_strict ha hu hs]
      exact .refused v ha hu hs
    | false =>
      rw [build_lenient ha hu hs]
      exact .skipped v ha hu hs

theorem adapter_of_build {s : Settings} {app : Application} {events : List Log.Event}
    (h : build s = .ok (app, events)) : app.adapter = s.adapter.bind Adapter.ofName? := by
  have hs := build_spec s
  rw [h] at hs
  cases hs with
  | bare hn =>
    rcases hn with hn | hn
    · rw [hn]
      rfl
    · rw [hn]
      rfl
  | reports a hn =>
    rw [hn]
    exact (Adapter.ofName?_name a).symm
  | skipped name hn hu _ =>
    rw [hn]
    exact hu.ofName?_eq_none.symm

theorem views_new : ∀ t ∈ new.router.routes, Router.View t := by
  intro t ht
  rw [List.mem_singleton.mp ht]
  exact .get _ _ fun _ => rfl

theorem views_reports (a : Adapter) : ∀ t ∈ (reports a).router.routes, Router.View t := by
  intro t ht
  rcases List.mem_cons.mp ht with rfl | ht
  · exact .get _ _ fun _ => rfl
  · rcases List.mem_cons.mp ht with rfl | ht
    · exact .get _ _ fun _ => rfl
    · rw [List.mem_singleton.mp ht]
      exact .get _ _ fun _ => rfl

theorem consistent_reports (a : Adapter) : Consistent [Reporting.blueprint a] (reports a) :=
  (withAdapter_ok (withAdapter_some a)).2

/-- The paths that are served for the name of an adapter. -/
def servedFor (name : Option String) : List String :=
  if name = some "RANDOM" ∨ name = some "MYSQL" then
    ["/health", "/reporting", "/reporting/status"]
  else ["/health"]

theorem health_mem_servedFor (name : Option String) : "/health" ∈ servedFor name := by
  unfold servedFor
  split
  · exact List.mem_cons_self ..
  · exact List.mem_cons_self ..

theorem paths_reports {name : Option String} {a : Adapter} (h : name = some a.name) :
    (reports a).router.paths = servedFor name := by
  subst h
  cases a <;> rfl

theorem paths_new {name : Option String} (h : ∀ a : Adapter, name ≠ some a.name) :
    new.router.paths = servedFor name := by
  have hn : ¬ (name = some "RANDOM" ∨ name = some "MYSQL") := by
    rintro (hn | hn)
    · exact h .random hn
    · exact h .mysql hn
  exact (if_neg hn).symm

/-- Who asks for the reports is told this adapter. -/
def NamesAdapter (app : Application) (a : Adapter) : Prop :=
  ∀ req : Request, req.method = .get →
    (req.uri.path = "/reporting" → (app.router.answer req).body =
      "\x7b\"blueprint\":\"reporting\",\"adapter\":\"" ++ a.name ++
        "\",\"endpoints\":[\"/reporting\",\"/reporting/status\"]\x7d") ∧
    (req.uri.path = "/reporting/status" → (app.router.answer req).body =
      "\x7b\"status\":\"ok\",\"adapter\":\"" ++ a.name ++ "\"\x7d")

/-- The reports name the adapter that they were made for, whatever stands beside them. -/
theorem Consistent.namesAdapter {bs : List Blueprint} {app : Application} (hc : Consistent bs app)
    {a : Adapter} (hb : Reporting.blueprint a ∈ bs) : app.NamesAdapter a := by
  have hsub : ∀ t ∈ (Reporting.blueprint a).router.routes, t ∈ app.router.routes := by
    intro t ht
    rw [hc.routes, parts]
    exact List.mem_flatMap.mpr ⟨_, List.mem_cons_of_mem _ (List.mem_map_of_mem hb), ht⟩
  rintro ⟨method, ⟨scheme, authority, path, query⟩, headers, body⟩ hg
  -- Both views answer with a constant text in which only the name of the adapter varies.
  constructor
  · rintro rfl
    refine Router.body_view hc.sound (hsub _ (List.mem_cons_self ..)) hg fun call => ?_
    cases a <;> rfl
  · rintro rfl
    refine Router.body_view hc.sound
      (hsub _ (List.mem_cons_of_mem _ (List.mem_singleton_self _))) hg fun call => ?_
    cases a <;> rfl

/-- What an application for the name of an adapter answers: the status by path and method, and the
adapter by name. -/
structure AnswersFor (app : Application) (name : Option String) : Prop where
  status : ∀ req : Request, (app.router.answer req).status =
    if req.uri.path ∈ servedFor name then
      if req.method = .get ∨ req.method = .head then 200 else 405
    else 404
  adapter : ∀ a : Adapter, app.adapter = some a ↔ name = some a.name
  reports : ∀ a, app.adapter = some a → app.NamesAdapter a

theorem answersFor_new {name : Option String} (h : ∀ a : Adapter, name ≠ some a.name) :
    new.AnswersFor name where
  status req := by
    rw [← paths_new h]
    exact Router.status_of_views consistent_new.sound views_new req
  adapter a := by
    constructor
    · intro ha
      cases ha
    · intro ha
      exact absurd ha (h a)
  reports a ha := by cases ha

theorem answersFor_reports {name : Option String} {a : Adapter} (h : name = some a.name) :
    (reports a).AnswersFor name where
  status req := by
    rw [← paths_reports h]
    exact Router.status_of_views (consistent_reports a).sound (views_reports a) req
  adapter b := by
    rw [h, Option.some_inj, Adapter.name_inj]
    exact Option.some_inj
  reports b hb := by
    obtain rfl : a = b := Option.some.inj hb
    exact (consistent_reports a).namesAdapter (List.mem_singleton_self _)

/-- Only a strict policy refuses, and only a name that is no adapter's. -/
theorem build_eq_error_iff {s : Settings} {fault : AppFault} :
    build s = .error fault ↔
      s.strictAdapter = true ∧ ∃ v, s.adapter = some v ∧ Unrecognized v ∧
        fault = .unknownAdapter ⟨v⟩ := by
  constructor
  · intro h
    have hs := build_spec s
    rw [h] at hs
    cases hs with
    | refused name hn hu hstrict => exact ⟨hstrict, name, hn, hu, rfl⟩
  · rintro ⟨hstrict, v, hn, hu, rfl⟩
    exact build_strict hn hu hstrict

theorem warnings_of_build {s : Settings} {app : Application} {events : List Log.Event}
    (h : build s = .ok (app, events)) :
    (∀ v, s.adapter = some v → Unrecognized v →
      events.filter (·.level = .warn) = [AdapterChoice.skipped v]) ∧
    ((∀ v, s.adapter = some v → ¬ Unrecognized v) → events.filter (·.level = .warn) = []) := by
  have hs := build_spec s
  rw [h] at hs
  cases hs with
  | bare hn => exact ⟨fun v hv hu => absurd hv (hu.ne_of_bare hn), fun _ => rfl⟩
  | reports a hn =>
    refine ⟨fun v hv hu => ?_, fun _ => rfl⟩
    rw [hn] at hv
    exact absurd (Option.some.inj hv).symm (hu.ne_name a)
  | skipped name hn hu _ =>
    refine ⟨fun v hv _ => ?_, fun hnone => absurd hu (hnone name hn)⟩
    rw [hn] at hv
    rw [← Option.some.inj hv]
    rfl

theorem answersFor_of_build {s : Settings} {app : Application} {events : List Log.Event}
    (h : build s = .ok (app, events)) : app.AnswersFor s.adapter := by
  have hs := build_spec s
  rw [h] at hs
  cases hs with
  | bare hn =>
    refine answersFor_new fun a ha => ?_
    rcases hn with hn | hn
    · rw [hn] at ha
      cases ha
    · rw [hn] at ha
      exact a.name_ne_empty (Option.some.inj ha).symm
  | reports a hn => exact answersFor_reports hn
  | skipped name hn hu _ =>
    refine answersFor_new fun a ha => ?_
    rw [hn] at ha
    exact hu.ne_name a (Option.some.inj ha)

/-- What is built depends on the adapter's name and the policy. A strict policy refuses a name that
is no adapter's, and nothing else is refused; the empty name is none. Else there is one warning,
of a name that is no adapter's, and every request is answered by the table of the name. -/
theorem build_by_name (s : Settings) :
    (∀ s' : Settings, s'.adapter = s.adapter → s'.strictAdapter = s.strictAdapter →
      build s' = build s) ∧
    build { s with adapter := some "" } = build { s with adapter := none } ∧
    (∀ fault, build s = .error fault ↔
      s.strictAdapter = true ∧ ∃ v, s.adapter = some v ∧ Unrecognized v ∧
        fault = .unknownAdapter ⟨v⟩) ∧
    (¬ (s.strictAdapter = true ∧ ∃ v, s.adapter = some v ∧ Unrecognized v) →
      ∃ app events, build s = .ok (app, events) ∧
        (∀ v, s.adapter = some v → Unrecognized v →
          events.filter (·.level = .warn) = [AdapterChoice.skipped v]) ∧
        ((∀ v, s.adapter = some v → ¬ Unrecognized v) → events.filter (·.level = .warn) = []) ∧
        app.AnswersFor s.adapter) := by
  refine ⟨fun s' ha hs => ?_, rfl, fun fault => build_eq_error_iff, fun hn => ?_⟩
  · unfold build
    rw [ha, hs]
  · cases hb : build s with
    | error fault =>
      obtain ⟨hstrict, v, hv, hu, _⟩ := build_eq_error_iff.mp hb
      exact absurd ⟨hstrict, v, hv, hu⟩ hn
    | ok result =>
      obtain ⟨app, events⟩ := result
      obtain ⟨hwarned, hquiet⟩ := warnings_of_build hb
      exact ⟨app, events, rfl, hwarned, hquiet, answersFor_of_build hb⟩

end Application
end DevServer
