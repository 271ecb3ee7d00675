import DevServer.Application
import DevServer.Proofs.Applications.Blueprints

/-!
# Registration: what is found before anything changes

`AttemptSpec` lists everything that registering a blueprint can come to. A name that is taken is told
before a path that is taken, and of the paths the first declared one is told. Both are told of an
application that is left as it was; nothing is claimed here about a table that refuses a route.
-/
namespace DevServer.Application

set_option autoImplicit false

open Http

/-- Of some paths the first that is among others. -/
def FirstTaken (ps taken : List String) (path : String) : Prop :=
  ∃ before after, ps = before ++ path :: after ∧ path ∈ taken ∧ ∀ q ∈ before, q ∉ taken

theorem find?_eq_some_iff_firstTaken {ps taken : List String} {path : String} :
    ps.find? (fun p => taken.contains p) = some path ↔ FirstTaken ps taken path := by
  rw [List.find?_eq_some_iff_append]
  unfold FirstTaken
  simp only [List.contains_eq_mem, decide_eq_true_eq, Bool.not_eq_true', decide_eq_false_iff_not]
  constructor
  · rintro ⟨hp, before, after, he, hb⟩
    exact ⟨before, after, he, hp, hb⟩
  · rintro ⟨before, after, he, hp, hb⟩
    exact ⟨hp, before, after, he, hb⟩

theorem FirstTaken.unique {ps taken : List String} {path path' : String}
    (h : FirstTaken ps taken path) (h' : FirstTaken ps taken path') : path = path' := by
  rw [← find?_eq_some_iff_firstTaken] at h h'
  exact Option.some.inj (h.symm.trans h')

theorem FirstTaken.mem {ps taken : List String} {path : String} (h : FirstTaken ps taken path) :
    path ∈ ps ∧ path ∈ taken := by
  obtain ⟨before, after, rfl, hm, _⟩ := h
  exact ⟨by simp, hm⟩

theorem exists_firstTaken {ps taken : List String} :
    (∃ path, FirstTaken ps taken path) ↔ ∃ p ∈ ps, p ∈ taken := by
  constructor
  · rintro ⟨path, h⟩
    exact ⟨path, h.mem⟩
  · rintro ⟨p, hp, ht⟩
    cases hf : ps.find? (fun p => taken.contains p) with
    | none => exact absurd (List.contains_iff_mem.mpr ht) (List.find?_eq_none.mp hf p hp)
    | some path => exact ⟨path, find?_eq_some_iff_firstTaken.mp hf⟩

/-- Declaring a path again does not change which path is the first that is taken. -/
theorem firstTaken_declared {b : Blueprint} {ps : List String} (hb : b.Built ps)
    {taken : List String} {path : String} :
    FirstTaken b.paths taken path ↔ FirstTaken ps taken path := by
  rw [← find?_eq_some_iff_firstTaken, ← find?_eq_some_iff_firstTaken, hb.declared,
    Blueprint.find?_eraseDups]

/-- Neither the name nor a path of a blueprint is taken. -/
structure Fresh (app : Application) (b : Blueprint) : Prop where
  name : b.name ∉ app.blueprints
  paths : ∀ p ∈ b.paths, p ∉ app.paths

theorem Fresh.not_firstTaken {app : Application} {b : Blueprint} (h : app.Fresh b) (path : String) :
    ¬ FirstTaken b.paths app.paths path := fun hf => h.paths path hf.mem.1 hf.mem.2

/-- The application that takes in a blueprint, with the table of both. -/
def withBlueprint (app : Application) (b : Blueprint) (router : Router Endpoint) : Application :=
  { app with router, blueprints := app.blueprints ++ [b.name], paths := app.paths ++ b.paths }

/-- Everything that registering a blueprint can come to. -/
inductive AttemptSpec (app : Application) (b : Blueprint) : Step → Prop
  | duplicate : b.name ∈ app.blueprints →
    AttemptSpec app b { app, fault := some (.duplicateBlueprint b.name) }
  | taken (path : String) : b.name ∉ app.blueprints → FirstTaken b.paths app.paths path →
    AttemptSpec app b { app, fault := some (.pathTaken b.name path) }
  | refused (fault : RouteFault) : app.Fresh b → app.router.merge b.router = .error fault →
    AttemptSpec app b { app := { app with router := {} }, fault := some (.refused fault) }
  | accepted (router : Router Endpoint) : app.Fresh b → app.router.merge b.router = .ok router →
    AttemptSpec app b { app := app.withBlueprint b router, events := [registered b.name] }

theorem hasBlueprint_iff {app : Application} {name : String} :
    app.hasBlueprint name ↔ name ∈ app.blueprints :=
  List.contains_iff_mem

theorem attempt_spec (app : Application) (b : Blueprint) : AttemptSpec app b (app.attempt b) := by
  unfold attempt
  by_cases hname : b.name ∈ app.blueprints
  · rw [if_pos (hasBlueprint_iff.mpr hname)]
    exact .duplicate hname
  · rw [if_neg fun h => hname (hasBlueprint_iff.mp h)]
    cases hf : b.paths.find? (fun p => app.paths.contains p) with
    | some path => exact .taken path hname (find?_eq_some_iff_firstTaken.mp hf)
    | none =>
      have hfresh : app.Fresh b := ⟨hname, fun p hp hm =>
        List.find?_eq_none.mp hf p hp (List.contains_iff_mem.mpr hm)⟩
      cases hm : app.router.merge b.router with
      | error fault => exact .refused fault hfresh hm
      | ok router => exact .accepted router hfresh hm

theorem register_eq_error_iff {app : Application} {b : Blueprint} {fault : AppFault} :
    app.register b = .error fault ↔ (app.attempt b).fault = some fault := by
  unfold register
  obtain ⟨app', fault', events⟩ := app.attempt b
  cases fault' <;> simp

theorem register_eq_ok_iff {app app' : Application} {b : Blueprint} {events : List Log.Event} :
    app.register b = .ok (app', events) ↔ app.attempt b = { app := app', events } := by
  unfold register
  obtain ⟨app₁, fault, events₁⟩ := app.attempt b
  cases fault <;> simp

theorem register_duplicate_iff {app : Application} {b : Blueprint} {name : String} :
    app.register b = .error (.duplicateBlueprint name) ↔
      name = b.name ∧ b.name ∈ app.blueprints := by
  rw [register_eq_error_iff]
  have hs := attempt_spec app b
  generalize app.attempt b = step at hs
  cases hs with
  | duplicate hm => simp [hm, eq_comm]
  | taken path hm _ => simp [hm]
  | refused fault hf _ => simp [hf.name]
  | accepted router hf _ => simp [hf.name]

theorem register_taken_iff {app : Application} {b : Blueprint} {name path : String} :
    app.register b = .error (.pathTaken name path) ↔
      name = b.name ∧ b.name ∉ app.blueprints ∧ FirstTaken b.paths app.paths path := by
  rw [register_eq_error_iff]
  have hs := attempt_spec app b
  generalize app.attempt b = step at hs
  cases hs with
  | duplicate hm => simp [hm]
  | taken path' hm hf =>
    constructor
    · intro h
      obtain ⟨rfl, rfl⟩ : b.name = name ∧ path' = path := by simpa using h
      exact ⟨rfl, hm, hf⟩
    · rintro ⟨rfl, _, hf'⟩
      rw [hf.unique hf']
  | refused fault hf _ => simp [hf.not_firstTaken]
  | accepted router hf _ => simp [hf.not_firstTaken]

/-- What is told of a name or a path that is taken leaves the application as it was. -/
theorem attempt_of_error {app : Application} {b : Blueprint} {fault : AppFault}
    (h : app.register b = .error fault) (hr : ∀ f, fault ≠ .refused f) :
    app.attempt b = { app, fault := some fault } := by
  rw [register_eq_error_iff] at h
  have hs := attempt_spec app b
  generalize app.attempt b = step at h hs
  cases hs with
  | duplicate _ => rw [← Option.some.inj h]
  | taken path _ _ => rw [← Option.some.inj h]
  | refused f _ _ => exact absurd (Option.some.inj h).symm (hr f)
  | accepted router _ _ => cases h

/-- A name that is taken is told whatever the paths are; else the first declared path that is taken
is told, if there is one. What has been told changes nothing: the application and its routes are
the same, nothing is logged, and operations that follow leave what they would have left without it. -/
theorem registration_rejected {b : Blueprint} {ps : List String} (hb : b.Built ps)
    (app : Application) :
    (∀ name, app.register b = .error (.duplicateBlueprint name) ↔
      name = b.name ∧ b.name ∈ app.blueprints) ∧
    ((∃ path, app.register b = .error (.pathTaken b.name path)) ↔
      b.name ∉ app.blueprints ∧ ∃ p ∈ ps, p ∈ app.paths) ∧
    (∀ name path, app.register b = .error (.pathTaken name path) →
      name = b.name ∧ FirstTaken ps app.paths path) ∧
    ∀ fault, app.register b = .error fault → (∀ f, fault ≠ .refused f) →
      app.perform (.register b) = { app, fault := some fault, events := [] } ∧
      ∀ ops, app.run (.register b :: ops) =
        { app, fault := some fault, events := [] } :: app.run ops := by
  refine ⟨fun name => register_duplicate_iff, ?_, ?_, ?_⟩
  · rw [← exists_firstTaken]
    constructor
    · rintro ⟨path, h⟩
      obtain ⟨_, hn, hf⟩ := register_taken_iff.mp h
      exact ⟨hn, path, (firstTaken_declared hb).mp hf⟩
    · rintro ⟨hn, path, hf⟩
      exact ⟨path, register_taken_iff.mpr ⟨rfl, hn, (firstTaken_declared hb).mpr hf⟩⟩
  · intro name path h
    obtain ⟨hname, _, hf⟩ := register_taken_iff.mp h
    exact ⟨hname, (firstTaken_declared hb).mp hf⟩
  · intro fault h hr
    have hstep : app.perform (.register b) = { app, fault := some fault } := attempt_of_error h hr
    refine ⟨hstep, fun ops => ?_⟩
    rw [run, hstep]

/-- A view of its own where the status of the reports would be. -/
def statusView : Blueprint :=
  Blueprint.single "status" (.literal Reporting.statusPath)
    (.single (.only .get) (Endpoint.text "up"))

def statusApp : Application := new.withBlueprint statusView (new.router.beside statusView.router)

/-- The reports bring one path that is free and one that is taken, and leave nothing behind. -/
theorem reporting_rejected :
    (Reporting.blueprint .random).Built [Reporting.indexPath, Reporting.statusPath] ∧
      statusApp.register (Reporting.blueprint .random) =
        .error (.pathTaken Reporting.name Reporting.statusPath) ∧
      FirstTaken [Reporting.indexPath, Reporting.statusPath] statusApp.paths Reporting.statusPath ∧
      ∀ ops, statusApp.run (.register (Reporting.blueprint .random) :: ops) =
        { app := statusApp, fault := some (.pathTaken Reporting.name Reporting.statusPath) } ::
          statusApp.run ops := by
  have hregister : statusApp.register (Reporting.blueprint .random) =
      .error (.pathTaken Reporting.name Reporting.statusPath) := rfl
  obtain ⟨_, _, htaken, hkept⟩ :=
    registration_rejected (Blueprint.built_reporting .random) statusApp
  refine ⟨Blueprint.built_reporting .random, hregister, (htaken _ _ hregister).2, ?_⟩
  exact (hkept _ hregister fun f h => by cases h).2

end DevServer.Application
