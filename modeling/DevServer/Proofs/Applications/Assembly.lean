import DevServer.Proofs.Applications.Registration
import DevServer.Proofs.Routes.Service

/-!
# Applications as registrations make them

`Assembled` follows an application from its beginning through the blueprints that it has accepted.
All along, its list of paths is the list of its table, no two patterns of the table conflict, and
the table is that of the health route and of the blueprints beside each other. Registering refuses
nothing by name or path that the table would refuse for other reasons: two patterns of different
texts may conflict, and then the table is lost.
-/
namespace DevServer.Application

set_option autoImplicit false

open Http

/-- Applications that have accepted these blueprints, those of their beginning included. -/
inductive Assembled : List Blueprint → Application → Prop
  | new : Assembled [] .new
  | build {s : Settings} {app : Application} {events : List Log.Event} :
    Application.build s = .ok (app, events) →
      Assembled (app.adapter.toList.map Reporting.blueprint) app
  | register {bs : List Blueprint} {app app' : Application} {b : Blueprint} {ps : List String}
      {events : List Log.Event} :
    Assembled bs app → b.Built ps → app.register b = .ok (app', events) → Assembled (bs ++ [b]) app'

/-- The tables that an application is made of. -/
def parts (bs : List Blueprint) : List (Router Endpoint) :=
  Health.router 0 :: bs.map Blueprint.router

/-- What registrations keep. -/
structure Consistent (bs : List Blueprint) (app : Application) : Prop where
  routes : app.router.routes = (parts bs).flatMap Router.routes
  sound : Sound app.router.patterns
  served : app.paths = app.router.paths
  names : app.blueprints = bs.map Blueprint.name
  built : ∀ b ∈ bs, ∃ ps, b.Built ps

theorem wellFormed_health : (Pattern.literal Health.path).WellFormed :=
  Pattern.wellFormed_literal rfl (by decide)

theorem consistent_new : Consistent [] .new where
  routes := by simp [parts, new]
  sound := .singleton wellFormed_health
  served := rfl
  names := rfl
  built := by simp

/-- A fresh blueprint brings no path that the table has. -/
theorem Fresh.routes {app : Application} {b : Blueprint} {ps : List String} (hf : app.Fresh b)
    (hb : b.Built ps) (hs : app.paths = app.router.paths) :
    ∀ text ∈ b.router.paths, text ∉ app.router.paths := by
  rw [← hb.served, ← hs]
  exact hf.paths

theorem register_ok {app app' : Application} {b : Blueprint} {events : List Log.Event}
    (h : app.register b = .ok (app', events)) :
    app.Fresh b ∧ ∃ router, app.router.merge b.router = .ok router ∧
      app' = app.withBlueprint b router ∧ events = [registered b.name] := by
  rw [register_eq_ok_iff] at h
  have hs := attempt_spec app b
  rw [h] at hs
  cases hs with
  | accepted router hf hm => exact ⟨hf, router, hm, rfl, rfl⟩

/-- A table that takes in the routes of a fresh blueprint has them beside its own. -/
theorem merge_ok {app : Application} {b : Blueprint} {ps : List String} {router : Router Endpoint}
    (hs : app.paths = app.router.paths) (hb : b.Built ps) (hf : app.Fresh b)
    (hm : app.router.merge b.router = .ok router) :
    router = app.router.beside b.router ∧ ¬ app.router.Clashing b.router := by
  have hn := hf.routes hb hs
  by_cases hc : app.router.Clashing b.router
  · obtain ⟨p, _, shown, he⟩ := Router.merge_eq_error hb.sound hn hc
    rw [he] at hm
    cases hm
  · rw [Router.merge_eq_ok hb.sound hn hc] at hm
    exact ⟨(Except.ok.inj hm).symm, hc⟩

theorem Consistent.register {bs : List Blueprint} {app app' : Application} {b : Blueprint}
    {ps : List String} {events : List Log.Event} (hc : Consistent bs app) (hb : b.Built ps)
    (h : app.register b = .ok (app', events)) : Consistent (bs ++ [b]) app' := by
  obtain ⟨hf, router, hm, rfl, _⟩ := register_ok h
  obtain ⟨rfl, hclash⟩ := merge_ok hc.served hb hf hm
  refine ⟨?_, Router.sound_beside hc.sound hb.sound hclash, ?_, ?_, ?_⟩
  · simp [withBlueprint, Router.beside, hc.routes, parts]
  · simp [withBlueprint, hc.served, hb.served]
  · simp [withBlueprint, hc.names]
  · intro b' hm'
    rcases List.mem_append.mp hm' with h | h
    · exact hc.built b' h
    · rw [List.mem_singleton.mp h]
      exact ⟨ps, hb⟩

/-- The adapter is remembered beside the table and plays no part in it. -/
theorem Consistent.withAdapter {bs : List Blueprint} {app : Application} (h : Consistent bs app)
    (adapter : Option Adapter) : Consistent bs { app with adapter } :=
  ⟨h.routes, h.sound, h.served, h.names, h.built⟩

theorem withAdapter_ok {adapter : Option Adapter} {app : Application} {events : List Log.Event}
    (h : Application.withAdapter adapter = .ok (app, events)) :
    app.adapter = adapter ∧ Consistent (adapter.toList.map Reporting.blueprint) app := by
  cases adapter with
  | none =>
    obtain rfl := congrArg Prod.fst (Except.ok.inj h)
    exact ⟨rfl, consistent_new⟩
  | some a =>
    unfold Application.withAdapter at h
    cases hr : new.register (Reporting.blueprint a) with
    | error fault => simp [hr] at h
    | ok result =>
      obtain ⟨app₁, events₁⟩ := result
      simp only [hr] at h
      obtain rfl := congrArg Prod.fst (Except.ok.inj h)
      have hc := consistent_new.register (Blueprint.built_reporting a) hr
      exact ⟨rfl, hc.withAdapter (some a)⟩

theorem build_ok {s : Settings} {app : Application} {events : List Log.Event}
    (h : Application.build s = .ok (app, events)) :
    ∃ adapter events', Application.withAdapter adapter = .ok (app, events') := by
  unfold Application.build at h
  cases hr : (AdapterChoice.ofName s.adapter).resolve s.strictAdapter with
  | error unknown => simp [hr] at h
  | ok result =>
    obtain ⟨adapter, events₁⟩ := result
    cases hw : Application.withAdapter adapter with
    | error fault => simp [hr, hw] at h
    | ok result =>
      obtain ⟨app₁, events₂⟩ := result
      obtain rfl : app₁ = app := by
        simp only [hr, hw] at h
        exact congrArg Prod.fst (Except.ok.inj h)
      exact ⟨adapter, events₂, hw⟩

/-- Building registers the reporting views of the adapter, or nothing. -/
theorem Consistent.build {s : Settings} {app : Application} {events : List Log.Event}
    (h : Application.build s = .ok (app, events)) :
    Consistent (app.adapter.toList.map Reporting.blueprint) app := by
  obtain ⟨adapter, _, hw⟩ := build_ok h
  obtain ⟨ha, hc⟩ := withAdapter_ok hw
  rw [ha]
  exact hc

theorem Assembled.consistent {bs : List Blueprint} {app : Application} (h : Assembled bs app) :
    Consistent bs app := by
  induction h with
  | new => exact consistent_new
  | build h => exact .build h
  | register _ hb h ih => exact ih.register hb h

/-- What registering a fresh blueprint comes to is a question of conflicts alone. -/
theorem Consistent.attempt_fresh {bs : List Blueprint} {app : Application} {b : Blueprint}
    {ps : List String} (hc : Consistent bs app) (hb : b.Built ps) (hf : app.Fresh b) :
    (¬ app.router.Clashing b.router ∧
      app.attempt b = { app := app.withBlueprint b (app.router.beside b.router),
                        events := [registered b.name] }) ∨
    (app.router.Clashing b.router ∧ ∃ p ∈ ps, ∃ shown,
      app.attempt b = { app := { app with router := {} },
                        fault := some (.refused (.pattern p (.conflict shown))) }) := by
  have hn := hf.routes hb hc.served
  have hs := attempt_spec app b
  generalize app.attempt b = step at hs
  cases hs with
  | duplicate hm => exact absurd hm hf.name
  | taken path _ ht => exact absurd ht (hf.not_firstTaken path)
  | refused fault _ hm =>
    by_cases hclash : app.router.Clashing b.router
    · obtain ⟨p, hp, shown, he⟩ := Router.merge_eq_error hb.sound hn hclash
      obtain rfl : fault = .pattern p.text (.conflict shown) := by
        rw [he] at hm
        exact (Except.error.inj hm).symm
      have hmem : p.text ∈ ps := by
        rw [← hb.mem_paths, hb.served]
        exact Router.mem_paths.mpr ⟨p, hp, rfl⟩
      exact .inr ⟨hclash, p.text, hmem, shown, rfl⟩
    · rw [Router.merge_eq_ok hb.sound hn hclash] at hm
      cases hm
  | accepted router _ hm =>
    obtain ⟨rfl, hclash⟩ := merge_ok hc.served hb hf hm
    exact .inl ⟨hclash, rfl⟩

theorem Consistent.health_mem {bs : List Blueprint} {app : Application} (hc : Consistent bs app) :
    Health.path ∈ app.paths := by
  rw [hc.served, Router.paths, hc.routes, parts, List.flatMap_cons, List.map_append]
  exact List.mem_append_left _ (List.mem_singleton.mpr rfl)

theorem fresh_of_refused {app : Application} {b : Blueprint} {fault : RouteFault}
    (h : app.register b = .error (.refused fault)) : app.Fresh b := by
  rw [register_eq_error_iff] at h
  have hs := attempt_spec app b
  generalize app.attempt b = step at h hs
  cases hs with
  | duplicate _ => cases h
  | taken path _ _ => cases h
  | refused fault hf _ => exact hf
  | accepted router _ _ => cases h

/-- The table refuses a blueprint exactly if it is fresh and has a pattern that conflicts. -/
theorem Consistent.refused_iff {bs : List Blueprint} {app : Application} {b : Blueprint}
    {ps : List String} (hc : Consistent bs app) (hb : b.Built ps) :
    (∃ fault, app.register b = .error (.refused fault)) ↔
      app.Fresh b ∧ app.router.Clashing b.router := by
  constructor
  · rintro ⟨fault, h⟩
    have hf := fresh_of_refused h
    refine ⟨hf, ?_⟩
    rcases hc.attempt_fresh hb hf with ⟨_, ha⟩ | ⟨hclash, _⟩
    · rw [register_eq_error_iff, ha] at h
      cases h
    · exact hclash
  · rintro ⟨hf, hclash⟩
    rcases hc.attempt_fresh hb hf with ⟨hn, _⟩ | ⟨_, p, _, shown, ha⟩
    · exact absurd hclash hn
    · exact ⟨.pattern p (.conflict shown), by rw [register_eq_error_iff, ha]⟩

theorem fresh_iff {app : Application} {b : Blueprint} {ps : List String} (hb : b.Built ps) :
    app.Fresh b ↔ b.name ∉ app.blueprints ∧ ∀ p ∈ ps, p ∉ app.paths := by
  constructor
  · intro hf
    exact ⟨hf.name, fun p hp => hf.paths p (hb.mem_paths.mpr hp)⟩
  · rintro ⟨hn, hp⟩
    exact ⟨hn, fun p hm => hp p (hb.mem_paths.mp hm)⟩

theorem Consistent.clashing_iff {bs : List Blueprint} {app : Application} {b : Blueprint}
    {ps : List String} (hc : Consistent bs app) (hb : b.Built ps) :
    app.router.Clashing b.router ↔ ∃ p ∈ ps, ∃ q ∈ app.paths, Clash q p := by
  rw [Router.clashing_iff_clash hc.sound hb.sound, ← hb.served, ← hc.served]
  simp only [hb.mem_paths]

/-- Exactly where a blueprint of new name and new paths has a pattern that conflicts with a served
one, the table refuses it, and what is left has lost its table but not its paths. In all other
cases the names, the paths and the table are those of the accepted blueprints. -/
theorem register_refused_iff {bs : List Blueprint} {app : Application} (ha : Assembled bs app)
    {b : Blueprint} {ps : List String} (hb : b.Built ps) :
    ((∃ fault, app.register b = .error (.refused fault)) ↔
      b.name ∉ app.blueprints ∧ (∀ p ∈ ps, p ∉ app.paths) ∧
        ∃ p ∈ ps, ∃ q ∈ app.paths, Clash q p) ∧
    (∀ fault, app.register b = .error (.refused fault) →
      (∃ p ∈ ps, ∃ shown, fault = .pattern p (.conflict shown)) ∧
      (app.perform (.register b)).app = { app with router := {} } ∧
      (app.perform (.register b)).app.paths ≠ (app.perform (.register b)).app.router.paths) ∧
    ((∀ fault, app.register b ≠ .error (.refused fault)) →
      (app.perform (.register b) = { app, fault := some (.duplicateBlueprint b.name) } ∧
        Consistent bs app) ∨
      (∃ path, app.perform (.register b) = { app, fault := some (.pathTaken b.name path) } ∧
        Consistent bs app) ∨
      ∃ app', app.perform (.register b) = { app := app', events := [registered b.name] } ∧
        Consistent (bs ++ [b]) app') := by
  have hc := ha.consistent
  refine ⟨?_, ?_, ?_⟩
  · rw [hc.refused_iff hb, fresh_iff hb, hc.clashing_iff hb, and_assoc]
  · intro fault h
    have hf := fresh_of_refused h
    rw [register_eq_error_iff] at h
    rcases hc.attempt_fresh hb hf with ⟨_, hstep⟩ | ⟨_, p, hp, shown, hstep⟩
    · rw [hstep] at h
      cases h
    · rw [hstep] at h
      have he : fault = .pattern p (.conflict shown) := by simpa using h.symm
      refine ⟨⟨p, hp, shown, he⟩, ?_, ?_⟩
      · rw [perform, hstep]
      · rw [perform, hstep]
        exact List.ne_nil_of_mem hc.health_mem
  · intro hn
    have hs := attempt_spec app b
    rw [perform]
    generalize hstep : app.attempt b = step at hs
    cases hs with
    | duplicate _ => exact .inl ⟨rfl, hc⟩
    | taken path _ _ => exact .inr (.inl ⟨path, rfl, hc⟩)
    | refused fault _ _ => exact absurd (register_eq_error_iff.mpr (by rw [hstep])) (hn fault)
    | accepted router hf hm =>
      have hreg : app.register b = .ok (app.withBlueprint b router, [registered b.name]) :=
        register_eq_ok_iff.mpr hstep
      exact .inr (.inr ⟨_, rfl, hc.register hb hreg⟩)

/-- The pattern of a path of one segment, with a parameter of this name. -/
def segment (name : String) : Pattern :=
  ⟨"/\x7b" ++ name ++ "\x7d", [.literal '/', .param name]⟩

/-- A blueprint that answers all paths of one segment. -/
def page (name : String) : Blueprint :=
  .single name (segment name) (.single (.only .get) (Endpoint.text ""))

/-- The application that answers all paths of one segment by the page `a`. -/
def pages : Application := new.withBlueprint (page "a") (new.router.beside (page "a").router)

theorem built_page_a : (page "a").Built ["/\x7ba\x7d"] := by
  have hw : (segment "a").WellFormed := ⟨rfl, rfl, trivial⟩
  exact Blueprint.built_single "a" hw _

theorem built_page_b : (page "b").Built ["/\x7bb\x7d"] := by
  have hw : (segment "b").WellFormed := ⟨rfl, rfl, trivial⟩
  exact Blueprint.built_single "b" hw _

theorem assembled_pages : Assembled [page "a"] pages := by
  have hr : new.register (page "a") = .ok (pages, [registered "a"]) := rfl
  exact Assembled.new.register built_page_a hr

/-- A second page has a name and a path of its own, and yet the table refuses it. -/
theorem second_page_refused :
    Assembled [page "a"] pages ∧ (page "b").Built ["/\x7bb\x7d"] ∧
      (page "b").name ∉ pages.blueprints ∧ "/\x7bb\x7d" ∉ pages.paths ∧
      pages.register (page "b") =
        .error (.refused (.pattern "/\x7bb\x7d" (.conflict "/\x7ba\x7d"))) :=
  ⟨assembled_pages, built_page_b, by decide, by decide, rfl⟩

theorem second_page_refused_by_conflict :
    Assembled [page "a"] pages ∧ (page "b").Built ["/\x7bb\x7d"] ∧
      ∃ fault, pages.register (page "b") = .error (.refused fault) := by
  have hclash : Clash "/\x7ba\x7d" "/\x7bb\x7d" :=
    ⟨segment "a", segment "b", rfl, rfl, .literal '/' (.param "a" "b" .done)⟩
  refine ⟨assembled_pages, built_page_b, ?_⟩
  refine (register_refused_iff assembled_pages built_page_b).1.mpr ⟨by decide, by decide, ?_⟩
  exact ⟨"/\x7bb\x7d", List.mem_singleton_self _, "/\x7ba\x7d", by decide, hclash⟩

end DevServer.Application
