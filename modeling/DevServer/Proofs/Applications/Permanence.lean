import DevServer.Proofs.Applications.Runs

/-!
# What is served from the beginning

The routes that an application is built with have no parameters. Registrations leave them in the
table and bring no other route of their paths, and text comes before parameters: so they serve their
paths for ever, with the methods and the handlers that they have had.
-/
namespace DevServer.Application

set_option autoImplicit false

open Http

/-- An application at its beginning is bare or has the reports of its adapter. -/
theorem begins_cases {app : Application}
    (h : app = new ∨ ∃ s events, build s = .ok (app, events)) :
    app = new ∨ ∃ a, app = reports a := by
  rcases h with h | ⟨s, events, h⟩
  · exact .inl h
  · have hs := build_spec s
    rw [h] at hs
    cases hs with
    | bare _ => exact .inl rfl
    | reports a _ => exact .inr ⟨a, rfl⟩
    | skipped _ _ _ _ => exact .inl rfl

theorem views_at_beginning {app : Application} (h : app = new ∨ ∃ a, app = reports a) :
    (∀ t ∈ app.router.routes, Router.View t) ∧
      app.router.paths = servedFor (app.adapter.map Adapter.name) := by
  rcases h with rfl | ⟨a, rfl⟩
  · exact ⟨views_new, paths_new fun a ha => by cases ha⟩
  · exact ⟨views_reports a, paths_reports rfl⟩

theorem fixed_at_beginning {app : Application} (h : app = new ∨ ∃ a, app = reports a)
    {path : String} (hp : path ∈ servedFor (app.adapter.map Adapter.name)) :
    ∃ e, Route.literal path e ∈ app.router.routes := by
  obtain ⟨hviews, hpaths⟩ := views_at_beginning h
  rw [← hpaths] at hp
  obtain ⟨t, ht, he⟩ := List.mem_map.mp hp
  cases hviews t ht with
  | get text handler _ =>
    obtain rfl : text = path := he
    exact ⟨_, ht⟩

theorem adapter_perform_register (app : Application) (b : Blueprint) :
    (app.perform (.register b)).app.adapter = app.adapter := by
  have hs := attempt_spec app b
  show (app.attempt b).app.adapter = app.adapter
  generalize app.attempt b = step at hs
  cases hs <;> rfl

theorem adapter_after_registers (app : Application) (cs : List Blueprint) :
    (app.after (cs.map .register)).adapter = app.adapter := by
  induction cs generalizing app with
  | nil => rfl
  | cons c cs ih => exact (ih _).trans (adapter_perform_register app c)

theorem prefix_accept_register (app : Application) (bs : List Blueprint) (b : Blueprint) :
    bs <+: app.accept bs (.register b) := by
  cases hf : (app.perform (.register b)).fault with
  | some fault =>
    have he : app.accept bs (.register b) = bs := accept_failed hf
    exact ⟨[], (List.append_nil bs).trans he.symm⟩
  | none =>
    have he : app.accept bs (.register b) = bs ++ [b] := accept_done hf
    exact ⟨[b], he.symm⟩

/-- Registrations leave the blueprints that were accepted before. -/
theorem prefix_accepted_registers (app : Application) (bs cs : List Blueprint) :
    bs <+: app.accepted bs (cs.map .register) := by
  induction cs generalizing app bs with
  | nil => exact List.prefix_rfl
  | cons c cs ih => exact (prefix_accept_register app bs c).trans (ih _ _)

theorem Consistent.routes_subset {bs bs' : List Blueprint} {app app' : Application}
    (hc : Consistent bs app) (hc' : Consistent bs' app') (hp : bs <+: bs') :
    ∀ t ∈ app.router.routes, t ∈ app'.router.routes := by
  obtain ⟨rest, rfl⟩ := hp
  intro t ht
  rw [hc.routes] at ht
  rw [hc'.routes, parts, List.map_append, ← List.cons_append, List.flatMap_append]
  exact List.mem_append_left _ ht

/-- A route of its own serves its path as before, whatever has been registered since. -/
theorem Consistent.find?_kept {bs bs' : List Blueprint} {app app' : Application}
    (hc : Consistent bs app) (hc' : Consistent bs' app') (hp : bs <+: bs') {path : String}
    {e : Endpoints Endpoint} (h : Route.literal path e ∈ app.router.routes) :
    app'.router.find? path = app.router.find? path := by
  have h' := hc.routes_subset hc' hp _ h
  rw [Router.find?_literal hc'.sound h', Router.find?_literal hc.sound h]

/-- What is served from the beginning is served by the same route and answered as it was then,
whatever has been registered since or rejected: health answers GET, and the reports name the adapter
of the application. -/
theorem system_routes_kept {app : Application}
    (h : app = new ∨ ∃ s events, build s = .ok (app, events)) {cs : List Blueprint}
    (hb : ∀ c ∈ cs, ∃ ps, c.Built ps) (hi : app.Intact (cs.map .register)) :
    (app.after (cs.map .register)).adapter = app.adapter ∧
    (∀ req : Request, req.uri.path ∈ servedFor (app.adapter.map Adapter.name) →
      (app.after (cs.map .register)).router.find? req.uri.path = app.router.find? req.uri.path ∧
      (app.after (cs.map .register)).router.answer req = app.router.answer req) ∧
    (∀ req : Request, req.uri.path = "/health" → req.method = .get →
      ((app.after (cs.map .register)).router.answer req).status = 200) ∧
    ∀ a, (app.after (cs.map .register)).adapter = some a →
      (app.after (cs.map .register)).NamesAdapter a := by
  have hbegins := begins_cases h
  have ha : Assembled (app.adapter.toList.map Reporting.blueprint) app := by
    rcases h with rfl | ⟨s, events, h⟩
    · exact .new
    · exact .build h
  have hbuilt : ∀ b, .register b ∈ cs.map Operation.register → ∃ ps, b.Built ps := by
    intro b hm
    obtain ⟨c, hc, he⟩ := List.mem_map.mp hm
    rw [← Operation.register.inj he]
    exact hb c hc
  have hafter := ha.after hbuilt hi
  have hprefix := prefix_accepted_registers app (app.adapter.toList.map Reporting.blueprint) cs
  -- The route of the path is the same in both tables, and text wins in each of them.
  have hkept : ∀ path ∈ servedFor (app.adapter.map Adapter.name),
      (app.after (cs.map .register)).router.find? path = app.router.find? path := by
    intro path hp
    obtain ⟨e, he⟩ := fixed_at_beginning hbegins hp
    exact ha.consistent.find?_kept hafter.consistent hprefix he
  refine ⟨adapter_after_registers app cs,
    fun req hp => ⟨hkept _ hp, Router.answer_congr (hkept _ hp)⟩, ?_, ?_⟩
  · intro req hp hg
    obtain ⟨hviews, hpaths⟩ := views_at_beginning hbegins
    have hm : req.uri.path ∈ servedFor (app.adapter.map Adapter.name) := by
      rw [hp]
      exact health_mem_servedFor _
    rw [Router.answer_congr (hkept _ hm), Router.status_of_views ha.consistent.sound hviews,
      hpaths, if_pos hm, if_pos (.inl hg)]
  · intro a had
    obtain ⟨rest, hrest⟩ := hafter.reports_first had
    refine hafter.consistent.namesAdapter ?_
    rw [← hrest]
    exact List.mem_cons_self ..

/-- The pattern of all paths below the reports. -/
def belowReports : Pattern :=
  ⟨"/reporting/\x7b*rest\x7d", "/reporting/".toList.map .literal ++ [.rest "rest"]⟩

/-- A blueprint that would answer every method on them. -/
def archive : Blueprint := .single "archive" belowReports (.single .any (Endpoint.text "archived"))

theorem built_archive : archive.Built ["/reporting/\x7b*rest\x7d"] := by
  have hw : belowReports.WellFormed := ⟨rfl, rfl, rfl⟩
  exact Blueprint.built_single "archive" hw _

theorem faults_overlaid :
    ((reports .mysql).run ([page "a", archive, statusView].map .register)).map Step.fault =
      [none, none, some (.pathTaken "status" "/reporting/status")] := rfl

/-- Two patterns match the status of the reports as well, and a third blueprint claims it. -/
theorem status_kept_under_patterns :
    build { adapter := some "MYSQL" } =
        .ok (reports .mysql, [registered Reporting.name, (reports .mysql).initialized]) ∧
      (∀ c ∈ [page "a", archive, statusView], ∃ ps, c.Built ps) ∧
      (reports .mysql).Intact ([page "a", archive, statusView].map .register) ∧
      ∀ method headers body,
        ((reports .mysql).after ([page "a", archive, statusView].map .register)).router.answer
            ⟨method, { path := "/reporting/status", query := some "all" }, headers, body⟩ =
          (reports .mysql).router.answer
            ⟨method, { path := "/reporting/status", query := some "all" }, headers, body⟩ := by
  have hbuild : build { adapter := some "MYSQL" } =
      .ok (reports .mysql, [registered Reporting.name, (reports .mysql).initialized]) :=
    build_known rfl
  have hb : ∀ c ∈ [page "a", archive, statusView], ∃ ps, c.Built ps := by
    intro c hc
    have hcases : c = page "a" ∨ c = archive ∨ c = statusView := by simpa using hc
    rcases hcases with rfl | rfl | rfl
    · exact ⟨_, built_page_a⟩
    · exact ⟨_, built_archive⟩
    · exact ⟨_, Blueprint.built_single "status" Blueprint.wellFormed_statusPath _⟩
  have hi : (reports .mysql).Intact ([page "a", archive, statusView].map .register) := by
    intro f
    rw [faults_overlaid]
    simp
  have hkept := (system_routes_kept (.inr ⟨_, _, hbuild⟩) hb hi).2.1
  refine ⟨hbuild, hb, hi, fun method headers body => (hkept _ ?_).2⟩
  show "/reporting/status" ∈ ["/health", "/reporting", "/reporting/status"]
  decide

end DevServer.Application
