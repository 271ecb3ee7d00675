import DevServer.Proofs.Applications.Assembly
import Mathlib.Data.List.Nodup

/-!
# Every answer is that of one part alone

An application answers by the table of its own health and the tables of its blueprints beside each
other. Registering a blueprint leaves each answer as it was or makes it the answer of the blueprint
alone, and over a run every request that has a route is answered by exactly one of the parts. The
order in which patterns are preferred is that of `Pattern.precedes`; it is not derived here.
-/
namespace DevServer.Application

set_option autoImplicit false

open Http

theorem Consistent.parts_sound {bs : List Blueprint} {app : Application} (hc : Consistent bs app) :
    ∀ part ∈ parts bs, Sound part.patterns := by
  intro part hp
  rcases List.mem_cons.mp hp with rfl | hp
  · exact .singleton wellFormed_health
  · obtain ⟨b, hb, rfl⟩ := List.mem_map.mp hp
    obtain ⟨ps, hbuilt⟩ := hc.built b hb
    exact hbuilt.sound

theorem Consistent.mem_routes_iff {bs : List Blueprint} {app : Application} (hc : Consistent bs app)
    {t : Route Endpoint} : t ∈ app.router.routes ↔ ∃ part ∈ parts bs, t ∈ part.routes := by
  rw [hc.routes, List.mem_flatMap]

/-- No path is a path of two parts. -/
theorem Consistent.part_unique {bs : List Blueprint} {app : Application} (hc : Consistent bs app)
    {i j : Nat} {r s : Router Endpoint} (hi : (parts bs)[i]? = some r)
    (hj : (parts bs)[j]? = some s) {text : String} (hr : text ∈ r.paths) (hs : text ∈ s.paths) :
    i = j := by
  have hpaths : app.router.paths = (parts bs).flatMap Router.paths := by
    rw [Router.paths, hc.routes, List.map_flatMap]
    rfl
  have hnodup : ((parts bs).flatMap Router.paths).Nodup := by
    rw [← hpaths, Router.paths_eq]
    exact hc.sound.nodup_texts
  have hdisjoint := List.pairwise_iff_getElem.mp (List.nodup_flatMap.mp hnodup).2
  obtain ⟨hi', rfl⟩ := List.getElem?_eq_some_iff.mp hi
  obtain ⟨hj', rfl⟩ := List.getElem?_eq_some_iff.mp hj
  rcases Nat.lt_trichotomy i j with h | h | h
  · exact absurd hs (hdisjoint i j hi' hj' h hr)
  · exact h
  · exact absurd hr (hdisjoint j i hj' hi' h hs)

/-- The route of a request is one of exactly one part, and there it is the route as well. -/
theorem Consistent.part_of_find? {bs : List Blueprint} {app : Application} (hc : Consistent bs app)
    {path : String} {m : Router.Matched Endpoint} (h : app.router.find? path = some m) :
    ∃! i : Nat, ∃ part : Router Endpoint, (parts bs)[i]? = some part ∧
      part.find? path = some m := by
  obtain ⟨part, hp, ht⟩ := hc.mem_routes_iff.mp (Router.route_mem_of_find? hc.sound h)
  have hsub : ∀ t ∈ part.routes, t ∈ app.router.routes :=
    fun t ht => hc.mem_routes_iff.mpr ⟨part, hp, ht⟩
  have hfind := Router.find?_of_part hc.sound (hc.parts_sound part hp) hsub h ht
  obtain ⟨i, hi⟩ := List.mem_iff_getElem?.mp hp
  refine ⟨i, ⟨part, hi, hfind⟩, ?_⟩
  rintro j ⟨part', hj, hfind'⟩
  have hp' := List.mem_of_getElem? hj
  have ht' := Router.route_mem_of_find? (hc.parts_sound part' hp') hfind'
  exact hc.part_unique hj hi (List.mem_map_of_mem ht') (List.mem_map_of_mem ht)

/-- What a registration does to the answers. -/
theorem Consistent.answer_register {bs : List Blueprint} {app app' : Application} {b : Blueprint}
    {ps : List String} {events : List Log.Event} (hc : Consistent bs app) (hb : b.Built ps)
    (h : app.register b = .ok (app', events)) (req : Request) :
    ((∀ p ∈ ps, ¬ Serves p req.uri.path) → app'.router.answer req = app.router.answer req) ∧
    ((∀ p ∈ app.paths, ¬ Serves p req.uri.path) → app'.router.answer req = b.router.answer req) ∧
    (app'.router.answer req = app.router.answer req ∨
      app'.router.answer req = b.router.answer req) := by
  obtain ⟨hf, router, hm, rfl, _⟩ := register_ok h
  obtain ⟨rfl, hclash⟩ := merge_ok hc.served hb hf hm
  refine ⟨fun hn => ?_, fun hn => ?_, ?_⟩
  · have hnone : b.router.find? req.uri.path = none := by
      rw [Router.find?_eq_none_iff_serves hb.sound, ← hb.served]
      exact fun p hp => hn p (hb.mem_paths.mp hp)
    exact Router.answer_congr (Router.find?_beside_of_right_none hnone)
  · have hnone : app.router.find? req.uri.path = none := by
      rw [Router.find?_eq_none_iff_serves hc.sound, ← hc.served]
      exact hn
    exact Router.answer_congr (Router.find?_beside_of_left_none hnone)
  · exact (Router.find?_beside hc.sound hb.sound hclash req.uri.path).imp
      Router.answer_congr Router.answer_congr

/-- Registering a blueprint keeps the answers where its paths do not match, gives its own answers
with its own state where no earlier path matches, and gives one of these two everywhere. Over a
run, the registered blueprints are those of the parts, each with a state of its own; a request falls
back exactly if no listed path matches, and any other is answered as exactly one part answers it
alone. -/
theorem answer_of_one_part {bs : List Blueprint} {app : Application} (ha : Assembled bs app) :
    (∀ {σ : Type} (d : Blueprint.Draft σ) (state : σ) (ps : List String),
      Blueprint.Draft.Made d.name ps d → ∀ app' events,
      app.register (d.withState state) = .ok (app', events) → ∀ req,
        ((∀ p ∈ ps, ¬ Serves p req.uri.path) →
          app'.router.answer req = app.router.answer req) ∧
        ((∀ p ∈ app.paths, ¬ Serves p req.uri.path) →
          app'.router.answer req = (d.router.map fun h => h state).answer req) ∧
        (app'.router.answer req = app.router.answer req ∨
          app'.router.answer req = (d.router.map fun h => h state).answer req)) ∧
    app.blueprints = bs.map Blueprint.name ∧ (∀ b ∈ bs, ∃ ps, b.Built ps) ∧
    ∀ req,
      (app.router.FallsBack req ↔ ∀ p ∈ app.paths, ¬ Serves p req.uri.path) ∧
      (app.router.FallsBack req → (app.router.answer req).status = 404) ∧
      (¬ app.router.FallsBack req → ∃! i : Nat, ∃ part : Router Endpoint,
        (parts bs)[i]? = some part ∧ part.find? req.uri.path = app.router.find? req.uri.path ∧
          app.router.answer req = part.answer req) := by
  have hc := ha.consistent
  refine ⟨fun d state ps hm app' events h req => ?_, hc.names, hc.built,
    fun req => ⟨?_, ?_, fun hn => ?_⟩⟩
  · exact hc.answer_register ⟨_, d, state, hm, rfl⟩ h req
  · rw [Router.fallsBack_iff hc.sound, Router.find?_eq_none_iff_serves hc.sound, ← hc.served]
  · exact Router.status_of_fallsBack
  · rw [Router.fallsBack_iff hc.sound] at hn
    obtain ⟨m, hm⟩ := Option.ne_none_iff_exists'.mp hn
    obtain ⟨i, ⟨part, hi, hfind⟩, hunique⟩ := hc.part_of_find? hm
    refine ⟨i, ⟨part, hi, hfind.trans hm.symm, ?_⟩, ?_⟩
    · exact Router.answer_congr (hm.trans hfind.symm)
    · rintro j ⟨part', hj, hfind', _⟩
      exact hunique j ⟨part', hj, hfind'.trans hm⟩

/-- A blueprint of one path without parameters, whose answer is its state. -/
def statusDraft : Blueprint.Draft String where
  name := "status"
  paths := ["/status"]
  router := ⟨[.literal "/status" (.single (.only .get) fun s => Endpoint.text s)]⟩

/-- The pages with the status beside them; both match the path of the status. -/
def statusPages : Application :=
  pages.withBlueprint (statusDraft.withState "up")
    (pages.router.beside (statusDraft.withState "up").router)

theorem made_statusDraft : Blueprint.Draft.Made "status" ["/status"] statusDraft := by
  have hw : (Pattern.literal "/status").WellFormed := Pattern.wellFormed_literal rfl (by decide)
  refine .attach .empty (Blueprint.Draft.attach_new hw ?_ ?_ ?_ _)
  · exact List.not_mem_nil
  · exact List.not_mem_nil
  · exact fun q hq => absurd hq List.not_mem_nil

theorem status_beside_pages :
    Assembled [page "a"] pages ∧ Blueprint.Draft.Made "status" ["/status"] statusDraft ∧
      pages.register (statusDraft.withState "up") = .ok (statusPages, [registered "status"]) ∧
      (∀ req, statusPages.router.answer req = pages.router.answer req ∨
        statusPages.router.answer req = (statusDraft.router.map fun h => h "up").answer req) ∧
      ∃! i : Nat, ∃ part : Router Endpoint, (parts [page "a"])[i]? = some part ∧
        part.find? Health.path = pages.router.find? Health.path ∧
        pages.router.answer ⟨.get, { path := Health.path }, [], []⟩ =
          part.answer ⟨.get, { path := Health.path }, [], []⟩ := by
  have hr : pages.register (statusDraft.withState "up") =
      .ok (statusPages, [registered "status"]) := rfl
  obtain ⟨hstep, _, _, hrun⟩ := answer_of_one_part assembled_pages
  obtain ⟨hfall, _, hpart⟩ := hrun ⟨.get, { path := Health.path }, [], []⟩
  refine ⟨assembled_pages, made_statusDraft, hr, fun req => ?_, hpart fun h => ?_⟩
  · exact (hstep statusDraft "up" ["/status"] made_statusDraft statusPages _ hr req).2.2
  · exact hfall.mp h Health.path (by decide) ⟨.literal Health.path, rfl, rfl⟩

end DevServer.Application
